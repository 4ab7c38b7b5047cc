import Mathlib.Data.List.Basic
import AudioLink.Proofs.Network.Medium

/-!
# What slaves take in

A slave takes in the frames that fit the layout it listens to, whoever sent them: frames carry no
address that would tell a master from another slave. With nobody else on its layout a slave takes in
packets of the master only, each of them as it was encoded, in their order and at most once.
-/

namespace AudioLink

open History

namespace Network

/-- The packets that the engine of node `i` took in: it showed their headers to its data stream,
handed on their blocks if anyone takes them, and counted them. -/
structure TookIn (member : Member) (i : Nat) (net : Network) (packets : List (Header × Bytes)) :
    Prop where
  headers : observed Event.header? (net.historyOf i) = packets.map Prod.fst
  blocks : observed Event.block? (net.historyOf i) =
    if member.callbacks.received then packets.map Prod.snd else []
  count : ∀ engine, net.engine? i = some engine → engine.stats.received = packets.length

def hears (members : List Member) (s : Nat) (slave : Member) (i : Nat) : Bool :=
  i ≠ s && members[i]?.any fun other =>
    other.settings.device.outChannels = slave.settings.device.inChannels

namespace Account

variable {members : List Member} {log : List (Nat × Bytes)} {fed : Nat → List Bytes}
  {net : Network} {i : Nat} {member : Member}

private theorem node_of_member (h : Account members log fed net)
    (hmember : members[i]? = some member) :
    (∃ node, net.node? i = some node ∧ net.historyOf i = node.history) ∧
      Ledger member.settings member.callbacks (fed i) (net.historyOf i) ∧
      ∀ engine, net.engine? i = some engine →
        Audit member.settings (fed i) (net.historyOf i) engine := by
  have hsize : i < net.nodes.length := by
    rw [h.size]
    exact (List.getElem?_eq_some_iff.mp hmember).1
  have hnode : net.node? i = some net.nodes[i] := List.getElem?_eq_getElem hsize
  obtain ⟨other, hother, -, hledger, haudit⟩ := h.books i net.nodes[i] hnode
  rw [hmember] at hother
  cases hother
  have hhistory : net.historyOf i = net.nodes[i].history := by
    rw [historyOf, hnode]
  have hengine : net.engine? i = net.nodes[i].engine := by
    rw [engine?, hnode]
    rfl
  rw [hengine, hhistory]
  exact ⟨⟨net.nodes[i], hnode, rfl⟩, hledger, haudit⟩

private theorem framesFrom_eq (h : Account members log fed net) (i : Nat) :
    framesFrom i log = observed Event.carried? (net.historyOf i) := by
  unfold historyOf
  split
  · rename_i node hnode
    exact h.logged i node hnode
  · rename_i hnone
    have hsize : members.length ≤ i := by
      rw [← h.size]
      exact List.getElem?_eq_none_iff.mp hnone
    have hempty : log.filter (fun entry => entry.1 = i) = [] := by
      rw [List.filter_eq_nil_iff]
      intro entry hentry hi
      have hknown := h.known entry hentry
      have hsame : entry.1 = i := by simpa using hi
      omega
    rw [framesFrom, hempty]
    rfl

private theorem framesFrom_built (h : Account members log fed net)
    (hmember : members[i]? = some member) :
    ∃ packets : List (Header × Bytes),
      packets.Sublist (encoded member.outbound member.callbacks.needed (net.historyOf i)) ∧
      (∀ packet ∈ packets, packet.2.length = member.outbound.samplesLength) ∧
      framesFrom i log = packets.map fun packet => Frame.build packet.1 packet.2 := by
  obtain ⟨-, hledger, -⟩ := h.node_of_member hmember
  obtain ⟨packets, hpackets, hcarried⟩ := hledger.sent
  refine ⟨packets, hpackets, ?_, ?_⟩
  · intro packet hpacket
    exact length_of_mem_encoded (hpackets.subset hpacket)
  · rw [h.framesFrom_eq, hcarried]

private theorem stats_sent (h : Account members log fed net) (hmember : members[i]? = some member)
    {engine : Engine} (hengine : net.engine? i = some engine) :
    engine.stats.sent = (framesFrom i log).length := by
  obtain ⟨-, -, haudit⟩ := h.node_of_member hmember
  rw [(haudit engine hengine).sent, h.framesFrom_eq]

private theorem fed_sublist (h : Account members log fed net)
    (hmember : members[i]? = some member) : (fed i).Sublist (framesToward i log) := by
  obtain ⟨⟨node, hnode, -⟩, -, -⟩ := h.node_of_member hmember
  exact (List.sublist_append_left _ _).trans (h.medium i node hnode)

private theorem tookIn (h : Account members log fed net) (hmember : members[i]? = some member) :
    ∃ packets, packets.Sublist ((framesToward i log).filterMap (Frame.content? member.inbound)) ∧
      TookIn member i net packets := by
  obtain ⟨-, hledger, haudit⟩ := h.node_of_member hmember
  obtain ⟨packets, hpackets, hheaders, hblocks⟩ := hledger.taken
  refine ⟨packets, hpackets.trans ((h.fed_sublist hmember).filterMap _), hheaders, hblocks, ?_⟩
  intro engine hengine
  rw [(haudit engine hengine).received, hheaders, List.length_map]

private theorem filterMap_framesToward (h : Account members log fed net) {s : Nat}
    {slave : Member} :
    (framesToward s log).filterMap (Frame.content? slave.inbound) =
      ((log.filter fun entry => hears members s slave entry.1).map Prod.snd).filterMap
        (Frame.content? slave.inbound) := by
  unfold framesToward
  rw [List.filterMap_map, List.filterMap_map, List.filterMap_filter, List.filterMap_filter]
  apply List.filterMap_congr
  intro entry hentry
  by_cases hself : entry.1 = s
  · simp [hears, hself]
  obtain ⟨other, hother⟩ : ∃ other, members[entry.1]? = some other :=
    ⟨_, List.getElem?_eq_getElem (h.known entry hentry)⟩
  by_cases hchannels : other.settings.device.outChannels = slave.settings.device.inChannels
  · simp [hears, hself, hother, hchannels]
  have hsent : entry.2 ∈ framesFrom entry.1 log :=
    List.mem_map_of_mem (List.mem_filter.mpr ⟨hentry, by simp⟩)
  obtain ⟨packets, -, hlength, hbuilt⟩ := h.framesFrom_built hother
  rw [hbuilt] at hsent
  obtain ⟨packet, hpacket, hframe⟩ := List.mem_map.mp hsent
  have hsize : packet.2.length ≠ slave.inbound.samplesLength := by
    rw [hlength packet hpacket]
    intro hsame
    exact hchannels (congrArg Layout.channels (Layout.samplesLength_injective hsame))
  have hnone : Frame.content? slave.inbound entry.2 = none := by
    rw [← hframe]
    exact Frame.content?_build_of_ne packet.1 packet.2 _ hsize
  simp [hears, hself, hother, hchannels, hnone]

private theorem malformed_le (h : Account members log fed net) (hmember : members[i]? = some member)
    {engine : Engine} (hengine : net.engine? i = some engine) :
    engine.stats.malformed ≤
      (framesToward i log).countP fun frame => (Frame.content? member.inbound frame).isNone := by
  obtain ⟨-, -, haudit⟩ := h.node_of_member hmember
  exact Nat.le_trans (haudit engine hengine).malformed (h.fed_sublist hmember).countP_le

private theorem answering (h : Account members log fed net) (hmember : members[i]? = some member)
    (hrole : member.role = .slave) :
    Answering ((net.historyOf i).filter Event.isExchange) := by
  obtain ⟨-, hledger, -⟩ := h.node_of_member hmember
  exact hledger.answers hrole

end Account

private theorem filterMap_build {packets : List (Header × Bytes)} {layout : Layout}
    (hlength : ∀ packet ∈ packets, packet.2.length = layout.samplesLength) :
    (packets.map fun packet => Frame.build packet.1 packet.2).filterMap
      (Frame.content? layout) = packets := by
  induction packets with
  | nil => rfl
  | cons packet packets ih =>
    rw [List.forall_mem_cons] at hlength
    rw [List.map_cons, List.filterMap_cons,
      Frame.content?_build packet.1 packet.2 layout hlength.1]
    exact congrArg (packet :: ·) (ih hlength.2)

variable {members : List Member} {s m : Nat} {slave master : Member} {actions : List Action}

/-- On a segment of one master and one slave, whose channels agree, the slave takes in packets that
the master encoded, unchanged, in their order and none of them twice; it finds nothing malformed
and counts no more packets than the master. -/
theorem packets_of_master (hpair : members.length = 2) (hmaster : members[m]? = some master)
    (hslave : members[s]? = some slave) (hdrives : master.role = .master)
    (hanswers : slave.role = .slave)
    (hchannels : master.settings.device.outChannels = slave.settings.device.inChannels)
    (hframes : ∀ action ∈ actions, action.frame? = none) :
    (∃ packets, TookIn slave s ((ofMembers members).run actions) packets ∧
      packets.Sublist (encoded master.outbound master.callbacks.needed
        (((ofMembers members).run actions).historyOf m))) ∧
    ∀ engine, ((ofMembers members).run actions).engine? s = some engine →
      engine.stats.malformed = 0 ∧
      ∀ sender, ((ofMembers members).run actions).engine? m = some sender →
        engine.stats.received ≤ sender.stats.sent := by
  obtain ⟨fed, h⟩ := accounted_run members hframes
  generalize (ofMembers members).broadcasts actions = log at h
  have hother : m ≠ s := by
    intro hsame
    rw [hsame, hslave] at hmaster
    cases hmaster
    rw [hdrives] at hanswers
    cases hanswers
  have htoward : framesToward s log = framesFrom m log := by
    have hm := (List.getElem?_eq_some_iff.mp hmaster).1
    have hs := (List.getElem?_eq_some_iff.mp hslave).1
    unfold framesToward framesFrom
    congr 1
    apply List.filter_congr
    intro entry hentry
    have hknown := h.known entry hentry
    rw [decide_eq_decide]
    omega
  obtain ⟨sent, hsent, hlength, hbuilt⟩ := h.framesFrom_built hmaster
  have hlayout : slave.inbound = master.outbound := by
    rw [Member.inbound, Member.outbound, Device.inbound, Device.outbound, hchannels]
  have hread : (framesToward s log).filterMap (Frame.content? slave.inbound) = sent := by
    rw [htoward, hbuilt, hlayout]
    exact filterMap_build hlength
  obtain ⟨packets, hpackets, htook⟩ := h.tookIn hslave
  rw [hread] at hpackets
  refine ⟨⟨packets, htook, hpackets.trans hsent⟩, ?_⟩
  intro engine hengine
  refine ⟨?_, ?_⟩
  · have hnone : (framesToward s log).countP
        (fun frame => (Frame.content? slave.inbound frame).isNone) = 0 := by
      rw [htoward, hbuilt, hlayout, List.countP_eq_zero]
      intro frame hframe
      obtain ⟨packet, hpacket, rfl⟩ := List.mem_map.mp hframe
      rw [Frame.content?_build packet.1 packet.2 _ (hlength packet hpacket)]
      simp
    have hle := h.malformed_le hslave hengine
    omega
  · intro sender hsender
    rw [htook.count engine hengine, h.stats_sent hmaster hsender, hbuilt, List.length_map]
    exact hpackets.length_le

/-- A master and a slave that listens to it. -/
def duet : List Member := [speaker .master 1 1, speaker .slave 1 1]

def onePacket : List Action :=
  [.post 0 (.start 0), .work 0, .post 1 (.start 0), .work 1, .post 0 (.fire 1), .work 0, .work 1]

theorem packets_of_master_duet :
    ((∃ packets, TookIn (speaker .slave 1 1) 1 ((ofMembers duet).run onePacket) packets ∧
        packets.Sublist (encoded (speaker .master 1 1).outbound false
          (((ofMembers duet).run onePacket).historyOf 0))) ∧
      ∀ engine, ((ofMembers duet).run onePacket).engine? 1 = some engine →
        engine.stats.malformed = 0 ∧
        ∀ sender, ((ofMembers duet).run onePacket).engine? 0 = some sender →
          engine.stats.received ≤ sender.stats.sent) ∧
    (observed Event.header? (((ofMembers duet).run onePacket).historyOf 1)).length = 1 := by
  refine ⟨?_, by decide +kernel⟩
  have hmaster : duet[0]? = some (speaker .master 1 1) := rfl
  have hslave : duet[1]? = some (speaker .slave 1 1) := rfl
  exact packets_of_master rfl hmaster hslave rfl rfl rfl (by decide)

/-- A slave takes in and answers what is sent under the layout that it listens to, by the master or
by another slave, in the order in which all of them sent, and nothing twice. If no other slave sends
under that layout, all of it comes from the master. Only node `m` may be a master. -/
theorem packets_of_matching_nodes (hslave : members[s]? = some slave)
    (hanswers : slave.role = .slave)
    (honly : ∀ i other, members[i]? = some other → i ≠ m → other.role = .slave)
    (hframes : ∀ action ∈ actions, action.frame? = none) :
    (∀ i, framesFrom i ((ofMembers members).broadcasts actions) =
      observed Event.carried? (((ofMembers members).run actions).historyOf i)) ∧
    (∃ packets,
      packets.Sublist
        (((((ofMembers members).broadcasts actions).filter fun entry =>
          hears members s slave entry.1).map Prod.snd).filterMap (Frame.content? slave.inbound)) ∧
      TookIn slave s ((ofMembers members).run actions) packets) ∧
    Answering ((((ofMembers members).run actions).historyOf s).filter Event.isExchange) ∧
    ((∀ i other, members[i]? = some other → i ≠ s → other.role = .slave →
        other.settings.device.outChannels ≠ slave.settings.device.inChannels) →
      (∃ packets,
        packets.Sublist
          ((observed Event.carried? (((ofMembers members).run actions).historyOf m)).filterMap
            (Frame.content? slave.inbound)) ∧
        TookIn slave s ((ofMembers members).run actions) packets) ∧
      (∀ engine, ((ofMembers members).run actions).engine? s = some engine →
        engine.stats.received ≤
          (observed Event.carried? (((ofMembers members).run actions).historyOf m)).length) ∧
      (observed Event.attempted? (((ofMembers members).run actions).historyOf s)).length ≤
        (observed Event.carried? (((ofMembers members).run actions).historyOf m)).length) := by
  obtain ⟨fed, h⟩ := accounted_run members hframes
  generalize (ofMembers members).broadcasts actions = log at h ⊢
  obtain ⟨packets, hpackets, htook⟩ := h.tookIn hslave
  rw [h.filterMap_framesToward] at hpackets
  have hreplies := h.answering hslave hanswers
  refine ⟨h.framesFrom_eq, ⟨packets, hpackets, htook⟩, hreplies, ?_⟩
  intro halone
  have hmaster : (log.filter fun entry => hears members s slave entry.1).Sublist
      (log.filter fun entry => entry.1 = m) := by
    apply List.monotone_filter_right
    intro entry hhears
    by_contra hother
    have hm : entry.1 ≠ m := by simpa using hother
    simp only [hears, Bool.and_eq_true, decide_eq_true_eq, Option.any_eq_true] at hhears
    obtain ⟨hself, other, hmember, hchannels⟩ := hhears
    exact halone entry.1 other hmember hself (honly entry.1 other hmember hm) hchannels
  have hsent : packets.Sublist ((framesFrom m log).filterMap (Frame.content? slave.inbound)) :=
    hpackets.trans ((hmaster.map _).filterMap _)
  have hlength : packets.length ≤ (framesFrom m log).length :=
    Nat.le_trans hsent.length_le (List.length_filterMap_le _ _)
  rw [← h.framesFrom_eq]
  refine ⟨⟨packets, hsent, htook⟩, ?_, ?_⟩
  · intro engine hengine
    rw [htook.count engine hengine]
    exact hlength
  · refine Nat.le_trans hreplies.length_le ?_
    rw [htook.headers, List.length_map]
    exact hlength

/-- A master, two slaves that listen to it, and a slave that listens to these. -/
def quartet : List Member :=
  [speaker .master 1 1, speaker .slave 1 2, speaker .slave 1 2, speaker .slave 2 3]

def oneRound : List Action :=
  [.post 0 (.start 0), .work 0, .post 1 (.start 0), .work 1, .post 2 (.start 0), .work 2,
    .post 3 (.start 0), .work 3, .post 0 (.fire 1), .work 0, .work 1, .work 2, .work 3, .work 3,
    .work 3]

theorem packets_of_matching_nodes_quartet :
    (∃ packets,
      packets.Sublist
        ((observed Event.carried? (((ofMembers quartet).run oneRound).historyOf 0)).filterMap
          (Frame.content? (speaker .slave 1 2).inbound)) ∧
      TookIn (speaker .slave 1 2) 1 ((ofMembers quartet).run oneRound) packets) ∧
    (observed Event.header? (((ofMembers quartet).run oneRound).historyOf 1)).length = 1 ∧
    (∃ packets,
      packets.Sublist
        (((((ofMembers quartet).broadcasts oneRound).filter fun entry =>
          hears quartet 3 (speaker .slave 2 3) entry.1).map Prod.snd).filterMap
            (Frame.content? (speaker .slave 2 3).inbound)) ∧
      TookIn (speaker .slave 2 3) 3 ((ofMembers quartet).run oneRound) packets) ∧
    (observed Event.header? (((ofMembers quartet).run oneRound).historyOf 3)).length = 2 ∧
    ((ofMembers quartet).broadcasts oneRound).map Prod.fst = [0, 1, 2, 3, 3] := by
  have hslave : quartet[1]? = some (speaker .slave 1 2) := rfl
  have hlast : quartet[3]? = some (speaker .slave 2 3) := rfl
  have honly (i : Nat) (other : Member) (h : quartet[i]? = some other) (hi : i ≠ 0) :
      other.role = .slave := by
    have hslaves : ∀ other ∈ quartet.tail, other.role = .slave := by decide
    cases i with
    | zero => exact absurd rfl hi
    | succ i => exact hslaves other (List.mem_of_getElem? h)
  have halone (i : Nat) (other : Member) (h : quartet[i]? = some other) (_ : i ≠ 1)
      (hrole : other.role = .slave) : other.settings.device.outChannels ≠ 1 := by
    have hchannels : ∀ other ∈ quartet, other.role = .slave →
        other.settings.device.outChannels ≠ 1 := by
      decide
    exact hchannels other (List.mem_of_getElem? h) hrole
  have hframes : ∀ action ∈ oneRound, action.frame? = none := by decide
  obtain ⟨-, -, -, hfirst⟩ := packets_of_matching_nodes hslave rfl honly hframes
  obtain ⟨-, hboth, -⟩ := packets_of_matching_nodes hlast rfl honly hframes
  exact ⟨(hfirst halone).1, by decide +kernel, hboth, by decide +kernel, by decide +kernel⟩

/-- The last slave of the quartet takes in two packets while the master has sent one frame, which
that slave cannot even read. -/
theorem slave_answers_slaves :
    quartet.map Member.role = [.master, .slave, .slave, .slave] ∧
    (∀ action ∈ oneRound, action.frame? = none) ∧
    (¬ ∃ packets,
      packets.Sublist
        ((observed Event.carried? (((ofMembers quartet).run oneRound).historyOf 0)).filterMap
          (Frame.content? (speaker .slave 2 3).inbound)) ∧
      TookIn (speaker .slave 2 3) 3 ((ofMembers quartet).run oneRound) packets) ∧
    ¬ ∀ engine, ((ofMembers quartet).run oneRound).engine? 3 = some engine →
      engine.stats.received ≤
        (observed Event.carried? (((ofMembers quartet).run oneRound).historyOf 0)).length := by
  have hsent : (observed Event.carried?
      (((ofMembers quartet).run oneRound).historyOf 0)).length = 1 := by
    decide +kernel
  have hread : (observed Event.carried?
      (((ofMembers quartet).run oneRound).historyOf 0)).filterMap
        (Frame.content? (speaker .slave 2 3).inbound) = [] := by
    decide +kernel
  have hreceived : (((ofMembers quartet).run oneRound).engine? 3).map
      (fun engine => engine.stats.received) = some 2 := by
    decide +kernel
  obtain ⟨engine, hengine, hcount⟩ := Option.map_eq_some_iff.mp hreceived
  refine ⟨rfl, by decide, ?_, ?_⟩
  · rintro ⟨packets, hpackets, htook⟩
    rw [hread, List.sublist_nil] at hpackets
    have hnone := htook.count engine hengine
    rw [hpackets, hcount] at hnone
    cases hnone
  · intro hclaim
    have hle := hclaim engine hengine
    omega

end Network

end AudioLink
