import Mathlib.Data.List.Infix
import AudioLink.Proofs.Network.Traffic

/-!
# The counters of a segment

However ports come and go and whatever passes over a segment, its counters are those of its traffic,
and what it has dropped is what its queues have counted and what closed queues have refused.
-/

namespace AudioLink

private theorem Queue.dropped_send (command : Command) (queue : Queue) :
    (queue.send command).2.dropped = queue.dropped := by
  by_cases haccepted : (queue.send command).1 = some true
  · have haccepts := (accepts_of_send haccepted).2
    generalize (queue.send command).2 = queue' at haccepts ⊢
    cases haccepts <;> rfl
  · rw [send_of_refused haccepted]

private theorem ThreadTimer.dropped_fire (timer : ThreadTimer) (queue : Queue) :
    (timer.fire queue).1.dropped = queue.dropped := by
  unfold fire
  split
  · dsimp only
    split <;> exact Queue.dropped_send _ queue
  · rfl

/-- One thing that can happen at a segment. -/
inductive Move where
  | operate (operation : Operation)
  | install (port : Nat) (filter : FrameFilter)
  | uninstall (handle : Handle)

def Move.isPost : Move → Bool
  | .operate (.act (.post _ _)) => true
  | _ => false

namespace Network

def move (net : Network) : Move → Network
  | .operate operation => net.operate operation
  | .install port filter => (net.install port filter).2
  | .uninstall handle => net.uninstall handle

def moveAll (moves : List Move) (net : Network) : Network := moves.foldl move net

def sent (net : Network) (m : Move) : List Transmission :=
  match m with
  | .operate (.transmit port frame) => [⟨net, port, frame⟩]
  | .operate (.drop i) | .operate (.act (.work i)) | .operate (.act (.enter i _)) =>
    sentBy i net (net.move m)
  | _ => []

/-- All transmissions of a run, the first one first. -/
def traffic : List Move → Network → List Transmission
  | [], _ => []
  | m :: moves, net => net.sent m ++ traffic moves (net.move m)

variable {net net' net'' : Network}

/-- What a run comes to in which commands may have been posted past the segment. -/
structure Runs (sent : List Transmission) (posted : Bool) (net net' : Network) : Prop where
  anchored : net'.Anchored
  counts : Counts sent net net'
  balances : posted = false → Balances sent net net'

private theorem Books.runs {sent : List Transmission} (h : Books sent net net')
    (hanchored : net.Anchored) (posted : Bool) : Runs sent posted net net' :=
  ⟨h.ground.anchored hanchored h.bounded, h.counts, fun _ => h.balances⟩

private theorem Quiet.runs (h : Quiet net net') (hanchored : net.Anchored) (posted : Bool) :
    Runs [] posted net net' :=
  (h.books hanchored.bounded).runs hanchored posted

private theorem wires_attach (i : Nat) (net : Network) :
    wires { net with segment := (net.segment.attach i).2 } =
      net.wires ++ [(net.segment.lastId + 1, i)] := by
  simp [wires, Segment.attach]

theorem Anchored.attach (h : net.Anchored) (i : Nat) :
    Anchored { net with segment := (net.segment.attach i).2 } := by
  refine ⟨?_, ?_, ?_, h.bounded⟩
  · rw [wires_attach, List.forall_mem_append, List.forall_mem_singleton]
    exact ⟨fun wire hwire => Nat.le_succ_of_le (h.issued wire hwire), Nat.le_refl _⟩
  · intro port hport
    exact Nat.le_succ_of_le (h.placed port hport)
  · intro j port hport
    rw [wires_attach, List.forall_mem_append, List.forall_mem_singleton]
    refine ⟨h.own j port hport, ?_⟩
    rintro rfl
    exact absurd (h.placed _ (List.mem_of_getElem? hport)) (Nat.not_succ_le_self _)

theorem Anchored.join (h : net.Anchored) (capacity : Nat) : (net.join capacity).2.Anchored := by
  have hattached := h.attach net.nodes.length
  have hwires : (net.join capacity).2.wires =
      net.wires ++ [(net.segment.lastId + 1, net.nodes.length)] :=
    wires_attach net.nodes.length net
  have hseats : (net.join capacity).2.nodes.map Node.port =
      net.nodes.map Node.port ++ [net.segment.lastId + 1] := by
    simp only [Network.join, List.map_append]
    rfl
  refine ⟨hattached.issued, ?_, ?_, ?_⟩
  · rw [hseats, List.forall_mem_append, List.forall_mem_singleton]
    exact ⟨hattached.placed, Nat.le_refl _⟩
  · intro j port hport
    rw [hseats, List.getElem?_append] at hport
    split at hport
    · exact hattached.own j port hport
    · rename_i hj
      rw [List.length_map, Nat.not_lt] at hj
      obtain ⟨hlt, rfl⟩ := List.getElem?_eq_some_iff.mp hport
      rw [List.length_map, List.length_singleton] at hlt
      rw [hwires, List.forall_mem_append, List.forall_mem_singleton]
      constructor
      · intro wire hwire hid
        have hissued := h.issued wire hwire
        rw [hid, List.getElem_singleton] at hissued
        exact absurd hissued (Nat.not_succ_le_self _)
      · intro _
        dsimp only
        omega
  · intro node hnode
    rcases List.mem_append.mp hnode with hold | hnew
    · exact h.bounded node hold
    · rw [List.mem_singleton.mp hnew]
      exact Nat.zero_le _

theorem Anchored.detach (h : net.Anchored) (port : Nat) : (net.detach port).Anchored := by
  have hsub : (net.detach port).wires.Sublist net.wires := List.filter_sublist.map _
  refine ⟨?_, h.placed, ?_, h.bounded⟩
  · intro wire hwire
    exact h.issued wire (hsub.subset hwire)
  · intro i port' hport wire hwire
    exact h.own i port' hport wire (hsub.subset hwire)

private theorem act_runs (hanchored : net.Anchored) (hseparate : net.Separate) (action : Action) :
    Runs (net.sent (.operate (.act action))) (Move.isPost (.operate (.act action))) net
      (net.act action) := by
  have hbounded {i : Nat} {node : Node} (hnode : net.node? i = some node) : node.queue.Bounded :=
    hanchored.bounded node (List.mem_of_getElem? hnode)
  cases action with
  | post i command =>
    rw [act, post, access_eq_modify]
    have hground : SameGround net
        (net.modify i fun node => node.setQueue (node.queue.post command).2) := by
      refine ⟨rfl, rfl, view_modify i ?_ net⟩
      intro node
      rfl
    refine ⟨hground.anchored hanchored ?_, counts_nil rfl rfl, ?_⟩
    · apply bounded_modify hanchored.bounded
      intro node hnode
      exact (Queue.gains_post command node.queue).bounded (hbounded hnode)
    · intro hposted
      cases hposted
  | send i command =>
    rw [act, send, access_eq_modify]
    refine (books_modify hanchored.bounded ?_ ?_).runs hanchored _
    · intro node
      rfl
    · intro node hnode
      exact ⟨Queue.dropped_send command node.queue,
        (Queue.gains_send command node.queue).bounded (hbounded hnode)⟩
  | work i => exact (books_step hanchored hseparate i).runs hanchored _
  | enter i call => exact (books_enter hanchored hseparate i call).runs hanchored _
  | timerRead i | timerExpire i =>
    refine (quiet_modify i ?_ ?_ net).runs hanchored _
    · intro node
      cases node.clock <;> rfl
    · intro node
      cases node.clock <;> rfl
  | timerFire i =>
    refine (books_modify hanchored.bounded ?_ ?_).runs hanchored _
    · intro node
      cases node.clock <;> rfl
    · intro node hnode
      split
      · rename_i timer _
        exact ⟨ThreadTimer.dropped_fire timer node.queue,
          (gains_fire timer node.queue).bounded (hbounded hnode)⟩
      · exact ⟨rfl, hbounded hnode⟩
  | clock i clock => exact (quiet_setClock i (fun _ => clock) net).runs hanchored _
  | audio i pipeline => exact (quiet_setPipeline i (fun _ => pipeline) net).runs hanchored _
  | time time =>
    have hquiet : Quiet net { net with time } := ⟨⟨rfl, rfl, rfl⟩, rfl, rfl, rfl, rfl⟩
    exact hquiet.runs hanchored _
  | detach port => exact ⟨hanchored.detach port, counts_nil rfl rfl, fun _ => rfl⟩

private theorem move_runs (hanchored : net.Anchored) (hseparate : net.Separate) (m : Move) :
    Runs (net.sent m) m.isPost net (net.move m) := by
  have hqueue {i : Nat} {node : Node} (hnode : net.node? i = some node) : node.queue.Bounded :=
    hanchored.bounded node (List.mem_of_getElem? hnode)
  cases m with
  | install port filter => exact (quiet_install port filter net).runs hanchored _
  | uninstall handle => exact (quiet_setFilter handle none net).runs hanchored _
  | operate operation =>
    cases operation with
    | join capacity =>
      have htotal : (net.join capacity).2.total Queue.dropped = net.total Queue.dropped := by
        simp [total, Network.join, Node.create, Queue.ofCapacity]
      refine ⟨hanchored.join capacity, counts_nil rfl rfl, fun _ => ?_⟩
      exact congrArg (net.segment.dropped + ·) htotal.symm
    | attach i => exact ⟨hanchored.attach i, counts_nil rfl rfl, fun _ => rfl⟩
    | spawn i settings callbacks supply clock =>
      change Runs [] false net (net.operate (.spawn i settings callbacks supply clock))
      rw [operate]
      split
      · exact (Quiet.refl net).runs hanchored _
      · refine (books_modify hanchored.bounded ?_ ?_).runs hanchored _
        · intro node
          rfl
        · intro node hnode
          have hbounded := hqueue hnode
          exact ⟨rfl, hbounded⟩
    | drop i => exact (books_drop hanchored hseparate i).runs hanchored _
    | abandon i =>
      refine (books_modify hanchored.bounded ?_ ?_).runs hanchored _
      · intro node
        rfl
      · intro node hnode
        have hbounded := hqueue hnode
        exact ⟨rfl, hbounded⟩
    | transmit port frame =>
      exact (transmit_books hseparate hanchored.bounded port frame).runs hanchored _
    | act action => exact act_runs hanchored hseparate action

theorem Runs.trans {sent sent' : List Transmission} {posted posted' : Bool}
    (h : Runs sent posted net net') (h' : Runs sent' posted' net' net'') :
    Runs (sent ++ sent') (posted || posted') net net'' := by
  refine ⟨h'.anchored, h.counts.trans h'.counts, ?_⟩
  intro hposted
  rw [Bool.or_eq_false_iff] at hposted
  exact (h.balances hposted.1).trans (h'.balances hposted.2)

private theorem moveAll_runs (moves : List Move) (hanchored : net.Anchored)
    (hseparate : ∀ before, before <+: moves → (net.moveAll before).Separate) :
    Runs (traffic moves net) (moves.any Move.isPost) net (net.moveAll moves) := by
  induction moves generalizing net with
  | nil => exact (Quiet.refl net).runs hanchored _
  | cons m moves ih =>
    have hmove : Runs (net.sent m) m.isPost net (net.move m) :=
      move_runs hanchored (hseparate [] List.nil_prefix) m
    have hrest : Runs (traffic moves (net.move m)) (moves.any Move.isPost) (net.move m)
        ((net.move m).moveAll moves) := by
      apply ih hmove.anchored
      intro before hbefore
      exact hseparate (m :: before) (List.cons_prefix_cons.mpr ⟨rfl, hbefore⟩)
    exact hmove.trans hrest

/-- Whatever is done on a segment whose ports always lead to different loops: every transmission,
from whichever port and at whichever time, fans out; the counters of the segment are the number of
transmissions from attached ports and the number of frames that these put into queues; and if nobody
else posts without waiting, the segment has dropped as many frames as the queues have counted and
closed queues have refused. -/
theorem counters_of_traffic (moves : List Move)
    (hseparate : ∀ before, before <+: moves → (Network.empty.moveAll before).Separate) :
    let net := Network.empty.moveAll moves
    let sent := traffic moves .empty
    (∀ port frame, net.FansOut port frame) ∧
    (∀ t ∈ sent, t.FansOut) ∧
    net.segment.transmitted = sent.countP Transmission.isOnAir ∧
    net.segment.delivered = (sent.map Transmission.enqueued).sum ∧
    ((∀ m ∈ moves, m.isPost = false) →
      net.segment.dropped = net.total Queue.dropped + (sent.map Transmission.shut).sum) := by
  intro net sent
  have hruns : Runs sent (moves.any Move.isPost) .empty net :=
    moveAll_runs moves anchored_empty hseparate
  refine ⟨?_, hruns.counts.fansOut, ?_, ?_, ?_⟩
  · exact fansOut (hseparate moves List.prefix_rfl) hruns.anchored.bounded
  · exact hruns.counts.transmitted.trans (Nat.zero_add _)
  · exact hruns.counts.delivered.trans (Nat.zero_add _)
  · intro hquiet
    have hbalances : Balances sent .empty net := by
      apply hruns.balances
      simpa using hquiet
    simpa [Balances, total, empty, Segment.empty] using hbalances

/-- Three nodes, the second of which has room for one frame, while the third has closed its queue.
The first one transmits twice, and a third time without its port. -/
def crowded : List Move :=
  [.operate (.join 1), .operate (.join 1), .operate (.join 1), .install 2 fun _ => true,
    .install 3 fun _ => true, .operate (.abandon 2), .operate (.transmit 1 []),
    .operate (.transmit 1 []), .operate (.act (.detach 1)), .operate (.transmit 1 [])]

theorem counters_of_traffic_crowded :
    let net := Network.empty.moveAll crowded
    let sent := traffic crowded .empty
    (∀ before, before <+: crowded → (Network.empty.moveAll before).Separate) ∧
      (∀ m ∈ crowded, m.isPost = false) ∧ (∀ t ∈ sent, t.FansOut) ∧ sent.length = 3 ∧
      net.segment.transmitted = 2 ∧ net.segment.delivered = 1 ∧
      net.segment.dropped = net.total Queue.dropped + (sent.map Transmission.shut).sum ∧
      net.total Queue.dropped = 1 ∧ (sent.map Transmission.shut).sum = 2 := by
  intro net sent
  have hseparate : ∀ before, before <+: crowded → (Network.empty.moveAll before).Separate := by
    have hinits : ∀ before ∈ crowded.inits, (Network.empty.moveAll before).Separate := by
      decide +kernel
    intro before hbefore
    exact hinits before ((List.mem_inits _ _).mpr hbefore)
  have hposts : ∀ m ∈ crowded, m.isPost = false := by decide
  obtain ⟨-, hfans, htransmitted, hdelivered, hdropped⟩ := counters_of_traffic crowded hseparate
  refine ⟨hseparate, hposts, hfans, ?_, ?_, ?_, hdropped hposts, ?_, ?_⟩
  · decide +kernel
  · exact htransmitted.trans (by decide +kernel)
  · exact hdelivered.trans (by decide +kernel)
  · decide +kernel
  · decide +kernel

end Network

end AudioLink
