import Mathlib.Algebra.Order.BigOperators.Group.List
import Mathlib.Algebra.Order.Ring.Nat
import AudioLink.Proofs.Network.Medium

/-!
# What a working loop does

A loop takes one command from its queue, and its engine sends at most one frame on it: a master on
a firing, a slave on a packet of its inbound layout. The frame is of the outbound layout and comes
into each other queue at most once. Nothing else changes in a queue, so for any weight of the
commands the queue of the loop gets lighter by the command, and each other one heavier by at most
the frame.
-/

namespace AudioLink

namespace Queue

/-- The commands of a queue that bring no frame. -/
def others (queue : Queue) : List Command :=
  queue.pending.filter fun command => command.frame?.isNone

def weigh (weight : Command → Nat) (queue : Queue) : Nat := (queue.pending.map weight).sum

private theorem weigh_eq (weight : Command → Nat) (queue : Queue) :
    queue.weigh weight =
      (queue.frames.map fun frame => weight (.frame frame)).sum +
        (queue.others.map weight).sum := by
  unfold weigh frames others
  induction queue.pending with
  | nil => rfl
  | cons command rest ih =>
    rw [List.map_cons, List.sum_cons, ih]
    cases command <;>
      simp only [List.filterMap_cons, List.filter_cons, Command.frame?, Option.isNone_none,
        Option.isNone_some, Bool.false_eq_true, if_true, if_false, List.map_cons,
        List.sum_cons] <;>
      omega

private theorem Gains.weigh_le {frames : List Bytes} {queue queue' : Queue}
    (h : Gains frames queue queue') (hbounded : queue.Bounded)
    (hothers : queue'.others = queue.others)
    (weight : Command → Nat) :
    queue'.weigh weight ≤
      queue.weigh weight + (frames.map fun frame => weight (.frame frame)).sum := by
  obtain ⟨taken, htaken, hframes⟩ := h.frames hbounded
  have hsum := (htaken.map fun frame => weight (.frame frame)).sum_le_sum fun _ _ => Nat.zero_le _
  rw [weigh_eq, weigh_eq, hframes, hothers, List.map_append, List.sum_append]
  omega

private theorem others_accept? {frame : Bytes} {queue queue' : Queue}
    (h : queue.accept? (.frame frame) = some queue') : queue'.others = queue.others := by
  unfold accept? at h
  split at h
  · cases h
    simp [others, pending, Command.frame?]
  · split at h
    · rename_i hwaits
      cases h
      simp only [readerWaits, Bool.and_eq_true, Option.isNone_iff_eq_none] at hwaits
      simp [others, pending, hwaits.2, Command.frame?]
    · cases h

private theorem others_post (frame : Bytes) (queue : Queue) :
    (queue.post (.frame frame)).2.others = queue.others := by
  unfold post
  split
  · split
    · rename_i h
      exact others_accept? h
    · rfl
  · rfl

theorem exists_take? {queue : Queue} (h : queue.pending ≠ []) :
    ∃ command queue', queue.take? = some (command, queue') := by
  unfold take?
  cases hhanded : queue.handed with
  | some command => exact ⟨_, _, rfl⟩
  | none =>
    cases hwaiting : queue.waiting with
    | nil => exact absurd (by simp [pending, hhanded, hwaiting]) h
    | cons command rest => exact ⟨_, _, rfl⟩

private theorem weigh_take? {command : Command} {queue queue' : Queue} (weight : Command → Nat)
    (h : queue.take? = some (command, queue')) :
    queue.weigh weight = weight command + queue'.weigh weight := by
  rw [weigh, pending_take? h, List.map_cons, List.sum_cons]
  rfl

end Queue

/-- The commands on which an engine with these settings may send a packet. -/
inductive Prompts (settings : Settings) : Command → Prop
  | fire (generation : UInt64) (h : settings.role = .master) : Prompts settings (.fire generation)
  | frame {bytes : Bytes} {packet : Header × Bytes} (h : settings.role = .slave)
      (hcontent : Frame.content? settings.device.inbound bytes = some packet) :
      Prompts settings (.frame bytes)

/-- What an engine with these settings sends on a command: nothing, or one packet. -/
inductive Replies (settings : Settings) (command : Command) : List Bytes → Prop
  | nothing : Replies settings command []
  | packet (header : Header) (block : Bytes)
      (hsize : block.length = settings.device.outbound.samplesLength)
      (hprompts : Prompts settings command) :
      Replies settings command [Frame.build header block]

open History

theorem Sending.replies {settings : Settings} {command : Command} {asks : Bool}
    {events : List Event} {count : Stats → Stats}
    (h : Sending settings.device.outbound asks events count) (hprompts : Prompts settings command) :
    Replies settings command (observed Event.carried? events) := by
  cases h with
  | unready cause h =>
    simp [observed_cons, Event.carried?, observed_of_quiet carried?_of_quiet h.quiet,
      Replies.nothing]
  | refused header cause h =>
    simp [observed_cons, Event.carried?, observed_of_quiet carried?_of_quiet h.quiet,
      Replies.nothing]
  | sent header h =>
    simp [observed_cons, Event.carried?, observed_of_quiet carried?_of_quiet h.quiet,
      Replies.packet header _ h.length_block hprompts]

namespace Station

variable {W : Type} {host : Host W}

/-- The entry that carries out a command, if there is one. -/
def callOf? : Command → Option Call
  | .fire generation => some (.fireTagged generation)
  | .frame bytes => some (.inbound bytes)
  | .start _ => some .start
  | .stop _ | .shutdown => some .stop
  | .status _ => none

theorem Effect.replies {s : Station W} {command : Command} {call : Call} {events : List Event}
    {engine : Engine} (hcall : callOf? command = some call) (h : s.Effect host call events engine) :
    Replies s.engine.settings command (observed Event.carried? events) := by
  have hquiet {events : List Event} (h : ∀ event ∈ events, event.isQuiet = true) :
      observed Event.carried? events = [] := observed_of_quiet carried?_of_quiet h
  cases h with
  | ignored h => exact .nothing
  | stale h => exact .nothing
  | malformed cause h hrole hframe hdecode => exact .nothing
  | start h => exact hquiet h.quiet ▸ .nothing
  | stopped h =>
    rw [observed_cons, observed_append, observed_append,
      hquiet (quiet_of_news (s.news_partingEvents host))]
    cases s.engine.hook <;> exact .nothing
  | fired now h hfiring hsent =>
    rw [observed_cons, observed_cons, observed_append,
      hquiet (quiet_of_news (s.news_lossEvents host))]
    rcases hsent with ⟨hrole, hsent⟩ | ⟨-, rfl, -⟩
    · have hprompts : Prompts s.engine.settings command := by
        cases command with
        | fire generation => exact .fire generation hrole
        | frame bytes => rcases hfiring with h | h <;> subst h <;> cases hcall
        | _ => rcases hfiring with h | h <;> subst h <;> cases hcall
      simpa [Event.carried?] using hsent.replies hprompts
    · exact .nothing
  | @packet frame header block sent count h hrole hcontent hsent =>
    have hprompts : Prompts s.engine.settings command := by
      cases command with
      | frame bytes =>
        cases hcall
        exact .frame hrole hcontent
      | _ => cases hcall
    have hbefore : observed Event.carried? (.received header ::
        (host.delivery block ++ arrivalEvents host s.device s.engine.tracker header.counter)) =
        [] := by
      rw [observed_cons, observed_append,
        hquiet (quiet_of_news (news_arrivalEvents host s.device s.engine.tracker header.counter))]
      unfold Host.delivery
      cases host.deliver.isSome <;> rfl
    rw [observed_append, hbefore, List.nil_append]
    exact hsent.replies hprompts

/-- What carrying out a command does to the surroundings, and what is sent by it. -/
theorem execute_replies (host : Host W) (dropped : Nat) (command : Command) (s : Station W) :
    ∃ events, host.Trace events s.world (s.execute host dropped command).2.world ∧
      (s.execute host dropped command).2.engine.settings = s.engine.settings ∧
      Replies s.engine.settings command (observed Event.carried? events) := by
  have hperform {call : Call} (hcall : callOf? command = some call) :
      ∃ events, host.Trace events s.world (s.perform host call).2.world ∧
        (s.perform host call).2.engine.settings = s.engine.settings ∧
        Replies s.engine.settings command (observed Event.carried? events) := by
    obtain ⟨events, engine, heffect, -, -, htrace⟩ := perform_trace host call s
    exact ⟨events, htrace, settings_perform host call s, heffect.replies hcall⟩
  cases command with
  | status ticket => exact ⟨[], .nil s.world, rfl, .nothing⟩
  | fire generation => exact hperform rfl
  | frame bytes => exact hperform rfl
  | start ticket => exact hperform rfl
  | stop ticket => exact hperform rfl
  | shutdown => exact hperform rfl

end Station

namespace Network

/-- A view of nodes that shows neither the timer nor the pipeline, and of the queue no frames. -/
structure Blind {α : Type} (view : Node → α) : Prop where
  clock : ∀ clock node, view (Node.setClock clock node) = view node
  pipeline : ∀ pipeline node, view (Node.setPipeline pipeline node) = view node
  post : ∀ frame node, view (node.setQueue (node.queue.post (.frame frame)).2) = view node

variable {α : Type} {view : Node → α}

theorem view_modify (i : Nat) {change : Node → Node} (h : ∀ node, view (change node) = view node)
    (net : Network) : (net.modify i change).nodes.map view = net.nodes.map view := by
  apply List.ext_getElem?
  intro j
  simp only [modify, List.getElem?_map, List.getElem?_modify]
  split
  · cases net.nodes[j]? with
    | none => rfl
    | some node => exact congrArg some (h node)
  · cases net.nodes[j]? <;> rfl

theorem view_offer
    (hpost : ∀ frame node, view (node.setQueue (node.queue.post (.frame frame)).2) = view node)
    (frame : Bytes) (ports : List Port) (net : Network) :
    (net.offer frame ports).2.nodes.map view = net.nodes.map view := by
  induction ports generalizing net with
  | nil => rfl
  | cons port ports ih =>
    refine (ih (net.post port.node (.frame frame)).2).trans ?_
    rw [post, access_eq_modify]
    exact view_modify port.node (hpost frame) net

private theorem view_does (hview : Blind view) {i port : Nat} {callbacks : Callbacks}
    {event : Event} {net net' : Network} (h : (host i port callbacks).Does event net net') :
    net'.nodes.map view = net.nodes.map view := by
  cases deed_of_does h with
  | arm | rearm | cancel => exact view_modify i (fun node => hview.clock _ node) net
  | audio => exact view_modify i (fun node => hview.pipeline _ node) net
  | transmit frame =>
    unfold transmit
    split
    · exact view_offer hview.post frame _ net
    · rfl
  | install | uninstall | clock | note => rfl

theorem view_trace (hview : Blind view) {i port : Nat} {callbacks : Callbacks}
    {events : List Event} {net net' : Network}
    (h : (host i port callbacks).Trace events net net') :
    net'.nodes.map view = net.nodes.map view := by
  induction h with
  | nil net => rfl
  | cons _ hdoes ih => exact (view_does hview hdoes).trans ih

theorem blind_others : Blind fun node => node.queue.others :=
  ⟨fun _ _ => rfl, fun _ _ => rfl, fun frame node => Queue.others_post frame node.queue⟩

def settings? (i : Nat) (net : Network) : Option Settings := (net.engine? i).map Engine.settings

def weighAt (weight : Command → Nat) (i : Nat) (net : Network) : Nat :=
  match net.node? i with
  | some node => node.queue.weigh weight
  | none => 0

/-- Whether the loop of node `i` has a command to carry out. -/
def isBusyAt (i : Nat) (net : Network) : Bool := (net.node? i).any Node.isBusy

/-- What there is to one step of the loop of node `i`. -/
structure Worked (i : Nat) (settings : Settings) (command : Command) (sent : List Bytes)
    (net net' : Network) : Prop where
  wired : net'.Wired
  size : net'.nodes.length = net.nodes.length
  present : net.settings? i = some settings
  replies : Replies settings command sent
  settings : ∀ j settings', net'.settings? j = some settings' → net.settings? j = some settings'
  own : ∀ weight, net'.weighAt weight i + weight command ≤ net.weighAt weight i
  others : ∀ j, j ≠ i → ∀ weight, net'.weighAt weight j ≤
    net.weighAt weight j + (sent.map fun frame => weight (.frame frame)).sum

theorem settings?_eq_some {i : Nat} {net : Network} {settings : Settings} :
    net.settings? i = some settings ↔
      ∃ node engine, net.node? i = some node ∧ node.engine = some engine ∧
        engine.settings = settings := by
  unfold settings? engine?
  rw [Option.map_eq_some_iff]
  constructor
  · rintro ⟨engine, hengine, hsettings⟩
    obtain ⟨node, hnode, hengine⟩ := Option.bind_eq_some_iff.mp hengine
    exact ⟨node, engine, hnode, hengine, hsettings⟩
  · rintro ⟨node, engine, hnode, hengine, hsettings⟩
    exact ⟨engine, Option.bind_eq_some_iff.mpr ⟨node, hnode, hengine⟩, hsettings⟩

variable {net : Network} {i : Nat} {node : Node} {engine : Engine} {command : Command}

private theorem worked_putLoop (hwired : net.Wired) (hnode : net.node? i = some node)
    (hengine : node.engine = some engine) {l : WorkLoop Network} {events : List Event}
    (htrace : (host i node.port node.callbacks).Trace events net l.world)
    (hreplies : Replies engine.settings command (observed Event.carried? events))
    (hsettings : ∀ engine', l.engine = some engine' → engine'.settings = engine.settings)
    (hbounded : l.queue.Bounded)
    (hqueue : ∀ weight, l.queue.weigh weight + weight command ≤ node.queue.weigh weight) :
    Worked i engine.settings command (observed Event.carried? events) net (putLoop i l) := by
  -- The calls bring other queues nothing but the frames that were sent; what they may have done to
  -- the own queue is overwritten by what the loop puts back.
  have hothers := view_trace blind_others htrace
  rw [hwired.port i node hnode] at htrace
  have hcarries := trace_carries htrace hwired
  have hother {j : Nat} (hj : j ≠ i) {node' : Node} (hnode' : (putLoop i l).node? j = some node') :
      ∃ before, net.node? j = some before ∧ node'.engine = before.engine ∧
        ∀ weight, node'.queue.weigh weight ≤ before.queue.weigh weight +
          ((observed Event.carried? events).map fun frame => weight (.frame frame)).sum := by
    obtain ⟨before, hbefore, hgains⟩ := putLoop_other hcarries hj hnode'
    have hsame : node'.queue.others = before.queue.others := by
      rw [putLoop, node?_modify, if_neg (Ne.symm hj)] at hnode'
      have hview := congrArg (fun nodes => nodes[j]?) hothers
      rw [node?] at hnode' hbefore
      simpa [hnode', hbefore] using hview
    exact ⟨before, hbefore, hgains.engine,
      hgains.queue.weigh_le (hwired.bounded j before hbefore) hsame⟩
  refine ⟨wired_putLoop hwired hnode hcarries hbounded, ?_, ?_, hreplies, ?_, ?_, ?_⟩
  · exact (List.length_modify _ _ _).trans hcarries.size
  · exact settings?_eq_some.mpr ⟨node, engine, hnode, hengine, rfl⟩
  · intro j settings' hsettings'
    obtain ⟨node', engine', hnode', hengine', rfl⟩ := settings?_eq_some.mp hsettings'
    rw [settings?_eq_some]
    by_cases hj : j = i
    · subst hj
      obtain ⟨-, -, -, hlast, -⟩ := putLoop_self hwired hnode hcarries hnode'
      rw [hlast] at hengine'
      exact ⟨node, engine, hnode, hengine, (hsettings engine' hengine').symm⟩
    · obtain ⟨before, hbefore, hsame, -⟩ := hother hj hnode'
      exact ⟨before, engine', hbefore, hsame ▸ hengine', rfl⟩
  · intro weight
    unfold weighAt
    rw [hnode]
    cases hnode' : (putLoop i l).node? i with
    | none =>
      have hlighter := hqueue weight
      dsimp only
      omega
    | some node' =>
      obtain ⟨-, -, hlast, -⟩ := putLoop_self hwired hnode hcarries hnode'
      dsimp only
      rw [hlast]
      exact hqueue weight
  · intro j hj weight
    unfold weighAt
    cases hnode' : (putLoop i l).node? j with
    | none => exact Nat.zero_le _
    | some node' =>
      obtain ⟨before, hbefore, -, hheavier⟩ := hother hj hnode'
      rw [hbefore]
      exact hheavier weight

theorem isBusyAt_iff : net.isBusyAt i = true ↔
    ∃ node engine, net.node? i = some node ∧ node.engine = some engine ∧
      node.queue.pending ≠ [] := by
  unfold isBusyAt Node.isBusy
  cases hnode : net.node? i with
  | none => simp
  | some node => cases hengine : node.engine <;> simp [hengine]

/-- A busy loop takes one command, and nothing else happens but what follows from it. -/
theorem step_worked (hwired : net.Wired) (hbusy : net.isBusyAt i = true) :
    ∃ settings command sent, Worked i settings command sent net (net.step i) := by
  obtain ⟨node, engine, hnode, hengine, hpending⟩ := isBusyAt_iff.mp hbusy
  obtain ⟨command, queue, htake⟩ := Queue.exists_take? hpending
  obtain ⟨events, htrace, hsettings, hreplies⟩ :=
    Station.execute_replies (host i node.port node.callbacks) queue.dropped command
      ⟨engine, net, node.history⟩
  have hbounded := Queue.bounded_take? htake (hwired.bounded i node hnode)
  have hweight (weight : Command → Nat) :
      queue.weigh weight + weight command ≤ node.queue.weigh weight := by
    rw [Queue.weigh_take? weight htake, Nat.add_comm]
  have hstep : net.step i =
      putLoop i ((net.loopOf node).step (host i node.port node.callbacks)) := by
    rw [step, hnode]
  refine ⟨engine.settings, command, observed Event.carried? events, ?_⟩
  rw [hstep]
  unfold WorkLoop.step loopOf
  dsimp only
  rw [hengine, htake]
  dsimp only
  split
  · refine worked_putLoop hwired hnode hengine htrace hreplies (fun _ h => ?_) hbounded hweight
    cases h
  · refine worked_putLoop hwired hnode hengine htrace hreplies (fun _ h => ?_) hbounded hweight
    cases h
    exact hsettings

private theorem modify_of_fixed {change : Node → Node} (hnode : net.node? i = some node)
    (h : change node = node) : net.modify i change = net := by
  have hnodes : net.nodes.modify i change = net.nodes := by
    apply List.ext_getElem?
    intro j
    rw [List.getElem?_modify]
    split
    · rename_i hij
      subst hij
      rw [show net.nodes[i]? = some node from hnode]
      exact congrArg some h
    · simp
  rw [modify, hnodes]

/-- A loop without a command, or without an engine, does nothing. -/
theorem step_of_idle (h : net.isBusyAt i = false) : net.step i = net := by
  unfold step
  split
  · rfl
  · rename_i node hnode
    have hidle : (net.loopOf node).step (host i node.port node.callbacks) = net.loopOf node := by
      unfold WorkLoop.step
      split
      · rename_i engine command queue hengine htake
        have hpending : node.queue.pending = command :: queue.pending := Queue.pending_take? htake
        have hsome : node.queue.pending ≠ [] := hpending ▸ List.cons_ne_nil _ _
        have hbusy : net.isBusyAt i = true := isBusyAt_iff.mpr ⟨node, engine, hnode, hengine, hsome⟩
        rw [h] at hbusy
        cases hbusy
      · rfl
    rw [hidle]
    refine modify_of_fixed hnode ?_
    unfold loopOf
    dsimp only
    rw [if_neg]
    cases node.engine <;> simp

private theorem wired_modify (h : net.Wired) (i : Nat) {change : Node → Node}
    (hchange : ∀ node : Node, ∃ frames, node.Gains frames (change node)) :
    (net.modify i change).Wired := by
  have hback (j : Nat) (node' : Node) (hnode' : (net.modify i change).node? j = some node') :
      ∃ node frames, net.node? j = some node ∧ node.Gains frames node' := by
    rw [node?_modify] at hnode'
    split at hnode'
    · obtain ⟨node, hnode, rfl⟩ := Option.map_eq_some_iff.mp hnode'
      obtain ⟨frames, hgains⟩ := hchange node
      exact ⟨node, frames, hnode, hgains⟩
    · exact ⟨node', [], hnode', .refl [] node'⟩
  refine ⟨?_, ?_, h.wires, h.nodup⟩
  · intro j node' hnode'
    obtain ⟨node, frames, hnode, hgains⟩ := hback j node' hnode'
    exact hgains.port.trans (h.port j node hnode)
  · intro j node' hnode'
    obtain ⟨node, frames, hnode, hgains⟩ := hback j node' hnode'
    exact hgains.queue.bounded (h.bounded j node hnode)

private theorem wired_enter (h : net.Wired) (i : Nat) (call : Call) : (net.enter i call).Wired := by
  unfold enter
  split
  · exact h
  rename_i node hnode
  split
  · exact h
  rename_i engine hengine
  obtain ⟨events, -, -, -, -, htrace⟩ := Station.perform_trace
    (host i node.port node.callbacks) call ⟨engine, net, node.history⟩
  rw [h.port i node hnode] at htrace ⊢
  exact wired_putLoop h hnode (trace_carries htrace h) (h.bounded i node hnode)

/-- Every action leaves each node its port, and no queue fuller than it may be. -/
theorem wired_act (h : net.Wired) (action : Action) : (net.act action).Wired := by
  cases action with
  | post i command =>
    rw [act, post, access_eq_modify]
    exact wired_modify h i fun node =>
      ⟨_, node.gains_setQueue (Queue.gains_post command node.queue)⟩
  | send i command =>
    rw [act, send, access_eq_modify]
    exact wired_modify h i fun node =>
      ⟨_, node.gains_setQueue (Queue.gains_send command node.queue)⟩
  | work i =>
    cases hbusy : net.isBusyAt i with
    | true =>
      obtain ⟨settings, command, sent, hworked⟩ := step_worked h hbusy
      exact hworked.wired
    | false =>
      have hsame : net.act (.work i) = net := step_of_idle hbusy
      rw [hsame]
      exact h
  | enter i call => exact wired_enter h i call
  | timerRead i =>
    refine wired_modify h i fun node => ⟨[], ?_⟩
    split
    · exact node.gains_setClock _
    · exact .refl [] node
  | timerExpire i =>
    refine wired_modify h i fun node => ⟨[], ?_⟩
    split
    · exact node.gains_setClock _
    · exact .refl [] node
  | timerFire i =>
    refine wired_modify h i fun node => ⟨[], ?_⟩
    split
    · rename_i timer _
      exact (node.gains_setQueue (gains_fire timer node.queue)).trans (Node.gains_setClock _ _)
    · exact .refl [] node
  | clock i clock => exact wired_modify h i fun node => ⟨_, node.gains_setClock clock⟩
  | audio i pipeline => exact wired_modify h i fun node => ⟨_, node.gains_setPipeline pipeline⟩
  | time time => exact ⟨h.port, h.bounded, h.wires, h.nodup⟩
  | detach port =>
    have hsub : (net.detach port).wires.Sublist net.wires := List.filter_sublist.map _
    exact ⟨h.port, h.bounded, fun wire hwire => h.wires wire (hsub.subset hwire),
      h.nodup.sublist (hsub.map _)⟩

/-- Whatever happens on a network, commands and frames from outside included, it stays wired. -/
theorem wired_run (members : List Member) (actions : List Action) :
    ((ofMembers members).run actions).Wired := by
  have hrun (actions : List Action) : ∀ net, Network.Wired net → (net.run actions).Wired := by
    induction actions with
    | nil => exact fun _ h => h
    | cons action actions ih => exact fun net h => ih (net.act action) (wired_act h action)
  obtain ⟨fed, haccount⟩ := accounted_ofMembers members
  exact hrun actions _ haccount.wired

end Network

end AudioLink
