import AudioLink.Network.Basic
import AudioLink.Proofs.Link.Ledger
import AudioLink.Proofs.Link.Trace

/-!
# Delivery on a segment

A transmission puts its frame at the end of the queues of the other listening nodes, at most once
for each of them, and a transmission that fails puts it nowhere. Nothing else that an engine does
reaches another node, and nothing at all that it does reaches its own queue.
-/

namespace AudioLink

def Command.frame? : Command → Option Bytes
  | .frame bytes => some bytes
  | _ => none

def Event.isAudio : Event → Bool
  | process _ _ | received _ | connected _ | disconnected | delivered _ | demanded _ => true
  | _ => false

private theorem carried?_of_isAudio {event : Event} (h : event.isAudio = true) :
    event.carried? = none := by
  cases event <;> simp_all [Event.isAudio, Event.carried?]

private theorem frames_cons (command : Command) (rest : List Command) :
    (command :: rest).filterMap Command.frame? =
      command.frame?.toList ++ rest.filterMap Command.frame? := by
  cases h : command.frame? <;> simp [h]

namespace Queue

def frames (queue : Queue) : List Bytes := queue.pending.filterMap Command.frame?

def Bounded (queue : Queue) : Prop := queue.waiting.length ≤ queue.capacity

/-- The second queue holds what the first one does and, behind it, some of the given frames. -/
structure Gains (frames : List Bytes) (queue queue' : Queue) : Prop where
  bounded : queue.Bounded → queue'.Bounded
  frames : queue.Bounded → ∃ taken : List Bytes,
    taken.Sublist frames ∧ queue'.frames = queue.frames ++ taken

theorem Gains.refl (frames : List Bytes) (queue : Queue) : Gains frames queue queue where
  bounded := id
  frames _ := ⟨[], List.nil_sublist frames, (List.append_nil queue.frames).symm⟩

theorem Gains.trans {first second : List Bytes} {queue queue' queue'' : Queue}
    (h : Gains first queue queue') (h' : Gains second queue' queue'') :
    Gains (first ++ second) queue queue'' where
  bounded hbounded := h'.bounded (h.bounded hbounded)
  frames hbounded := by
    obtain ⟨taken, htaken, hframes⟩ := h.frames hbounded
    obtain ⟨taken', htaken', hframes'⟩ := h'.frames (h.bounded hbounded)
    refine ⟨taken ++ taken', htaken.append htaken', ?_⟩
    rw [hframes', hframes, List.append_assoc]

theorem Gains.mono {first second : List Bytes} {queue queue' : Queue} (h : Gains first queue queue')
    (hsub : first.Sublist second) : Gains second queue queue' where
  bounded := h.bounded
  frames hbounded := by
    obtain ⟨taken, htaken, hframes⟩ := h.frames hbounded
    exact ⟨taken, htaken.trans hsub, hframes⟩

private theorem gains_accept? {command : Command} {queue queue' : Queue}
    (h : queue.accept? command = some queue') : Gains command.frame?.toList queue queue' := by
  unfold accept? at h
  split at h
  · rename_i hspace
    cases h
    have hroom : queue.waiting.length < queue.capacity := by simpa [hasSpace] using hspace
    refine ⟨fun _ => ?_, fun _ => ⟨_, .refl _, ?_⟩⟩
    · simp only [Bounded, List.length_append, List.length_singleton]
      exact hroom
    · simp [frames, pending, frames_cons]
  · split at h
    · rename_i hwaits
      cases h
      simp only [readerWaits, Bool.and_eq_true, beq_iff_eq, Option.isNone_iff_eq_none] at hwaits
      obtain ⟨⟨hcapacity, -⟩, hhanded⟩ := hwaits
      refine ⟨id, fun hbounded => ⟨_, .refl _, ?_⟩⟩
      -- A queue without buffer holds nothing that the command could overtake.
      have hempty : queue.waiting = [] := by
        rw [Bounded, hcapacity] at hbounded
        exact List.length_eq_zero_iff.mp (Nat.le_zero.mp hbounded)
      simp [frames, pending, frames_cons, hhanded, hempty]
    · cases h

theorem gains_post (command : Command) (queue : Queue) :
    Gains command.frame?.toList queue (queue.post command).2 := by
  unfold post
  split
  · split
    · rename_i h
      exact gains_accept? h
    · exact .mono ⟨id, fun _ => ⟨[], .slnil, (List.append_nil queue.frames).symm⟩⟩
        (List.nil_sublist _)
  · exact .refl _ queue

private theorem gains_refused {command : Command} {queue : Queue}
    (h : (queue.post command).1 = false) : Gains [] queue (queue.post command).2 := by
  unfold post at h ⊢
  split at h
  · rename_i hopen
    rw [if_pos hopen]
    split at h
    · cases h
    · rename_i haccept
      exact ⟨id, fun _ => ⟨[], .slnil, (List.append_nil queue.frames).symm⟩⟩
  · rename_i hclosed
    rw [if_neg hclosed]
    exact .refl [] queue

theorem gains_send (command : Command) (queue : Queue) :
    Gains command.frame?.toList queue (queue.send command).2 := by
  unfold send
  split
  · split
    · rename_i h
      exact gains_accept? h
    · exact .refl _ queue
  · exact .refl _ queue

/-- The reader takes the command that has been there for the longest time. -/
theorem pending_take? {command : Command} {queue queue' : Queue}
    (h : queue.take? = some (command, queue')) : queue.pending = command :: queue'.pending := by
  unfold take? at h
  split at h
  · rename_i hhanded
    cases h
    simp [pending, hhanded]
  · rename_i hhanded
    split at h
    · cases h
    · rename_i hwaiting
      cases h
      simp [pending, hhanded, hwaiting]

theorem frames_take? {command : Command} {queue queue' : Queue}
    (h : queue.take? = some (command, queue')) :
    queue.frames = command.frame?.toList ++ queue'.frames := by
  rw [frames, frames, ← frames_cons, pending_take? h]

theorem bounded_take? {command : Command} {queue queue' : Queue}
    (h : queue.take? = some (command, queue')) (hbounded : queue.Bounded) : queue'.Bounded := by
  unfold take? at h
  split at h
  · cases h
    exact hbounded
  · split at h
    · cases h
    · rename_i hwaiting
      cases h
      rw [Bounded, hwaiting] at hbounded
      exact Nat.le_of_succ_le hbounded

end Queue

/-- The second node is the first one after its queue has taken in some of the given frames; its
timer and its pipeline may have changed. -/
structure Node.Gains (frames : List Bytes) (node node' : Node) : Prop where
  port : node'.port = node.port
  callbacks : node'.callbacks = node.callbacks
  engine : node'.engine = node.engine
  history : node'.history = node.history
  queue : node.queue.Gains frames node'.queue

namespace Node

theorem Gains.refl (frames : List Bytes) (node : Node) : Gains frames node node :=
  ⟨rfl, rfl, rfl, rfl, .refl frames node.queue⟩

theorem Gains.trans {first second : List Bytes} {node node' node'' : Node}
    (h : Gains first node node') (h' : Gains second node' node'') :
    Gains (first ++ second) node node'' where
  port := h'.port.trans h.port
  callbacks := h'.callbacks.trans h.callbacks
  engine := h'.engine.trans h.engine
  history := h'.history.trans h.history
  queue := h.queue.trans h'.queue

theorem Gains.mono {first second : List Bytes} {node node' : Node} (h : Gains first node node')
    (hsub : first.Sublist second) : Gains second node node' :=
  ⟨h.port, h.callbacks, h.engine, h.history, h.queue.mono hsub⟩

theorem gains_setQueue {frames : List Bytes} (node : Node) {queue : Queue}
    (h : node.queue.Gains frames queue) : Gains frames node (node.setQueue queue) :=
  ⟨rfl, rfl, rfl, rfl, h⟩

theorem gains_setClock (clock : Clockwork) (node : Node) : Gains [] node (node.setClock clock) :=
  ⟨rfl, rfl, rfl, rfl, .refl [] node.queue⟩

theorem gains_setPipeline (pipeline : Pipeline) (node : Node) :
    Gains [] node (node.setPipeline pipeline) :=
  ⟨rfl, rfl, rfl, rfl, .refl [] node.queue⟩

end Node

namespace Network

theorem node?_modify (i j : Nat) (change : Node → Node) (net : Network) :
    (net.modify i change).node? j = if i = j then (net.node? j).map change else net.node? j := by
  simp only [node?, modify, List.getElem?_modify]
  split <;> simp_all

/-- An access is a change, apart from its answer. -/
theorem access_eq_modify {α : Type} (i : Nat) (fallback : α) (use : Node → α × Node)
    (net : Network) : (net.access i fallback use).2 = net.modify i fun node => (use node).2 := by
  unfold access modify
  split
  · rename_i h
    rw [List.modify_eq_self (List.getElem?_eq_none_iff.mp h)]
  · rename_i node h
    have hset : net.nodes.set i (use node).2 = net.nodes.modify i fun node => (use node).2 := by
      apply List.ext_getElem?
      intro j
      rw [node?] at h
      rw [List.getElem?_set, List.getElem?_modify]
      split
      · rename_i hij
        subst hij
        rw [h, if_pos (List.getElem?_eq_some_iff.mp h).1]
        rfl
      · simp
    rw [← hset]

/-- The ports with the nodes they lead to. -/
def wires (net : Network) : List (Nat × Nat) :=
  net.segment.ports.map fun port => (port.id, port.node)

/-- Every node has a port of its own, whose number is one more than that of the node, and no queue
holds more than its capacity. -/
structure Wired (net : Network) : Prop where
  port : ∀ i node, net.node? i = some node → node.port = i + 1
  bounded : ∀ i node, net.node? i = some node → node.queue.Bounded
  wires : ∀ wire ∈ net.wires, wire.1 = wire.2 + 1
  nodup : (net.wires.map Prod.snd).Nodup

/-- The frames that reach node `j` when node `i` transmits: it does not hear itself. -/
def share (i j : Nat) (frames : List Bytes) : List Bytes := if j = i then [] else frames

/-- The second network is the first one after node `i` has transmitted the given frames, each of
which may have missed some of the nodes. -/
structure Carries (i : Nat) (frames : List Bytes) (net net' : Network) : Prop where
  nodes : ∀ j node', net'.node? j = some node' →
    ∃ node, net.node? j = some node ∧ node.Gains (share i j frames) node'
  size : net'.nodes.length = net.nodes.length
  wires : net'.wires = net.wires

theorem Carries.refl (i : Nat) (frames : List Bytes) (net : Network) : Carries i frames net net :=
  ⟨fun _ node h => ⟨node, h, .refl _ node⟩, rfl, rfl⟩

theorem Carries.trans {i : Nat} {first second : List Bytes} {net net' net'' : Network}
    (h : Carries i first net net') (h' : Carries i second net' net'') :
    Carries i (first ++ second) net net'' := by
  refine ⟨fun j node'' hnode'' => ?_, h'.size.trans h.size, h'.wires.trans h.wires⟩
  obtain ⟨node', hnode', hgains'⟩ := h'.nodes j node'' hnode''
  obtain ⟨node, hnode, hgains⟩ := h.nodes j node' hnode'
  have hshare : share i j (first ++ second) = share i j first ++ share i j second := by
    unfold share
    split <;> rfl
  rw [hshare]
  exact ⟨node, hnode, hgains.trans hgains'⟩

theorem Carries.wired {i : Nat} {frames : List Bytes} {net net' : Network}
    (h : Carries i frames net net') (hwired : net.Wired) : net'.Wired where
  port j node' hnode' := by
    obtain ⟨node, hnode, hgains⟩ := h.nodes j node' hnode'
    exact hgains.port.trans (hwired.port j node hnode)
  bounded j node' hnode' := by
    obtain ⟨node, hnode, hgains⟩ := h.nodes j node' hnode'
    exact hgains.queue.bounded (hwired.bounded j node hnode)
  wires := by
    rw [h.wires]
    exact hwired.wires
  nodup := by
    rw [h.wires]
    exact hwired.nodup

theorem carries_modify (i j : Nat) (change : Node → Node) (net : Network)
    (h : ∀ node : Node, node.Gains [] (change node)) : Carries i [] net (net.modify j change) := by
  refine ⟨fun k node' hnode' => ?_, List.length_modify _ _ _, rfl⟩
  have hnone : share i k [] = [] := by
    unfold share
    split <;> rfl
  rw [node?_modify] at hnode'
  rw [hnone]
  split at hnode'
  · obtain ⟨node, hnode, rfl⟩ := Option.map_eq_some_iff.mp hnode'
    exact ⟨node, hnode, h node⟩
  · exact ⟨node', hnode', .refl [] node'⟩

private theorem sublist_of_imp (frame : Bytes) {p q : Prop} [Decidable p] [Decidable q]
    (h : p → q) : (if p then [frame] else []).Sublist (if q then [frame] else []) := by
  by_cases hp : p
  · simp [hp, h hp]
  · simp [hp]

private theorem offer_gains (frame : Bytes) (ports : List Port) (net : Network)
    (hnodup : (ports.map Port.node).Nodup) :
    (net.offer frame ports).2.segment = net.segment ∧
      (net.offer frame ports).2.nodes.length = net.nodes.length ∧
      ∀ j node', (net.offer frame ports).2.node? j = some node' →
        ∃ node, net.node? j = some node ∧
          node.Gains
            (if j ∈ ports.map Port.node ∧ (net.offer frame ports).1 ≠ 0 then [frame] else [])
            node' := by
  induction ports generalizing net with
  | nil => exact ⟨rfl, rfl, fun j node' hnode' => ⟨node', hnode', .refl _ node'⟩⟩
  | cons port ports ih =>
    rw [List.map_cons, List.nodup_cons] at hnodup
    have hpost : (net.post port.node (.frame frame)).2 =
        net.modify port.node fun node => node.setQueue (node.queue.post (.frame frame)).2 :=
      access_eq_modify _ _ _ _
    obtain ⟨hsegment, hsize, hnodes⟩ := ih (net.post port.node (.frame frame)).2 hnodup.2
    refine ⟨hsegment.trans (by rw [hpost]; rfl), ?_, ?_⟩
    · refine hsize.trans ?_
      rw [hpost]
      exact List.length_modify _ _ _
    intro j node'' hnode''
    obtain ⟨node', hnode', hrest⟩ := hnodes j node'' hnode''
    rw [hpost, node?_modify] at hnode'
    split at hnode'
    · rename_i hj
      subst hj
      obtain ⟨node, hnode, rfl⟩ := Option.map_eq_some_iff.mp hnode'
      refine ⟨node, hnode, ?_⟩
      rw [if_neg fun h => hnodup.1 h.1] at hrest
      cases haccepted : (node.queue.post (.frame frame)).1 with
      | false =>
        have hrefused := node.gains_setQueue (Queue.gains_refused haccepted)
        exact (hrefused.trans hrest).mono (List.nil_sublist _)
      | true =>
        have htaken := node.gains_setQueue (Queue.gains_post (.frame frame) node.queue)
        have hcount : (net.offer frame (port :: ports)).1 ≠ 0 := by
          simp [offer, post, access, hnode, haccepted]
        rw [if_pos ⟨List.mem_cons_self, hcount⟩]
        exact htaken.trans hrest
    · refine ⟨node', hnode', hrest.mono (sublist_of_imp frame ?_)⟩
      intro h
      refine ⟨List.mem_cons_of_mem _ h.1, ?_⟩
      simp only [offer]
      omega

private theorem nodes_listeners (i : Nat) (frame : Bytes) {net : Network} (hwired : net.Wired) :
    ((net.segment.listeners (i + 1) frame).map Port.node).Nodup ∧
      i ∉ (net.segment.listeners (i + 1) frame).map Port.node := by
  have hsub : (net.segment.listeners (i + 1) frame).Sublist net.segment.ports :=
    List.filter_sublist
  refine ⟨?_, ?_⟩
  · have hnodup := hwired.nodup
    rw [wires, List.map_map] at hnodup
    exact hnodup.sublist (hsub.map _)
  · intro hmem
    obtain ⟨port, hport, hi⟩ := List.mem_map.mp hmem
    have hid := (List.mem_filter.mp hport).2
    have hwire : port.id = port.node + 1 :=
      hwired.wires (port.id, port.node) (List.mem_map_of_mem (hsub.subset hport))
    rw [hi] at hwire
    simp [hwire] at hid

private theorem transmit_carries (i : Nat) (frame : Bytes) {net : Network} (hwired : net.Wired) :
    Carries i (Event.carried? (.transmit frame (net.transmit (i + 1) frame).1)).toList net
      (net.transmit (i + 1) frame).2 := by
  obtain ⟨hnodup, hself⟩ := nodes_listeners i frame hwired
  obtain ⟨hsegment, hsize, hnodes⟩ :=
    offer_gains frame (net.segment.listeners (i + 1) frame) net hnodup
  unfold transmit
  split
  · dsimp only
    refine ⟨?_, hsize, ?_⟩
    · intro j node' hnode'
      obtain ⟨node, hnode, hgains⟩ := hnodes j node' hnode'
      refine ⟨node, hnode, hgains.mono ?_⟩
      unfold share
      by_cases hj : j ∈ (net.segment.listeners (i + 1) frame).map Port.node ∧
          (net.offer frame (net.segment.listeners (i + 1) frame)).1 ≠ 0
      · have hother : j ≠ i := fun h => hself (h ▸ hj.1)
        rw [if_pos hj, if_neg hother, if_neg fun h => hj.2 h.1]
        exact .refl _
      · rw [if_neg hj]
        exact List.nil_sublist _
    · unfold wires Segment.count
      rw [hsegment]
  · exact .refl i _ net

theorem wires_setFilter (id : Nat) (filter : Option FrameFilter) (segment : Segment) :
    (segment.setFilter id filter).ports.map (fun port => (port.id, port.node)) =
      segment.ports.map fun port => (port.id, port.node) := by
  simp only [Segment.setFilter, List.map_map]
  apply List.map_congr_left
  intro port _
  simp only [Function.comp_apply]
  split <;> rfl

private theorem uninstall_carries (i : Nat) (handle : Handle) (net : Network) :
    Carries i [] net (net.uninstall handle) :=
  ⟨fun _ node h => ⟨node, h, .refl _ node⟩, rfl, wires_setFilter handle none net.segment⟩

private theorem install_carries (i port : Nat) (filter : FrameFilter) (net : Network) :
    Carries i [] net (net.install port filter).2 := by
  refine ⟨fun _ node h => ⟨node, h, .refl _ node⟩, rfl, ?_⟩
  unfold install Segment.install
  split
  · rfl
  · split
    · rfl
    · exact wires_setFilter port (some filter) net.segment

/-- What the calls of the engine of node `i` come to: they change its timer or its pipeline, or the
segment has something to do. -/
inductive Deed (i port : Nat) (callbacks : Callbacks) (net : Network) : Event → Network → Prop where
  | arm (delay : Nanos) :
      Deed i port callbacks net (.arm delay ((host i port callbacks).arm delay net).1)
        (net.modify i fun node => node.setClock (node.clock.arm net.time delay).2)
  | rearm (delay : Nanos) :
      Deed i port callbacks net (.rearm delay)
        (net.modify i fun node => node.setClock (node.clock.rearm net.time delay))
  | cancel :
      Deed i port callbacks net .cancel (net.modify i fun node => node.setClock node.clock.cancel)
  | audio {event : Event} (h : event.isAudio = true) (pipeline : Node → Pipeline) :
      Deed i port callbacks net event
        (net.modify i fun node => node.setPipeline (pipeline node))
  | install :
      Deed i port callbacks net
        (.install Frame.hasDiscriminator (net.install port Frame.hasDiscriminator).1)
        (net.install port Frame.hasDiscriminator).2
  | uninstall (handle : Handle) :
      Deed i port callbacks net (.uninstall handle) (net.uninstall handle)
  | transmit (frame : Bytes) :
      Deed i port callbacks net (.transmit frame (net.transmit port frame).1)
        (net.transmit port frame).2
  | clock : Deed i port callbacks net (.clock ((host i port callbacks).now net)) net
  | note (notice : Notice) : Deed i port callbacks net (.note notice) net

theorem deed_of_does {i port : Nat} {callbacks : Callbacks} {event : Event} {net net' : Network}
    (h : (host i port callbacks).Does event net net') : Deed i port callbacks net event net' := by
  cases h with
  | arm delay =>
    have hdeed : Deed i port callbacks net _ _ := .arm delay
    rw [← access_eq_modify i (.ok ()) fun node =>
      ((node.clock.arm net.time delay).1, node.setClock (node.clock.arm net.time delay).2)] at hdeed
    exact hdeed
  | rearm delay => exact .rearm delay
  | cancel => exact .cancel
  | clock => exact .clock
  | install => exact .install
  | uninstall handle => exact .uninstall handle
  | transmit frame => exact .transmit frame
  | process =>
    simp only [host, access_eq_modify]
    exact .audio rfl fun node => (node.pipeline.process Header.zero).2
  | received header => exact .audio rfl fun node => node.pipeline.receive header
  | connected device callback _ h =>
    rw [eq_of_ite_some h]
    exact .audio rfl fun node => node.pipeline.announce (some device)
  | disconnected callback _ h =>
    rw [eq_of_ite_some h]
    exact .audio rfl fun node => node.pipeline.announce none
  | delivered block callback _ h =>
    rw [eq_of_ite_some h]
    exact .audio rfl fun node => node.pipeline.deliver block
  | demanded callback _ h =>
    rw [eq_of_ite_some h]
    simp only [access_eq_modify]
    exact .audio rfl fun node => node.pipeline.ask.2
  | note notice => exact .note notice

private theorem does_carries {i : Nat} {callbacks : Callbacks} {event : Event} {net net' : Network}
    (h : (host i (i + 1) callbacks).Does event net net') (hwired : net.Wired) :
    Carries i event.carried?.toList net net' := by
  cases deed_of_does h with
  | arm | rearm | cancel => exact carries_modify i i _ net fun node => node.gains_setClock _
  | audio haudio pipeline =>
    rw [carried?_of_isAudio haudio]
    exact carries_modify i i _ net fun node => node.gains_setPipeline _
  | install => exact install_carries i _ _ net
  | uninstall handle => exact uninstall_carries i handle net
  | transmit frame => exact transmit_carries i frame hwired
  | clock | note => exact .refl i _ net

theorem trace_carries {i : Nat} {callbacks : Callbacks} {events : List Event}
    {net net' : Network} (h : (host i (i + 1) callbacks).Trace events net net')
    (hwired : net.Wired) :
    Carries i (History.observed Event.carried? events) net net' := by
  induction h with
  | nil net => exact .refl i _ net
  | cons _ hdoes ih =>
    rw [History.observed_cons]
    have hbefore := ih hwired
    exact hbefore.trans (does_carries hdoes (hbefore.wired hwired))

end Network

end AudioLink
