import Mathlib.Data.List.Nodup
import AudioLink.Proofs.Network.Dispatch
import AudioLink.Proofs.Network.Ports

/-!
# One frame on a segment

A transmission goes to all other ports whose filter accepts the frame. Where each of them has a
queue of its own, none is in the way of another: each queue takes the frame or counts it by itself,
and the counters of the segment tell how many did the one and how many the other. Over all queues
together, as many frames more wait as were delivered, and what was dropped has been counted by the
queues that are open.
-/

namespace AudioLink

namespace Queue

/-- Whether a post would be accepted. -/
def hasRoom (queue : Queue) : Bool := queue.isOpen && (queue.hasSpace || queue.readerWaits)

private theorem post_fst (command : Command) (queue : Queue) :
    (queue.post command).1 = queue.hasRoom := by
  unfold post accept? hasRoom
  cases queue.isOpen <;> cases queue.hasSpace <;> cases queue.readerWaits <;> rfl

/-- What a queue with room makes of a post. -/
structure Takes (command : Command) (queue queue' : Queue) : Prop where
  pending : queue'.pending = queue.pending ++ [command]
  capacity : queue'.capacity = queue.capacity
  attended : queue'.attended = queue.attended
  isOpen : queue'.isOpen = queue.isOpen
  dropped : queue'.dropped = queue.dropped

private theorem Accepts.takes {command : Command} {queue queue' : Queue}
    (h : queue.Accepts command queue') (hbounded : queue.Bounded) : queue.Takes command queue' := by
  have hpending := h.pending hbounded
  cases h with
  | buffered _ => exact ⟨hpending, rfl, rfl, rfl, rfl⟩
  | handed _ _ _ => exact ⟨hpending, rfl, rfl, rfl, rfl⟩

private theorem takes_post {command : Command} {queue : Queue} (h : queue.hasRoom = true)
    (hbounded : queue.Bounded) : queue.Takes command (queue.post command).2 := by
  rw [← post_fst command] at h
  exact (accepts_of_post h).2.takes hbounded

end Queue

def Node.hear (frame : Bytes) (node : Node) : Node :=
  node.setQueue (node.queue.post (.frame frame)).2

namespace Network

variable {net : Network}

/-- Each port leads to a node of its own. -/
def Separate (net : Network) : Prop := (net.segment.ports.map Port.node).Nodup

instance (net : Network) : Decidable net.Separate := inferInstanceAs (Decidable (List.Nodup _))

/-- No queue holds more than its capacity. -/
def Bounded (net : Network) : Prop := ∀ node ∈ net.nodes, node.queue.Bounded

def hasRoomAt (i : Nat) (net : Network) : Bool := (net.node? i).any fun node => node.queue.hasRoom

private theorem post_eq (i : Nat) (frame : Bytes) (net : Network) :
    net.post i (.frame frame) = (net.hasRoomAt i, net.modify i (Node.hear frame)) := by
  apply Prod.ext
  · unfold post access hasRoomAt
    cases net.node? i with
    | none => rfl
    | some node => exact Queue.post_fst _ _
  · exact access_eq_modify _ _ _ _

private theorem hasRoomAt_modify {i j : Nat} (h : i ≠ j) (change : Node → Node) (net : Network) :
    (net.modify i change).hasRoomAt j = net.hasRoomAt j := by
  rw [hasRoomAt, node?_modify, if_neg h]
  rfl

private theorem offer_of_nodup (frame : Bytes) {ports : List Port} (h : (ports.map Port.node).Nodup)
    (net : Network) :
    (net.offer frame ports).1 = (ports.countP fun port => net.hasRoomAt port.node) ∧
      ∀ j, (net.offer frame ports).2.node? j =
        if j ∈ ports.map Port.node then (net.node? j).map (Node.hear frame) else net.node? j := by
  induction ports generalizing net with
  | nil =>
    constructor
    · rfl
    · intro j
      rfl
  | cons port ports ih =>
    rw [List.map_cons, List.nodup_cons] at h
    obtain ⟨hcount, hnodes⟩ := ih h.2 (net.modify port.node (Node.hear frame))
    have hrooms : (ports.countP fun port' =>
        (net.modify port.node (Node.hear frame)).hasRoomAt port'.node) =
        ports.countP fun port' => net.hasRoomAt port'.node := by
      apply List.countP_congr
      intro port' hport'
      have hother : port.node ≠ port'.node := by
        intro hsame
        rw [hsame] at h
        exact h.1 (List.mem_map_of_mem hport')
      rw [hasRoomAt_modify hother]
    rw [offer, post_eq]
    constructor
    · dsimp only
      rw [hcount, hrooms, List.countP_cons, Nat.add_comm]
    · intro j
      dsimp only
      rw [hnodes, node?_modify, List.map_cons]
      by_cases hj : port.node = j
      · subst hj
        rw [if_neg h.1, if_pos rfl, if_pos List.mem_cons_self]
      · have hiff : j ∈ port.node :: ports.map Port.node ↔ j ∈ ports.map Port.node := by
          rw [List.mem_cons]
          exact or_iff_right (Ne.symm hj)
        rw [if_neg hj]
        simp only [hiff]

/-- How many of the listening ports have room for a frame. -/
def served (port : Nat) (frame : Bytes) (net : Network) : Nat :=
  (net.segment.listeners port frame).countP fun listener => net.hasRoomAt listener.node

/-- How many of the listening ports have none. -/
def missed (port : Nat) (frame : Bytes) (net : Network) : Nat :=
  (net.segment.listeners port frame).countP fun listener => !net.hasRoomAt listener.node

private theorem length_listeners (port : Nat) (frame : Bytes) (net : Network) :
    (net.segment.listeners port frame).length = net.served port frame + net.missed port frame := by
  simpa [served, missed] using (net.segment.listeners port frame).length_eq_countP_add_countP
    (fun listener => net.hasRoomAt listener.node)

/-- What the transmission of a frame from a port comes to. -/
structure FansOut (port : Nat) (frame : Bytes) (net : Network) : Prop where
  detached : net.segment.isAttached port = false →
    net.transmit port frame = (.error .linkDown, net)
  counted : net.segment.isAttached port = true →
    (net.transmit port frame).2.segment =
      { net.segment with
        transmitted := net.segment.transmitted + 1
        delivered := net.segment.delivered + net.served port frame
        dropped := net.segment.dropped + net.missed port frame }
  answered : net.segment.isAttached port = true →
    (net.transmit port frame).1 =
      if net.served port frame = 0 ∧ 0 < net.missed port frame then .error .queueFull else .ok ()
  taken : net.segment.isAttached port = true →
    ∀ listener ∈ net.segment.listeners port frame, ∀ node, net.node? listener.node = some node →
      node.queue.hasRoom = true →
      ∃ queue, node.queue.Takes (.frame frame) queue ∧
        (net.transmit port frame).2.node? listener.node = some (node.setQueue queue)
  refused : net.segment.isAttached port = true →
    ∀ listener ∈ net.segment.listeners port frame, ∀ node, net.node? listener.node = some node →
      node.queue.hasRoom = false →
      (net.transmit port frame).2.node? listener.node =
        some (node.setQueue { node.queue with
          dropped := node.queue.dropped + if node.queue.isOpen then 1 else 0 })
  untouched : ∀ j, (∀ listener ∈ net.segment.listeners port frame, listener.node ≠ j) →
    (net.transmit port frame).2.node? j = net.node? j
  /-- The sender does not hear itself. -/
  own : ∀ sender ∈ net.segment.ports, sender.id = port →
    (net.transmit port frame).2.node? sender.node = net.node? sender.node

private theorem node?_transmit (h : net.Separate) (port : Nat) (frame : Bytes)
    (j : Nat) :
    (net.transmit port frame).2.node? j =
      if net.segment.isAttached port = true ∧
          j ∈ (net.segment.listeners port frame).map Port.node then
        (net.node? j).map (Node.hear frame)
      else net.node? j := by
  have hnodup : ((net.segment.listeners port frame).map Port.node).Nodup :=
    h.sublist (List.filter_sublist.map _)
  unfold transmit
  split
  · rename_i hattached
    simp only [hattached, true_and]
    exact (offer_of_nodup frame hnodup net).2 j
  · rename_i hdetached
    rw [if_neg fun h => hdetached h.1]

/-- Where each port has a queue of its own, a transmission fans out. -/
theorem fansOut (hseparate : net.Separate) (hbounded : net.Bounded) (port : Nat) (frame : Bytes) :
    net.FansOut port frame := by
  have hlisteners : ((net.segment.listeners port frame).map Port.node).Nodup :=
    hseparate.sublist (List.filter_sublist.map _)
  have hserved : (net.offer frame (net.segment.listeners port frame)).1 = net.served port frame :=
    (offer_of_nodup frame hlisteners net).1
  have hmissed : (net.segment.listeners port frame).length - net.served port frame =
      net.missed port frame := by
    rw [length_listeners, Nat.add_sub_cancel_left]
  have hnode := node?_transmit hseparate port frame
  have hsegment := segment_offer frame (net.segment.listeners port frame) net
  have hothers {j : Nat} (h : ∀ listener ∈ net.segment.listeners port frame, listener.node ≠ j) :
      (net.transmit port frame).2.node? j = net.node? j := by
    rw [hnode, if_neg]
    rintro ⟨-, hmem⟩
    obtain ⟨listener, hlistener, rfl⟩ := List.mem_map.mp hmem
    exact h listener hlistener rfl
  have hheard {listener : Port} {node : Node} (hattached : net.segment.isAttached port = true)
      (hlistener : listener ∈ net.segment.listeners port frame)
      (hthere : net.node? listener.node = some node) :
      (net.transmit port frame).2.node? listener.node = some (node.hear frame) := by
    rw [hnode, if_pos ⟨hattached, List.mem_map_of_mem hlistener⟩, hthere]
    rfl
  refine ⟨?_, ?_, ?_, ?_, ?_, fun j => hothers, ?_⟩
  · intro hdetached
    rw [transmit, hdetached]
    rfl
  · intro hattached
    rw [transmit, if_pos hattached]
    dsimp only
    rw [hsegment, hserved, hmissed]
    rfl
  · intro hattached
    rw [transmit, if_pos hattached]
    dsimp only
    rw [hserved, hmissed]
  · intro hattached listener hlistener node hthere hroom
    have hqueue := hbounded node (List.mem_of_getElem? hthere)
    exact ⟨_, Queue.takes_post hroom hqueue, hheard hattached hlistener hthere⟩
  · intro hattached listener hlistener node hthere hroom
    rw [← Queue.post_fst (.frame frame)] at hroom
    rw [hheard hattached hlistener hthere, Node.hear, Queue.post_of_refused hroom]
  · intro sender hsender hport
    apply hothers
    intro listener hlistener hsame
    obtain ⟨hmem, hother⟩ := List.mem_filter.mp hlistener
    have heq : listener = sender := List.inj_on_of_nodup_map hseparate hmem hsender hsame
    subst heq
    simp [hport] at hother

section Totals

/-- The sum of a measure over all queues. -/
def total (measure : Queue → Nat) (net : Network) : Nat :=
  (net.nodes.map fun node => measure node.queue).sum

def waitingFrames (net : Network) : Nat := net.total fun queue => queue.frames.length

def isOpenAt (i : Nat) (net : Network) : Bool := (net.node? i).any fun node => node.queue.isOpen

theorem total_modify (measure : Queue → Nat) {i : Nat} {node : Node} (change : Node → Node)
    (h : net.node? i = some node) :
    (net.modify i change).total measure + measure node.queue =
      net.total measure + measure (change node).queue := by
  unfold node? at h
  obtain ⟨hi, hget⟩ := List.getElem?_eq_some_iff.mp h
  have hsplit : net.nodes = net.nodes.take i ++ node :: net.nodes.drop (i + 1) := by
    rw [← hget, List.getElem_cons_drop, List.take_append_drop]
  have hmodify : (net.modify i change).nodes =
      net.nodes.take i ++ change node :: net.nodes.drop (i + 1) := by
    rw [modify, List.modify_eq_take_cons_drop hi, hget]
  unfold total
  rw [hmodify]
  conv_rhs => rw [hsplit]
  simp only [List.map_append, List.map_cons, List.sum_append, List.sum_cons]
  omega

theorem modify_of_missing {i : Nat} (h : net.node? i = none) (change : Node → Node) :
    net.modify i change = net := by
  rw [modify, List.modify_eq_self (List.getElem?_eq_none_iff.mp h)]

theorem bounded_modify (h : net.Bounded) {i : Nat} {change : Node → Node}
    (hchange : ∀ node, net.node? i = some node → (change node).queue.Bounded) :
    (net.modify i change).Bounded := by
  intro node hnode
  obtain ⟨j, hj⟩ := List.mem_iff_getElem?.mp hnode
  change (net.modify i change).node? j = some node at hj
  rw [node?_modify] at hj
  split at hj
  · rename_i hij
    subst hij
    obtain ⟨before, hbefore, rfl⟩ := Option.map_eq_some_iff.mp hj
    exact hchange before hbefore
  · exact h node (List.mem_of_getElem? hj)

private theorem isOpenAt_modify (i j : Nat) {change : Node → Node}
    (h : ∀ node, (change node).queue.isOpen = node.queue.isOpen) (net : Network) :
    (net.modify i change).isOpenAt j = net.isOpenAt j := by
  rw [isOpenAt, node?_modify, isOpenAt]
  split
  · cases net.node? j with
    | none => rfl
    | some node => exact h node
  · rfl

private theorem totals_hear (hbounded : net.Bounded) (i : Nat) (frame : Bytes) :
    (net.modify i (Node.hear frame)).waitingFrames =
        net.waitingFrames + (if net.hasRoomAt i then 1 else 0) ∧
      (net.modify i (Node.hear frame)).total Queue.dropped + (if net.hasRoomAt i then 1 else 0) +
        (if net.isOpenAt i then 0 else 1) = net.total Queue.dropped + 1 := by
  cases hnode : net.node? i with
  | none => simp [modify_of_missing hnode, hasRoomAt, isOpenAt, hnode]
  | some node =>
    have hframes := total_modify (fun queue => queue.frames.length) (Node.hear frame) hnode
    have hdropped := total_modify Queue.dropped (Node.hear frame) hnode
    have hroomAt : net.hasRoomAt i = node.queue.hasRoom := by rw [hasRoomAt, hnode, Option.any_some]
    have hopenAt : net.isOpenAt i = node.queue.isOpen := by rw [isOpenAt, hnode, Option.any_some]
    rw [hroomAt, hopenAt]
    cases hroom : node.queue.hasRoom with
    | true =>
      have htakes : node.queue.Takes (.frame frame) (node.hear frame).queue :=
        Queue.takes_post hroom (hbounded node (List.mem_of_getElem? hnode))
      have hopen : node.queue.isOpen = true := by
        rw [Queue.hasRoom, Bool.and_eq_true] at hroom
        exact hroom.1
      have hmore : (node.hear frame).queue.frames.length = node.queue.frames.length + 1 := by
        simp [Queue.frames, htakes.pending, Command.frame?]
      rw [hmore] at hframes
      rw [htakes.dropped] at hdropped
      simp only [hopen, if_true, waitingFrames]
      omega
    | false =>
      have hsame : (node.hear frame).queue =
          { node.queue with
            dropped := node.queue.dropped + if node.queue.isOpen then 1 else 0 } := by
        rw [← Queue.post_fst (.frame frame)] at hroom
        exact Queue.post_of_refused hroom
      have hnone : (node.hear frame).queue.frames = node.queue.frames := by
        rw [hsame]
        rfl
      rw [hnone] at hframes
      rw [hsame] at hdropped
      dsimp only at hdropped
      cases hopen : node.queue.isOpen with
      | true =>
        rw [hopen] at hdropped
        simp only [if_true, Bool.false_eq_true, if_false, waitingFrames] at hdropped ⊢
        omega
      | false =>
        rw [hopen] at hdropped
        simp only [Bool.false_eq_true, if_false, waitingFrames] at hdropped ⊢
        omega

private theorem bounded_hear (h : net.Bounded) (i : Nat) (frame : Bytes) :
    (net.modify i (Node.hear frame)).Bounded := by
  apply bounded_modify h
  intro node hnode
  exact (Queue.gains_post (.frame frame) node.queue).bounded (h node (List.mem_of_getElem? hnode))

private theorem totals_offer (frame : Bytes) (ports : List Port) (hbounded : net.Bounded) :
    (net.offer frame ports).2.Bounded ∧
      (net.offer frame ports).2.waitingFrames = net.waitingFrames + (net.offer frame ports).1 ∧
      (net.offer frame ports).2.total Queue.dropped + (net.offer frame ports).1 +
        (ports.countP fun port => !net.isOpenAt port.node) =
          net.total Queue.dropped + ports.length := by
  induction ports generalizing net with
  | nil => exact ⟨hbounded, rfl, rfl⟩
  | cons port ports ih =>
    obtain ⟨hframes, hdropped⟩ := totals_hear hbounded port.node frame
    obtain ⟨hrest, hframes', hdropped'⟩ := ih (bounded_hear hbounded port.node frame)
    have hopen (j : Nat) :
        (net.modify port.node (Node.hear frame)).isOpenAt j = net.isOpenAt j := by
      apply isOpenAt_modify
      intro node
      exact Queue.isOpen_post _ _
    simp only [hopen] at hdropped'
    rw [offer, post_eq]
    refine ⟨hrest, ?_, ?_⟩
    · dsimp only
      omega
    · rw [List.countP_cons, List.length_cons]
      dsimp only
      cases hport : net.isOpenAt port.node <;> simp [hport] at hdropped ⊢ <;> omega

/-- How many of the listening ports lead to closed queues. -/
def closed (port : Nat) (frame : Bytes) (net : Network) : Nat :=
  (net.segment.listeners port frame).countP fun listener => !net.isOpenAt listener.node

/-- What a transmission does to all queues together. -/
theorem totals_transmit (hseparate : net.Separate) (hbounded : net.Bounded) {port : Nat}
    (hattached : net.segment.isAttached port = true) (frame : Bytes) :
    (net.transmit port frame).2.Bounded ∧
      (net.transmit port frame).2.waitingFrames = net.waitingFrames + net.served port frame ∧
      (net.transmit port frame).2.total Queue.dropped + net.closed port frame =
        net.total Queue.dropped + net.missed port frame := by
  have hserved : (net.offer frame (net.segment.listeners port frame)).1 = net.served port frame :=
    (offer_of_nodup frame (hseparate.sublist (List.filter_sublist.map _)) net).1
  obtain ⟨hafter, hframes, hdropped⟩ :=
    totals_offer frame (net.segment.listeners port frame) hbounded
  have hnodes : (net.transmit port frame).2.nodes =
      (net.offer frame (net.segment.listeners port frame)).2.nodes := by
    unfold transmit
    rw [if_pos hattached]
  refine ⟨?_, ?_, ?_⟩
  · rw [Bounded, hnodes]
    exact hafter
  · rw [← hserved, ← hframes, waitingFrames, total, hnodes]
    rfl
  · rw [hserved, length_listeners] at hdropped
    rw [total, hnodes]
    rw [total] at hdropped
    unfold closed
    omega

end Totals

end Network

end AudioLink
