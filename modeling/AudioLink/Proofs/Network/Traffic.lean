import AudioLink.Proofs.Network.Fanout

/-!
# The traffic of a run

Over a whole run, the segment counts the transmissions from attached ports, the frames that they put
into queues and those that they did not. Each frame that was not put into a queue is counted by the
queue as well, unless the queue was closed.
-/

namespace AudioLink

namespace Host

variable {W : Type} (host : Host W)

/-- What a call makes of the surroundings. -/
def outcome (event : Event) (w : W) : W :=
  match event with
  | .arm delay _ => (host.arm delay w).2
  | .rearm delay => host.rearm delay w
  | .cancel => host.cancel w
  | .install filter _ => (host.install filter w).2
  | .uninstall handle => host.uninstall handle w
  | .transmit frame _ => (host.transmit frame w).2
  | .process given _ => (host.process given w).2
  | .received header => host.received header w
  | .connected device => host.connection.elim w fun callback => callback (some device) w
  | .disconnected => host.connection.elim w fun callback => callback none w
  | .delivered block => host.deliver.elim w fun callback => callback block w
  | .demanded _ => host.demand.elim w fun callback => (callback w).2
  | .clock _ | .note _ => w

variable {host}

private theorem Does.outcome_eq {event : Event} {w w' : W} (h : host.Does event w w') :
    w' = host.outcome event w := by
  cases h with
  | connected _ _ _ h | disconnected _ _ h | delivered _ _ _ h | demanded _ _ h =>
    rw [outcome, h]
    rfl
  | _ => rfl

/-- What a series of calls makes of the surroundings, the latest call first. -/
def replay (host : Host W) (events : List Event) (w : W) : W := events.foldr host.outcome w

private theorem Trace.replay_eq {events : List Event} {w w' : W} (h : host.Trace events w w') :
    w' = host.replay events w := by
  induction h with
  | nil w => rfl
  | cons _ hdoes ih => rw [hdoes.outcome_eq, ih, replay, replay, List.foldr_cons]

end Host

/-- A frame is transmitted from a port of a network. -/
structure Transmission where
  net : Network
  port : Nat
  frame : Bytes

namespace Transmission

def after (t : Transmission) : Network := (t.net.transmit t.port t.frame).2

/-- Whether the frame gets onto the segment at all. -/
def isOnAir (t : Transmission) : Bool := t.net.segment.isAttached t.port

/-- How many frames more there are in the queues afterwards. -/
def enqueued (t : Transmission) : Nat := t.after.waitingFrames - t.net.waitingFrames

/-- How many closed queues refuse the frame. -/
def shut (t : Transmission) : Nat := if t.isOnAir then t.net.closed t.port t.frame else 0

def FansOut (t : Transmission) : Prop := t.net.FansOut t.port t.frame

end Transmission

namespace Network

/-- The counters of a segment follow a series of transmissions. -/
structure Counts (sent : List Transmission) (net net' : Network) : Prop where
  fansOut : ∀ t ∈ sent, t.FansOut
  transmitted : net'.segment.transmitted =
    net.segment.transmitted + sent.countP Transmission.isOnAir
  delivered : net'.segment.delivered =
    net.segment.delivered + (sent.map Transmission.enqueued).sum

/-- What a segment has dropped is what its queues have counted and what closed queues refused. -/
def Balances (sent : List Transmission) (net net' : Network) : Prop :=
  net'.segment.dropped + net.total Queue.dropped =
    net.segment.dropped + net'.total Queue.dropped + (sent.map Transmission.shut).sum

variable {net net' net'' : Network}

/-- Counters that stand still follow no transmission. -/
theorem counts_nil (htransmitted : net'.segment.transmitted = net.segment.transmitted)
    (hdelivered : net'.segment.delivered = net.segment.delivered) : Counts [] net net' := by
  refine ⟨?_, htransmitted, hdelivered⟩
  intro t ht
  exact absurd ht List.not_mem_nil

theorem Counts.trans {sent sent' : List Transmission} (h : Counts sent net net')
    (h' : Counts sent' net' net'') : Counts (sent ++ sent') net net'' where
  fansOut := List.forall_mem_append.mpr ⟨h.fansOut, h'.fansOut⟩
  transmitted := by
    rw [h'.transmitted, h.transmitted, List.countP_append, Nat.add_assoc]
  delivered := by
    rw [h'.delivered, h.delivered, List.map_append, List.sum_append, Nat.add_assoc]

theorem Balances.refl (net : Network) : Balances [] net net := rfl

theorem Balances.trans {sent sent' : List Transmission} (h : Balances sent net net')
    (h' : Balances sent' net' net'') : Balances (sent ++ sent') net net'' := by
  unfold Balances at *
  rw [List.map_append, List.sum_append]
  omega

/-- What stays the same however much is transmitted. -/
structure SameGround (net net' : Network) : Prop where
  wires : net'.wires = net.wires
  lastId : net'.segment.lastId = net.segment.lastId
  seats : net'.nodes.map Node.port = net.nodes.map Node.port

theorem SameGround.refl (net : Network) : SameGround net net := ⟨rfl, rfl, rfl⟩

theorem SameGround.trans (h : SameGround net net') (h' : SameGround net' net'') :
    SameGround net net'' :=
  ⟨h'.wires.trans h.wires, h'.lastId.trans h.lastId, h'.seats.trans h.seats⟩

theorem SamePorts.wires (h : SamePorts net net') : net'.wires = net.wires := by
  unfold Network.wires
  rw [h.ports]

private theorem separate_iff : net.Separate ↔ (net.wires.map Prod.snd).Nodup := by
  unfold Separate wires
  rw [List.map_map]
  rfl

private theorem SameGround.separate (h : SameGround net net') (hseparate : net.Separate) :
    net'.Separate := by
  rw [separate_iff] at hseparate ⊢
  rw [h.wires]
  exact hseparate

/-- All that is kept while some transmissions are made and no port comes or goes. -/
structure Books (sent : List Transmission) (net net' : Network) : Prop where
  ground : SameGround net net'
  bounded : net'.Bounded
  counts : Counts sent net net'
  balances : Balances sent net net'

theorem Books.trans {sent sent' : List Transmission} (h : Books sent net net')
    (h' : Books sent' net' net'') : Books (sent ++ sent') net net'' :=
  ⟨h.ground.trans h'.ground, h'.bounded, h.counts.trans h'.counts, h.balances.trans h'.balances⟩

private theorem ground_transmit (port : Nat) (frame : Bytes) (net : Network) :
    SameGround net (net.transmit port frame).2 := by
  have hports := samePorts_transmit port frame net
  refine ⟨hports.wires, hports.lastId, ?_⟩
  unfold transmit
  split
  · exact view_offer (fun _ _ => rfl) frame _ net
  · rfl

theorem transmit_books (hseparate : net.Separate) (hbounded : net.Bounded) (port : Nat)
    (frame : Bytes) :
    Books [⟨net, port, frame⟩] net (net.transmit port frame).2 := by
  have hfans : net.FansOut port frame := fansOut hseparate hbounded port frame
  have hall : ∀ t ∈ [(⟨net, port, frame⟩ : Transmission)], t.FansOut :=
    List.forall_mem_singleton.mpr hfans
  cases hattached : net.segment.isAttached port with
  | false =>
    have hsame := hfans.detached hattached
    refine ⟨ground_transmit port frame net, ?_, ⟨hall, ?_, ?_⟩, ?_⟩
    · rw [hsame]
      exact hbounded
    · simp [Transmission.isOnAir, hattached, hsame]
    · simp [Transmission.enqueued, Transmission.after, hsame]
    · simp [Balances, Transmission.shut, Transmission.isOnAir, hattached, hsame]
  | true =>
    obtain ⟨hafter, hframes, hdropped⟩ := totals_transmit hseparate hbounded hattached frame
    have hsegment := hfans.counted hattached
    refine ⟨ground_transmit port frame net, hafter, ⟨hall, ?_, ?_⟩, ?_⟩
    · simp [Transmission.isOnAir, hattached, hsegment]
    · simp [Transmission.enqueued, Transmission.after, hframes, hsegment]
    · simp only [Balances, List.map_singleton, List.sum_singleton, Transmission.shut,
        Transmission.isOnAir, hattached, if_true, hsegment]
      omega

/-- Neither the queues nor the counters have been touched. -/
structure Quiet (net net' : Network) : Prop where
  ground : SameGround net net'
  queues : net'.nodes.map Node.queue = net.nodes.map Node.queue
  transmitted : net'.segment.transmitted = net.segment.transmitted
  delivered : net'.segment.delivered = net.segment.delivered
  dropped : net'.segment.dropped = net.segment.dropped

theorem Quiet.refl (net : Network) : Quiet net net := ⟨.refl net, rfl, rfl, rfl, rfl⟩

theorem Quiet.bounded (h : Quiet net net') (hbounded : net.Bounded) : net'.Bounded := by
  intro node hnode
  have hmem : node.queue ∈ net.nodes.map Node.queue := by
    rw [← h.queues]
    exact List.mem_map_of_mem hnode
  obtain ⟨before, hbefore, hsame⟩ := List.mem_map.mp hmem
  rw [← hsame]
  exact hbounded before hbefore

theorem Quiet.total (h : Quiet net net') (measure : Queue → Nat) :
    net'.total measure = net.total measure := by
  have hmap (net : Network) : net.total measure = ((net.nodes.map Node.queue).map measure).sum := by
    rw [Network.total, List.map_map]
    rfl
  rw [hmap, hmap, h.queues]

theorem Quiet.books (h : Quiet net net') (hbounded : net.Bounded) : Books [] net net' where
  ground := h.ground
  bounded := h.bounded hbounded
  counts := counts_nil h.transmitted h.delivered
  balances := by
    rw [Balances, h.dropped, h.total]
    rfl

theorem Quiet.queue (h : Quiet net net') (i : Nat) :
    (net'.node? i).map Node.queue = (net.node? i).map Node.queue := by
  unfold node?
  rw [← List.getElem?_map, ← List.getElem?_map, h.queues]

theorem quiet_modify (i : Nat) {change : Node → Node}
    (hport : ∀ node, (change node).port = node.port)
    (hqueue : ∀ node, (change node).queue = node.queue) (net : Network) :
    Quiet net (net.modify i change) :=
  ⟨⟨rfl, rfl, view_modify i hport net⟩, view_modify i hqueue net, rfl, rfl, rfl⟩

theorem quiet_setClock (i : Nat) (clock : Node → Clockwork) (net : Network) :
    Quiet net (net.modify i fun node => node.setClock (clock node)) := by
  apply quiet_modify
  · intro node
    rfl
  · intro node
    rfl

theorem quiet_setPipeline (i : Nat) (pipeline : Node → Pipeline) (net : Network) :
    Quiet net (net.modify i fun node => node.setPipeline (pipeline node)) := by
  apply quiet_modify
  · intro node
    rfl
  · intro node
    rfl

theorem quiet_setFilter (id : Nat) (filter : Option FrameFilter) (net : Network) :
    Quiet net { net with segment := net.segment.setFilter id filter } :=
  ⟨⟨wires_setFilter id filter net.segment, rfl, rfl⟩, rfl, rfl, rfl, rfl⟩

theorem quiet_install (port : Nat) (filter : FrameFilter) (net : Network) :
    Quiet net (net.install port filter).2 := by
  unfold install Segment.install
  split
  · exact .refl net
  · split
    · exact .refl net
    · exact quiet_setFilter port (some filter) net

section Calls

variable {i port : Nat} {callbacks : Callbacks}

private theorem quiet_does {event : Event} (h : (host i port callbacks).Does event net net')
    (hquiet : event.attempted? = none) : Quiet net net' := by
  cases deed_of_does h with
  | arm | rearm | cancel => exact quiet_setClock i _ net
  | audio _ pipeline => exact quiet_setPipeline i pipeline net
  | install => exact quiet_install port _ net
  | uninstall handle => exact quiet_setFilter handle none net
  | transmit => cases hquiet
  | clock | note => exact .refl net

/-- The transmissions among the calls of an engine, the first one first. -/
def transmissions (i port : Nat) (callbacks : Callbacks) (net : Network) :
    List Event → List Transmission
  | [] => []
  | event :: events =>
    transmissions i port callbacks net events ++
      (event.attempted?.map fun frame =>
        ⟨(host i port callbacks).replay events net, port, frame⟩).toList

private theorem queue_transmit (hseparate : net.Separate) (hbounded : net.Bounded) (frame : Bytes)
    (hown : ∀ wire ∈ net.wires, wire.1 = port → wire.2 = i) :
    (net.transmit port frame).2.node? i = net.node? i := by
  have hfans := fansOut hseparate hbounded port frame
  cases hattached : net.segment.isAttached port with
  | false => rw [hfans.detached hattached]
  | true =>
    rw [Segment.isAttached, List.any_eq_true] at hattached
    obtain ⟨sender, hsender, hid⟩ := hattached
    have hnode : sender.node = i :=
      hown (sender.id, sender.node) (List.mem_map_of_mem hsender) (of_decide_eq_true hid)
    rw [← hnode]
    exact hfans.own sender hsender (of_decide_eq_true hid)

private theorem trace_books {events : List Event}
    (h : (host i port callbacks).Trace events net net') (hseparate : net.Separate)
    (hbounded : net.Bounded)
    (hown : ∀ wire ∈ net.wires, wire.1 = port → wire.2 = i) :
    Books (transmissions i port callbacks net events) net net' ∧
      (net'.node? i).map Node.queue = (net.node? i).map Node.queue := by
  induction h with
  | nil net => exact ⟨(Quiet.refl net).books hbounded, rfl⟩
  | @cons event events net w w' htrace hdoes ih =>
    obtain ⟨hbooks, hqueue⟩ := ih hseparate hbounded hown
    have hstep : Books (event.attempted?.map fun frame =>
        (⟨w, port, frame⟩ : Transmission)).toList w w' ∧
          (w'.node? i).map Node.queue = (w.node? i).map Node.queue := by
      cases hattempted : event.attempted? with
      | none =>
        have hquiet := quiet_does hdoes hattempted
        exact ⟨hquiet.books hbooks.bounded, hquiet.queue i⟩
      | some frame =>
        cases hdoes with
        | transmit =>
          cases hattempted
          have hseparate' := hbooks.ground.separate hseparate
          rw [← hbooks.ground.wires] at hown
          exact ⟨transmit_books hseparate' hbooks.bounded port frame,
            congrArg _ (queue_transmit hseparate' hbooks.bounded frame hown)⟩
        | _ => cases hattempted
    rw [transmissions, ← htrace.replay_eq]
    exact ⟨hbooks.trans hstep.1, hstep.2.trans hqueue⟩

end Calls

/-- What the engine of node `i` has transmitted from one network to the other. -/
def sentBy (i : Nat) (net net' : Network) : List Transmission :=
  match net.node? i with
  | some node => transmissions i node.port node.callbacks net (newEvents i net net')
  | none => []

private theorem sentBy_self (i : Nat) (net : Network) : sentBy i net net = [] := by
  rw [sentBy, newEvents_self]
  cases net.node? i <;> rfl

/-- The ports have numbers that have been given out, a port with the number of a node leads to that
node, and no queue holds more than its capacity. -/
structure Anchored (net : Network) : Prop where
  issued : ∀ wire ∈ net.wires, wire.1 ≤ net.segment.lastId
  placed : ∀ port ∈ net.nodes.map Node.port, port ≤ net.segment.lastId
  own : ∀ i port, (net.nodes.map Node.port)[i]? = some port →
    ∀ wire ∈ net.wires, wire.1 = port → wire.2 = i
  bounded : net.Bounded

theorem anchored_empty : Anchored .empty where
  issued _ h := absurd h List.not_mem_nil
  placed _ h := absurd h List.not_mem_nil
  own _ _ _ _ h := absurd h List.not_mem_nil
  bounded _ h := absurd h List.not_mem_nil

theorem SameGround.anchored (h : SameGround net net') (hanchored : net.Anchored)
    (hbounded : net'.Bounded) : net'.Anchored := by
  refine ⟨?_, ?_, ?_, hbounded⟩
  · rw [h.wires, h.lastId]
    exact hanchored.issued
  · rw [h.seats, h.lastId]
    exact hanchored.placed
  · rw [h.wires, h.seats]
    exact hanchored.own

/-- A change of a queue that leaves its count of refusals alone is not seen in the books. -/
theorem books_modify (hbounded : net.Bounded) {i : Nat} {change : Node → Node}
    (hport : ∀ node, (change node).port = node.port)
    (hqueue : ∀ node, net.node? i = some node →
      (change node).queue.dropped = node.queue.dropped ∧ (change node).queue.Bounded) :
    Books [] net (net.modify i change) := by
  refine ⟨⟨rfl, rfl, view_modify i hport net⟩, ?_, counts_nil rfl rfl, ?_⟩
  · apply bounded_modify hbounded
    intro node hnode
    exact (hqueue node hnode).2
  · cases hnode : net.node? i with
    | none =>
      rw [modify_of_missing hnode]
      exact .refl net
    | some node =>
      have htotal := total_modify Queue.dropped change hnode
      rw [(hqueue node hnode).1] at htotal
      rw [Balances, Nat.add_right_cancel htotal]
      rfl

section Entries

variable {i : Nat} {node : Node} {engine : Engine} {s : Station Network}

private theorem books_putLoop (hanchored : net.Anchored) (hseparate : net.Separate)
    (hnode : net.node? i = some node)
    (hacts : Station.Acts (host i node.port node.callbacks) ⟨engine, net, node.history⟩ s)
    {queue : Queue} (hdropped : queue.dropped = node.queue.dropped) (hbounded : queue.Bounded)
    (after : Option Engine) (replies : List (Nat × Reply)) :
    Books (sentBy i net (putLoop i ⟨queue, after, s.world, s.history, replies⟩)) net
      (putLoop i ⟨queue, after, s.world, s.history, replies⟩) := by
  obtain ⟨events, hhistory, htrace⟩ := hacts
  have hhome : (net.nodes.map Node.port)[i]? = some node.port := by
    rw [List.getElem?_map, show net.nodes[i]? = some node from hnode]
    rfl
  obtain ⟨hbooks, hqueue⟩ :=
    trace_books htrace hseparate hanchored.bounded (hanchored.own i node.port hhome)
  rw [hnode] at hqueue
  obtain ⟨node', hnode', hsame⟩ := Option.map_eq_some_iff.mp hqueue
  have hput : Books [] s.world (putLoop i ⟨queue, after, s.world, s.history, replies⟩) := by
    apply books_modify hbooks.bounded
    · intro node
      rfl
    · intro node'' hnode''
      rw [hnode'] at hnode''
      cases hnode''
      rw [hsame]
      exact ⟨hdropped, hbounded⟩
  have hevents :
      newEvents i net (putLoop i ⟨queue, after, s.world, s.history, replies⟩) = events := by
    have hbefore : net.historyOf i = node.history := by rw [historyOf, hnode]
    have hafter : (putLoop i ⟨queue, after, s.world, s.history, replies⟩).historyOf i =
        events ++ node.history := by
      rw [historyOf, putLoop, node?_modify, if_pos rfl, hnode']
      exact hhistory
    rw [newEvents, hbefore, hafter, List.length_append, Nat.add_sub_cancel, List.take_left]
  rw [sentBy, hnode]
  dsimp only
  rw [hevents, ← List.append_nil (transmissions _ _ _ _ _)]
  exact hbooks.trans hput

private theorem books_self (hanchored : net.Anchored) (i : Nat) :
    Books (sentBy i net net) net net := by
  rw [sentBy_self]
  exact (Quiet.refl net).books hanchored.bounded

theorem books_step (hanchored : net.Anchored) (hseparate : net.Separate) (i : Nat) :
    Books (sentBy i net (net.step i)) net (net.step i) := by
  cases hbusy : net.isBusyAt i with
  | false =>
    rw [step_of_idle hbusy]
    exact books_self hanchored i
  | true =>
    obtain ⟨node, engine, hnode, hengine, hpending⟩ := isBusyAt_iff.mp hbusy
    obtain ⟨command, queue, htake⟩ := Queue.exists_take? hpending
    have hacts : Station.Acts (host i node.port node.callbacks) ⟨engine, net, node.history⟩
        (Station.obey (host i node.port node.callbacks) command ⟨engine, net, node.history⟩) := by
      unfold Station.obey
      split
      · exact Station.acts_perform _ _
      · exact Station.acts_of_same rfl rfl
    have hdropped : queue.dropped = node.queue.dropped := (Queue.fixed_take? htake).2.2.2
    have hbounded : queue.Bounded :=
      Queue.bounded_take? htake (hanchored.bounded node (List.mem_of_getElem? hnode))
    unfold step
    rw [hnode]
    dsimp only
    rw [WorkLoop.step_of_take? (l := net.loopOf node) _ hengine htake]
    dsimp only [loopOf]
    apply books_putLoop hanchored hseparate hnode hacts
    · split <;> exact hdropped
    · split <;> exact hbounded

theorem books_enter (hanchored : net.Anchored) (hseparate : net.Separate) (i : Nat) (call : Call) :
    Books (sentBy i net (net.enter i call)) net (net.enter i call) := by
  unfold enter
  split
  · exact books_self hanchored i
  rename_i node hnode
  split
  · exact books_self hanchored i
  · exact books_putLoop hanchored hseparate hnode (Station.acts_perform call _) rfl
      (hanchored.bounded node (List.mem_of_getElem? hnode)) _ _

theorem books_drop (hanchored : net.Anchored) (hseparate : net.Separate) (i : Nat) :
    Books (sentBy i net (net.drop i)) net (net.drop i) := by
  unfold drop
  split
  · exact books_self hanchored i
  rename_i node hnode
  split
  · exact books_self hanchored i
  · exact books_putLoop hanchored hseparate hnode (Station.acts_stop _) rfl
      (hanchored.bounded node (List.mem_of_getElem? hnode)) _ _

end Entries

end Network

end AudioLink
