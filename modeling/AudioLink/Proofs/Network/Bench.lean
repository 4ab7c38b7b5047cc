import AudioLink.Proofs.Link.Mirrors
import AudioLink.Proofs.Network.Dispatch

/-!
# A node by itself

What the loop of a node does on a firing or a frame follows from the node alone, as long as the
medium takes every frame. So it can be worked out on a bench, with a transmitter that never fails,
and then put into the network: the other node of a point-to-point link gets the frames that were
sent, the medium counts them, and nothing else happens.
-/

namespace AudioLink

def pairAt {α : Type} (i : Nat) (own other : α) : List α :=
  if i = 0 then [own, other] else [other, own]

section Pairs

variable {α β : Type} {i : Nat}

theorem eq_zero_or_one (hi : i < 2) : i = 0 ∨ i = 1 := by omega

theorem exists_pairAt (hi : i < 2) {list : List α} (h : list.length = 2) :
    ∃ own other, list = pairAt i own other := by
  obtain ⟨first, second, rfl⟩ := List.length_eq_two.mp h
  rcases eq_zero_or_one hi with rfl | rfl
  · exact ⟨first, second, rfl⟩
  · exact ⟨second, first, rfl⟩

theorem length_pairAt (i : Nat) (own other : α) : (pairAt i own other).length = 2 := by
  unfold pairAt
  split <;> rfl

theorem getElem?_pairAt (hi : i < 2) (own other : α) :
    (pairAt i own other)[i]? = some own ∧ (pairAt i own other)[1 - i]? = some other := by
  rcases eq_zero_or_one hi with rfl | rfl <;> exact ⟨rfl, rfl⟩

theorem forall_mem_pairAt {own other : α} {p : α → Prop} :
    (∀ x ∈ pairAt i own other, p x) ↔ p own ∧ p other := by
  unfold pairAt
  split <;> simp [and_comm]

private theorem modify_pairAt (hi : i < 2) (own other : α) (change : α → α) :
    (pairAt i own other).modify i change = pairAt i (change own) other := by
  rcases eq_zero_or_one hi with rfl | rfl <;> rfl

private theorem set_pairAt (hi : i < 2) (own other new : α) :
    (pairAt i own other).set i new = pairAt i new other ∧
      (pairAt i own other).set (1 - i) new = pairAt i own new := by
  rcases eq_zero_or_one hi with rfl | rfl <;> exact ⟨rfl, rfl⟩

theorem map_pairAt (f : α → β) (own other : α) :
    (pairAt i own other).map f = pairAt i (f own) (f other) := by
  unfold pairAt
  split <;> rfl

theorem pairAt_inj {own other own' other' : α} :
    pairAt i own other = pairAt i own' other' ↔ own = own' ∧ other = other' := by
  unfold pairAt
  split <;> simp [and_comm]

theorem pairAt_swap (hi : i < 2) (own other : α) :
    pairAt (1 - i) other own = pairAt i own other := by
  rcases eq_zero_or_one hi with rfl | rfl <;> rfl

end Pairs

/-- A node on the bench: its timer, its pipeline, and the frames that it has sent, the first one
first. -/
structure Bench where
  clock : Clockwork
  pipeline : Pipeline
  sent : List Bytes

namespace Bench

def host (time : Nat) (callbacks : Callbacks) : Host Bench where
  arm delay bench :=
    let r := bench.clock.arm time delay
    (r.1, { bench with clock := r.2 })
  rearm delay bench := { bench with clock := bench.clock.rearm time delay }
  cancel bench := { bench with clock := bench.clock.cancel }
  now bench := bench.clock.now time
  generation bench := bench.clock.generation
  install _ bench := (.ok 0, bench)
  uninstall _ bench := bench
  transmit frame bench := (.ok (), { bench with sent := bench.sent ++ [frame] })
  process header bench :=
    let r := bench.pipeline.process header
    (r.1, { bench with pipeline := r.2 })
  received header bench := { bench with pipeline := bench.pipeline.receive header }
  connection :=
    if callbacks.connection then
      some fun peer bench => { bench with pipeline := bench.pipeline.announce peer }
    else none
  deliver :=
    if callbacks.received then
      some fun block bench => { bench with pipeline := bench.pipeline.deliver block }
    else none
  demand :=
    if callbacks.needed then
      some fun bench =>
        let r := bench.pipeline.ask
        (r.1, { bench with pipeline := r.2 })
    else none

end Bench

namespace Node

/-- A node that has got back from the bench. -/
def fromBench (bench : Bench) (node : Node) : Node :=
  { node with clock := bench.clock, pipeline := bench.pipeline }

/-- What an engine makes of its node by carrying out a command on the bench, and what it sends. -/
def serve (time : Nat) (command : Command) (engine : Engine) (node : Node) : Node × List Bytes :=
  let s := (⟨engine, ⟨node.clock, node.pipeline, []⟩, node.history⟩ : Station Bench).obey
    (Bench.host time node.callbacks) command
  ({ node.fromBench s.world with engine := some s.engine, history := s.history }, s.world.sent)

end Node

namespace Queue

def emptied (queue : Queue) : Queue := { queue with waiting := [], handed := none }

/-- The second queue holds what the first one does and, behind it, the given commands. -/
structure Extends (taken : List Command) (queue queue' : Queue) : Prop where
  pending : queue'.pending = queue.pending ++ taken
  emptied : queue'.emptied = queue.emptied
  bounded : queue'.Bounded

variable {queue queue' : Queue} {command : Command}

private theorem extends_refl (h : queue.Bounded) : Extends [] queue queue :=
  ⟨(List.append_nil _).symm, rfl, h⟩

theorem Accepts.emptied (h : queue.Accepts command queue') : queue'.emptied = queue.emptied := by
  cases h <;> rfl

theorem Extends.accept {taken : List Command} {queue'' : Queue} (h : Extends taken queue queue')
    (haccepts : queue'.Accepts command queue'') : Extends (taken ++ [command]) queue queue'' where
  pending := by rw [haccepts.pending h.bounded, h.pending, List.append_assoc]
  emptied := haccepts.emptied.trans h.emptied
  bounded := haccepts.bounded h.bounded

theorem emptied_take? (h : queue.take? = some (command, queue')) :
    queue'.emptied = queue.emptied := by
  obtain ⟨hcapacity, hattended, hopen, hdropped⟩ := fixed_take? h
  simp only [Queue.emptied, hcapacity, hattended, hopen, hdropped]

/-- Nothing is lost in a queue that holds nothing. -/
theorem emptied_of_pending (h : queue.pending = []) : queue.emptied = queue := by
  obtain ⟨hhanded, hwaiting⟩ := List.append_eq_nil_iff.mp h
  obtain ⟨capacity, waiting, handed, attended, isOpen, dropped⟩ := queue
  cases hwaiting
  cases handed with
  | none => rfl
  | some command => cases hhanded

end Queue

/-- A segment after it has carried so many frames, each of them to one node. -/
def Segment.carry (n : Nat) (segment : Segment) : Segment :=
  { segment with
    transmitted := segment.transmitted + n
    delivered := segment.delivered + n }

namespace Network

/-- A network of two nodes has what an engine on the bench has done so far. -/
def Shows (i : Nat) (own other : Node) (segment : Segment) (time : Nat) (net : Network)
    (bench : Bench) : Prop :=
  ∃ queue, other.queue.Extends (bench.sent.map Command.frame) queue ∧
    net = ⟨segment.carry bench.sent.length,
      pairAt i (own.fromBench bench) (other.setQueue queue), time⟩

/-- The segment carries what node `i` sends to the other one of two nodes. -/
structure Reaches (i port : Nat) (segment : Segment) : Prop where
  attached : segment.isAttached port = true
  listens : ∀ header block, ∃ listener : Port, listener.node = 1 - i ∧
    segment.listeners port (Frame.build header block) = [listener]

variable {i time : Nat} {own other : Node} {segment : Segment}

private theorem post_pairAt (hi : i < 2) (command : Command) :
    (⟨segment, pairAt i own other, time⟩ : Network).post (1 - i) command =
      ((other.queue.post command).1,
        ⟨segment, pairAt i own (other.setQueue (other.queue.post command).2), time⟩) := by
  have hother : (⟨segment, pairAt i own other, time⟩ : Network).node? (1 - i) = some other :=
    (getElem?_pairAt hi own other).2
  simp only [post, access, hother, (set_pairAt hi own other _).2]

private theorem transmit_pairAt (hi : i < 2) {port : Nat} (hreaches : Reaches i port segment)
    (header : Header) (block : Bytes) :
    let net : Network := ⟨segment, pairAt i own other, time⟩
    let frame := Frame.build header block
    segment.dropped < (net.transmit port frame).2.segment.dropped ∨
      ∃ queue, other.queue.Accepts (.frame frame) queue ∧
        net.transmit port frame =
          (.ok (), ⟨segment.carry 1, pairAt i own (other.setQueue queue), time⟩) := by
  intro net frame
  obtain ⟨listener, hnode, hlisteners⟩ := hreaches.listens header block
  unfold transmit
  rw [if_pos hreaches.attached]
  dsimp only
  rw [show net.segment.listeners port frame = [listener] from hlisteners]
  simp only [offer, hnode]
  rw [show net.post (1 - i) (.frame frame) = _ from post_pairAt hi (.frame frame)]
  cases haccepted : (other.queue.post (.frame frame)).1 with
  | false => exact .inl (Nat.lt_succ_self _)
  | true => exact .inr ⟨_, (Queue.accepts_of_post haccepted).2, rfl⟩

private theorem host_mirrors (hi : i < 2) (hreaches : Reaches i own.port segment) :
    (host i own.port own.callbacks).Mirrors (Bench.host time own.callbacks)
      (Shows i own other segment time) (fun net => segment.dropped < net.segment.dropped) where
  now := by
    rintro _ bench ⟨queue, -, rfl⟩
    simp only [host, node?, (getElem?_pairAt hi _ _).1]
    rfl
  generation := by
    rintro _ bench ⟨queue, -, rfl⟩
    simp only [host, node?, (getElem?_pairAt hi _ _).1]
    rfl
  rearm := by
    rintro _ bench delay ⟨queue, hqueue, rfl⟩
    refine ⟨queue, hqueue, ?_⟩
    simp only [host, modify, modify_pairAt hi]
    rfl
  stays := fun _ h => h
  transmit := by
    rintro _ bench header block ⟨queue, hqueue, rfl⟩
    have hcarried : Reaches i own.port (segment.carry bench.sent.length) :=
      ⟨hreaches.attached, hreaches.listens⟩
    rcases transmit_pairAt hi hcarried header block with hdropped | ⟨queue', haccepts, htransmit⟩
    · exact .inl hdropped
    · refine .inr ?_
      rw [show (host i own.port own.callbacks).transmit (Frame.build header block) _ = _ from
        htransmit]
      refine ⟨rfl, queue', ?_, ?_⟩
      · have hextends := hqueue.accept haccepts
        simpa [Bench.host] using hextends
      · simp [Bench.host, Segment.carry, Node.fromBench, Node.setQueue, Nat.add_assoc]
  process := by
    rintro _ bench header ⟨queue, hqueue, rfl⟩
    simp only [host, access, node?, (getElem?_pairAt hi _ _).1, (set_pairAt hi _ _ _).1]
    exact ⟨rfl, queue, hqueue, rfl⟩
  received := by
    rintro _ bench header ⟨queue, hqueue, rfl⟩
    refine ⟨queue, hqueue, ?_⟩
    simp only [host, modify, modify_pairAt hi]
    rfl
  connection := by
    unfold host Bench.host
    dsimp only
    cases own.callbacks.connection with
    | false => exact .none
    | true =>
      refine .some ?_
      rintro peer _ bench ⟨queue, hqueue, rfl⟩
      refine ⟨queue, hqueue, ?_⟩
      simp only [modify, modify_pairAt hi]
      rfl
  deliver := by
    unfold host Bench.host
    dsimp only
    cases own.callbacks.received with
    | false => exact .none
    | true =>
      refine .some ?_
      rintro block _ bench ⟨queue, hqueue, rfl⟩
      refine ⟨queue, hqueue, ?_⟩
      simp only [modify, modify_pairAt hi]
      rfl
  demand := by
    unfold host Bench.host
    dsimp only
    cases own.callbacks.needed with
    | false => exact .none
    | true =>
      refine .some ?_
      rintro _ bench ⟨queue, hqueue, rfl⟩
      simp only [access, node?, (getElem?_pairAt hi _ _).1, (set_pairAt hi _ _ _).1]
      exact ⟨rfl, queue, hqueue, rfl⟩

end Network

/-- Whether a command is a firing or a frame. -/
def Command.isInput : Command → Bool
  | fire _ | frame _ => true
  | _ => false

theorem Station.Matched.obey {W W' : Type} {host : Host W} {host' : Host W'}
    {related : W → W' → Prop} {broken : W → Prop} (hhost : host.Mirrors host' related broken)
    {s : Station W} {t : Station W'} (h : Matched related s t) {command : Command}
    (hcommand : command.isInput = true) :
    Mirrored related broken (s.obey host command) (t.obey host' command) := by
  cases command with
  | fire generation => exact h.fireTagged hhost generation
  | frame frame => exact h.inbound hhost frame
  | _ => cases hcommand

namespace Network

variable {i time : Nat} {own other : Node} {segment : Segment} {engine : Engine} {command : Command}
  {queue : Queue}

/-- A loop does on the network what it does on the bench, or a frame is dropped. -/
theorem step_pairAt (hi : i < 2) (hreaches : Reaches i own.port segment)
    (hbounded : other.queue.Bounded) (hengine : own.engine = some engine)
    (htake : own.queue.take? = some (command, queue)) (hcommand : command.isInput = true) :
    let net : Network := ⟨segment, pairAt i own other, time⟩
    let served := own.serve time command engine
    segment.dropped < (net.step i).segment.dropped ∨
      ∃ queue', other.queue.Extends (served.2.map Command.frame) queue' ∧
        net.step i = ⟨segment.carry served.2.length,
          pairAt i (served.1.setQueue queue) (other.setQueue queue'), time⟩ := by
  intro net served
  have hown : net.node? i = some own := (getElem?_pairAt hi own other).1
  have hshutdown : command ≠ .shutdown := by
    rintro rfl
    cases hcommand
  have hreply (s : Station Network) :
      s.reply? (host i own.port own.callbacks) queue.dropped command = none := by
    cases command with
    | fire _ | frame _ => rfl
    | _ => cases hcommand
  have hstart : Station.Matched (Shows i own other segment time)
      ⟨engine, net, own.history⟩ ⟨engine, ⟨own.clock, own.pipeline, []⟩, own.history⟩ :=
    ⟨rfl, rfl, other.queue, Queue.extends_refl hbounded, rfl⟩
  have hmirrored := hstart.obey (host_mirrors hi hreaches) hcommand
  have hstep : net.step i =
      putLoop i ((net.loopOf own).step (host i own.port own.callbacks)) := by
    rw [step, hown]
  rw [hstep, WorkLoop.step_of_take? _ hengine htake]
  dsimp only [loopOf]
  rw [if_neg hshutdown, if_neg hshutdown, hreply]
  rcases hmirrored with hdropped | ⟨hsame, hhistory, queue', hqueue, hworld⟩
  · exact .inl hdropped
  · refine .inr ⟨queue', hqueue, ?_⟩
    rw [putLoop, hworld, hsame, hhistory, modify]
    dsimp only
    rw [modify_pairAt hi]
    simp only [Option.isNone_some, Bool.false_eq_true, and_false, if_false, Option.toList_none,
      List.nil_append]
    rfl

end Network

end AudioLink
