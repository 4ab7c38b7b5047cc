import Mathlib.Data.List.Induction
import AudioLink.Proofs.Link.Liveness
import AudioLink.Proofs.Network.Callers

/-!
# Calls through a queue

However posts and sends of any number of callers fall between the steps of a loop, its engine is
called as by one caller who makes the calls of the accepted commands one after the other, in the
order in which they were accepted, until one of them is a shutdown. The engine, its history and the
answers are those of these calls.
-/

namespace AudioLink

/-- A change of the surroundings, and the command that is then carried out, if there is one. The
status of the engine comes with the number of posts that were refused before. -/
structure Round (W : Type) where
  before : W → W
  refused : Nat
  command? : Option Command

namespace Station

variable {W : Type} (host : Host W)

/-- One round of work, on top of the answers so far. -/
def serveRound (r : List (Nat × Reply) × Station W) (round : Round W) :
    List (Nat × Reply) × Station W :=
  let s := r.2.meanwhile round.before
  match round.command? with
  | some command =>
    (r.1 ++ (s.reply? host round.refused command).toList, s.obey host command)
  | none => (r.1, s)

/-- The answers to the commands of all rounds, the first one first, and what has become of the
station. -/
def serve (rounds : List (Round W)) (s : Station W) : List (Nat × Reply) × Station W :=
  rounds.foldl (serveRound host) ([], s)

@[simp] theorem serve_concat (rounds : List (Round W)) (round : Round W) (s : Station W) :
    serve host (rounds ++ [round]) s = serveRound host (serve host rounds s) round := by
  simp [serve]

private theorem tickets_serve (rounds : List (Round W)) (s : Station W) :
    (serve host rounds s).1.map Prod.fst =
      (rounds.filterMap Round.command?).filterMap Command.ticket? := by
  induction rounds using List.reverseRecOn with
  | nil => rfl
  | append_singleton rounds round ih =>
    rw [serve_concat, serveRound, List.filterMap_append, List.filterMap_append, ← ih]
    cases hcommand : round.command? with
    | none => simp [hcommand]
    | some command => simp [hcommand, tickets_reply?]

end Station

/-- What can happen at a loop. The surroundings of the engine change between two rounds of work. -/
inductive Use (W : Type) where
  | post (command : Command)
  | send (command : Command)
  | attend (waits : Bool)
  | fetch
  | work (before : W → W)

namespace WorkLoop

variable {W : Type}

def attend (waits : Bool) (l : WorkLoop W) : WorkLoop W :=
  match l.engine with
  | some _ => { l with queue := { l.queue with attended := waits } }
  | none => l

def fetch (l : WorkLoop W) : WorkLoop W :=
  match l.engine, l.queue.take? with
  | some _, some (command, queue) => { l with queue := { queue with handed := some command } }
  | _, _ => l

def next? (l : WorkLoop W) : Option Command :=
  match l.engine, l.queue.take? with
  | some _, some (command, _) => some command
  | _, _ => none

end WorkLoop

/-- A loop with what its users have seen: the commands that it accepted, the first one first, the
number of posts that were refused while its queue was open, and the rounds of work. -/
structure Watched (W : Type) where
  loop : WorkLoop W
  accepted : List Command
  refused : Nat
  rounds : List (Round W)

namespace Watched

variable {W : Type} (host : Host W)

def create (capacity : Nat) (world : W) : Watched W :=
  ⟨⟨.ofCapacity capacity, none, world, [], []⟩, [], 0, []⟩

def spawn (engine : Engine) (w : Watched W) : Watched W := { w with loop := w.loop.spawn engine }

def use (w : Watched W) : Use W → Watched W
  | .post command =>
    let r := w.loop.post command
    if r.1 then { w with loop := r.2, accepted := w.accepted ++ [command] }
    else { w with loop := r.2, refused := w.refused + if w.loop.queue.isOpen then 1 else 0 }
  | .send command =>
    let r := w.loop.send command
    if r.1 = some true then { w with loop := r.2, accepted := w.accepted ++ [command] }
    else { w with loop := r.2 }
  | .attend waits => { w with loop := w.loop.attend waits }
  | .fetch => { w with loop := w.loop.fetch }
  | .work before =>
    { w with
      loop := { w.loop with world := before w.loop.world }.step host
      rounds := w.rounds ++ [⟨before, w.refused, w.loop.next?⟩] }

def run (uses : List (Use W)) (w : Watched W) : Watched W := uses.foldl (use host) w

/-- The commands that were carried out, the first one first. -/
def done (w : Watched W) : List Command := w.rounds.filterMap Round.command?

end Watched

namespace Queue

/-- What is refused leaves a queue as it was, but for the count of refusals by an open one. -/
theorem post_of_refused {command : Command} {queue : Queue} (h : (queue.post command).1 = false) :
    (queue.post command).2 =
      { queue with dropped := queue.dropped + if queue.isOpen then 1 else 0 } := by
  unfold post at h ⊢
  split
  · rename_i hopen
    cases haccept : queue.accept? command with
    | none => simp [hopen]
    | some queue' => simp [hopen, haccept] at h
  · rfl

theorem send_of_refused {command : Command} {queue : Queue}
    (h : (queue.send command).1 ≠ some true) : (queue.send command).2 = queue := by
  unfold send at h ⊢
  split
  · rename_i hopen
    cases haccept : queue.accept? command with
    | none => rfl
    | some queue' => simp [hopen, haccept] at h
  · rfl

end Queue

namespace WorkLoop

variable {W : Type} {l : WorkLoop W} {engine : Engine} {command : Command} {queue : Queue}

private theorem next?_eq_some (h : l.next? = some command) :
    ∃ engine queue, l.engine = some engine ∧ l.queue.take? = some (command, queue) := by
  unfold next? at h
  split at h
  · rename_i hengine htake
    cases h
    exact ⟨_, _, hengine, htake⟩
  · cases h

private theorem step_of_next?_eq_none (host : Host W) (h : l.next? = none) : l.step host = l := by
  cases hengine : l.engine with
  | none => simp only [step, hengine]
  | some engine =>
    cases htake : l.queue.take? with
    | none => simp only [step, hengine, htake]
    | some taken => simp [next?, hengine, htake] at h

end WorkLoop

namespace Watched

/-- How far a loop has come whose engine would be as given: it waits for its engine, it works, or it
has ended. -/
inductive Phase (first engine : Engine) (held : Option Engine) (queue : Queue)
    (done accepted : List Command) : Bool → Prop
  | waiting (hengine : held = none) (hopen : queue.isOpen = true)
      (hattended : queue.attended = false)
      (hhanded : queue.handed = none) (hfirst : engine = first) (hdone : done = [])
      (haccepted : queue.pending = accepted) : Phase first engine held queue done accepted false
  | working (hengine : held = some engine) (hopen : queue.isOpen = true) (hdone : .shutdown ∉ done)
      (haccepted : done ++ queue.pending = accepted) :
      Phase first engine held queue done accepted true
  | ended (hengine : held = none) (hclosed : queue.isOpen = false)
      (hstopped : engine.started = false) (hend : .shutdown ∈ done)
      (hdone : done = untilShutdown accepted) (haccepted : done ++ queue.pending = accepted) :
      Phase first engine held queue done accepted true

variable {W : Type} (host : Host W)

/-- The queue is in order, and the engine has been through the calls of its rounds. -/
structure Follows (capacity : Nat) (first : Station W) (manned : Bool) (w : Watched W) : Prop where
  capacity : w.loop.queue.capacity = capacity
  bounded : w.loop.queue.Bounded
  dropped : w.loop.queue.dropped = w.refused
  world : w.loop.world = (first.serve host w.rounds).2.world
  history : w.loop.history = (first.serve host w.rounds).2.history
  replies : w.loop.replies.reverse = (first.serve host w.rounds).1
  phase : Phase first.engine (first.serve host w.rounds).2.engine w.loop.engine w.loop.queue w.done
    w.accepted manned

variable {host} {capacity : Nat} {first : Station W} {manned : Bool} {w : Watched W}

private theorem follows_create (host : Host W) (capacity : Nat) (engine : Engine) (world : W) :
    Follows host capacity ⟨engine, world, []⟩ false (create capacity world) :=
  ⟨rfl, Nat.zero_le _, rfl, rfl, rfl, rfl, .waiting rfl rfl rfl rfl rfl rfl rfl⟩

theorem Follows.spawn (h : Follows host capacity first false w) :
    Follows host capacity first true (w.spawn first.engine) := by
  refine ⟨h.capacity, h.bounded, h.dropped, h.world, h.history, h.replies, ?_⟩
  cases h.phase with
  | waiting hengine hopen hattended hhanded hfirst hdone haccepted =>
    refine .working (congrArg some hfirst.symm) hopen ?_ ?_
    · change .shutdown ∉ w.done
      rw [hdone]
      exact List.not_mem_nil
    · change w.done ++ w.loop.queue.pending = w.accepted
      rw [hdone, List.nil_append, haccepted]

theorem Follows.accept (h : Follows host capacity first manned w) {command : Command}
    {queue : Queue} (hopen : w.loop.queue.isOpen = true)
    (haccepts : w.loop.queue.Accepts command queue) :
    Follows host capacity first manned
      { w with loop := { w.loop with queue }, accepted := w.accepted ++ [command] } := by
  have hpending := haccepts.pending h.bounded
  obtain ⟨hcapacity, hattended, hopen', hdropped⟩ := haccepts.fixed
  refine ⟨hcapacity.trans h.capacity, haccepts.bounded h.bounded, hdropped.trans h.dropped, h.world,
    h.history, h.replies, ?_⟩
  cases h.phase with
  | waiting hengine _ hunattended hhanded hfirst hdone haccepted =>
    refine .waiting hengine (hopen'.trans hopen) (hattended.trans hunattended) ?_ hfirst hdone ?_
    · cases haccepts with
      | buffered => exact hhanded
      | handed _ hreader =>
        rw [hunattended] at hreader
        cases hreader
    · rw [← haccepted]
      exact hpending
  | working hengine _ hdone haccepted =>
    refine .working hengine (hopen'.trans hopen) hdone ?_
    rw [← haccepted, List.append_assoc, ← hpending]
    rfl
  | ended _ hclosed =>
    rw [hopen] at hclosed
    cases hclosed

private theorem Follows.refuse (h : Follows host capacity first manned w) (n : Nat) :
    Follows host capacity first manned
      { w with
        loop := { w.loop with queue := { w.loop.queue with dropped := w.loop.queue.dropped + n } }
        refused := w.refused + n } := by
  refine ⟨h.capacity, h.bounded, ?_, h.world, h.history, h.replies, ?_⟩
  · exact congrArg (· + n) h.dropped
  · cases h.phase with
    | waiting hengine hopen hattended hhanded hfirst hdone haccepted =>
      exact .waiting hengine hopen hattended hhanded hfirst hdone haccepted
    | working hengine hopen hdone haccepted => exact .working hengine hopen hdone haccepted
    | ended hengine hclosed hstopped hend hdone haccepted =>
      exact .ended hengine hclosed hstopped hend hdone haccepted

/-- Once a loop has an engine, it is the one that has been through the calls so far. -/
theorem Follows.working (h : Follows host capacity first manned w) {engine : Engine}
    (hengine : w.loop.engine = some engine) :
    manned = true ∧ engine = (first.serve host w.rounds).2.engine ∧ w.loop.queue.isOpen = true ∧
      .shutdown ∉ w.done ∧ w.done ++ w.loop.queue.pending = w.accepted := by
  cases h.phase with
  | waiting hnone =>
    rw [hnone] at hengine
    cases hengine
  | working hsame hopen hdone haccepted =>
    exact ⟨rfl, Option.some.inj (hengine.symm.trans hsame), hopen, hdone, haccepted⟩
  | ended hnone =>
    rw [hnone] at hengine
    cases hengine

/-- A working loop may hold what is pending in another place. -/
theorem Follows.hold (h : Follows host capacity first manned w) {engine : Engine} {queue : Queue}
    (hengine : w.loop.engine = some engine) (hcapacity : queue.capacity = w.loop.queue.capacity)
    (hbounded : queue.Bounded) (hopen : queue.isOpen = w.loop.queue.isOpen)
    (hdropped : queue.dropped = w.loop.queue.dropped)
    (hpending : queue.pending = w.loop.queue.pending) :
    Follows host capacity first manned { w with loop := { w.loop with queue } } := by
  obtain ⟨rfl, hsame, hwasOpen, hdone, haccepted⟩ := h.working hengine
  refine ⟨hcapacity.trans h.capacity, hbounded, hdropped.trans h.dropped, h.world, h.history,
    h.replies, .working ?_ (hopen.trans hwasOpen) hdone ?_⟩
  · exact hengine.trans (congrArg some hsame)
  · rw [← haccepted, ← hpending]
    rfl

theorem Follows.attend (h : Follows host capacity first manned w) (waits : Bool) :
    Follows host capacity first manned { w with loop := w.loop.attend waits } := by
  unfold WorkLoop.attend
  split
  · rename_i hengine
    exact h.hold hengine rfl h.bounded rfl rfl rfl
  · exact h

private theorem Follows.fetch (h : Follows host capacity first manned w) :
    Follows host capacity first manned { w with loop := w.loop.fetch } := by
  unfold WorkLoop.fetch
  split
  · rename_i engine command queue hengine htake
    have hbounded := Queue.bounded_take? htake h.bounded
    obtain ⟨hcapacity, -, hopen, hdropped⟩ := Queue.fixed_take? htake
    refine h.hold hengine hcapacity hbounded hopen hdropped ?_
    rw [Queue.pending_take? htake]
    simp [Queue.pending, Queue.handed_take? htake]
  · exact h

private theorem loop_work_of_idle (host : Host W) (before : W → W) (h : w.loop.next? = none) :
    (w.use host (.work before)).loop = { w.loop with world := before w.loop.world } :=
  WorkLoop.step_of_next?_eq_none host h

private theorem loop_work_of_take? (host : Host W) (before : W → W) {engine : Engine}
    {command : Command} {queue : Queue} (hengine : w.loop.engine = some engine)
    (htake : w.loop.queue.take? = some (command, queue)) :
    (w.use host (.work before)).loop =
      let s : Station W := ⟨engine, before w.loop.world, w.loop.history⟩
      let s' := s.obey host command
      ⟨if command = .shutdown then queue.close else queue,
        if command = .shutdown then none else some s'.engine, s'.world, s'.history,
        (s.reply? host queue.dropped command).toList ++ w.loop.replies⟩ :=
  WorkLoop.step_of_take? (l := { w.loop with world := before w.loop.world }) host hengine htake

/-- A loop with nothing to do only sees its surroundings change. -/
theorem Follows.idle (h : Follows host capacity first manned w) (before : W → W)
    (hnext : w.loop.next? = none) :
    Follows host capacity first manned (w.use host (.work before)) := by
  have hserved : first.serve host (w.use host (.work before)).rounds =
      ((first.serve host w.rounds).1, (first.serve host w.rounds).2.meanwhile before) := by
    simp [Watched.use, Station.serveRound, hnext]
  have hdone : (w.use host (.work before)).done = w.done := by
    simp [Watched.use, done, hnext]
  constructor <;> rw [loop_work_of_idle host before hnext]
  · exact h.capacity
  · exact h.bounded
  · exact h.dropped
  · rw [hserved]
    exact congrArg before h.world
  · rw [hserved]
    exact h.history
  · rw [hserved]
    exact h.replies
  · rw [hserved, hdone]
    exact h.phase

/-- A loop at work has ended if the next command is a shutdown, and is at work otherwise. -/
theorem Phase.next {first engine : Engine} {queue : Queue} {command : Command}
    {done accepted : List Command} (hopen : queue.isOpen = true) (hend : .shutdown ∉ done)
    (haccepted : done ++ command :: queue.pending = accepted)
    (hstopped : command = .shutdown → engine.started = false) :
    Phase first engine (if command = .shutdown then none else some engine)
      (if command = .shutdown then queue.close else queue) (done ++ [command]) accepted true := by
  have hall : (done ++ [command]) ++ queue.pending = accepted := by
    rw [← haccepted, List.append_assoc, List.singleton_append]
  by_cases hshutdown : command = .shutdown
  · rw [if_pos hshutdown, if_pos hshutdown]
    refine .ended rfl rfl (hstopped hshutdown) ?_ ?_ hall
    · rw [hshutdown]
      exact List.mem_append_right _ List.mem_cons_self
    · rw [← haccepted, hshutdown, untilShutdown_concat hend]
  · rw [if_neg hshutdown, if_neg hshutdown]
    refine .working rfl hopen ?_ hall
    rw [List.mem_append, List.mem_singleton, not_or]
    exact ⟨hend, Ne.symm hshutdown⟩

private theorem Follows.carryOut (h : Follows host capacity first manned w) (before : W → W)
    {command : Command} (hnext : w.loop.next? = some command) :
    Follows host capacity first manned (w.use host (.work before)) := by
  obtain ⟨engine, queue, hengine, htake⟩ := WorkLoop.next?_eq_some hnext
  obtain ⟨rfl, hsame, hwasOpen, hend, haccepted⟩ := h.working hengine
  obtain ⟨hcapacity, -, hopen, hdropped⟩ := Queue.fixed_take? htake
  rw [Queue.pending_take? htake] at haccepted
  have hdone : (w.use host (.work before)).done = w.done ++ [command] := by
    simp [Watched.use, done, hnext]
  have hserved : first.serve host (w.use host (.work before)).rounds =
      Station.serveRound host (first.serve host w.rounds) ⟨before, w.refused, some command⟩ := by
    simp [Watched.use, hnext]
  have hstation : (⟨engine, before w.loop.world, w.loop.history⟩ : Station W) =
      (first.serve host w.rounds).2.meanwhile before := by
    rw [h.world, h.history, hsame]
    rfl
  have hloop := loop_work_of_take? host before hengine htake
  dsimp only at hloop
  rw [hstation, hdropped, h.dropped] at hloop
  have hbounded : queue.Bounded := Queue.bounded_take? htake h.bounded
  constructor <;> rw [hloop]
  · split <;> exact hcapacity.trans h.capacity
  · split <;> exact hbounded
  · split <;> exact hdropped.trans h.dropped
  · rw [hserved]
    rfl
  · rw [hserved]
    rfl
  · rw [hserved, List.reverse_append, h.replies]
    congr 1
    cases command <;> rfl
  · rw [hserved, hdone]
    refine Phase.next (hopen.trans hwasOpen) hend haccepted ?_
    rintro rfl
    exact Station.started_stop host _

theorem Follows.use (h : Follows host capacity first manned w) (u : Use W) :
    Follows host capacity first manned (w.use host u) := by
  cases u with
  | post command =>
    rw [Watched.use, WorkLoop.post]
    dsimp only
    split
    · rename_i hposted
      obtain ⟨hopen, haccepts⟩ := Queue.accepts_of_post hposted
      exact h.accept hopen haccepts
    · rename_i hposted
      rw [Queue.post_of_refused (by simpa using hposted)]
      exact h.refuse _
  | send command =>
    rw [Watched.use, WorkLoop.send]
    dsimp only
    split
    · rename_i hsent
      obtain ⟨hopen, haccepts⟩ := Queue.accepts_of_send hsent
      exact h.accept hopen haccepts
    · rename_i hsent
      rw [Queue.send_of_refused hsent]
      exact h
  | attend waits => exact h.attend waits
  | fetch => exact h.fetch
  | work before =>
    cases hnext : w.loop.next? with
    | none => exact h.idle before hnext
    | some command => exact h.carryOut before hnext

theorem Follows.run (h : Follows host capacity first manned w) (uses : List (Use W)) :
    Follows host capacity first manned (w.run host uses) := by
  induction uses generalizing w with
  | nil => exact h
  | cons u uses ih => exact ih (h.use u)

private theorem use_of_closed (host : Host W) (hengine : w.loop.engine = none)
    (hclosed : w.loop.queue.isOpen = false) (u : Use W) :
    let w' := w.use host u
    w'.loop.engine = none ∧ w'.loop.queue.isOpen = false ∧
      w'.loop.queue.pending = w.loop.queue.pending ∧ w'.accepted = w.accepted ∧
      w'.done = w.done ∧ w'.loop.history = w.loop.history ∧ w'.loop.replies = w.loop.replies := by
  have hnext : w.loop.next? = none := by simp [WorkLoop.next?, hengine]
  cases u with
  | post command =>
    simp [use, WorkLoop.post, Queue.post, hclosed, hengine, done]
  | send command =>
    simp [use, WorkLoop.send, Queue.send, hclosed, hengine, done]
  | attend waits =>
    simp [use, WorkLoop.attend, hclosed, hengine, done]
  | fetch =>
    simp [use, WorkLoop.fetch, hclosed, hengine, done]
  | work before =>
    dsimp only
    rw [loop_work_of_idle host before hnext]
    refine ⟨hengine, hclosed, rfl, rfl, ?_, rfl, rfl⟩
    simp [use, done, hnext]

private theorem run_of_closed (host : Host W) (hengine : w.loop.engine = none)
    (hclosed : w.loop.queue.isOpen = false) (uses : List (Use W)) :
    let w' := w.run host uses
    w'.loop.queue.isOpen = false ∧ w'.loop.queue.pending = w.loop.queue.pending ∧
      w'.accepted = w.accepted ∧ w'.done = w.done ∧ w'.loop.history = w.loop.history ∧
      w'.loop.replies = w.loop.replies := by
  induction uses generalizing w with
  | nil => exact ⟨hclosed, rfl, rfl, rfl, rfl, rfl⟩
  | cons u uses ih =>
    obtain ⟨hengine', hclosed', hpending, haccepted, hdone, hhistory, hreplies⟩ :=
      use_of_closed host hengine hclosed u
    obtain ⟨hclosed'', hpending', haccepted', hdone', hhistory', hreplies'⟩ := ih hengine' hclosed'
    exact ⟨hclosed'', hpending'.trans hpending, haccepted'.trans haccepted, hdone'.trans hdone,
      hhistory'.trans hhistory, hreplies'.trans hreplies⟩

private theorem Follows.done_of_settled (h : Follows host capacity first true w)
    (hpending : w.loop.queue.pending = []) : w.done = untilShutdown w.accepted := by
  cases h.phase with
  | working hengine hopen hdone haccepted =>
    rw [hpending, List.append_nil] at haccepted
    rw [← haccepted, untilShutdown_of_not_mem hdone]
  | ended hengine hclosed hstopped hend hdone => exact hdone

private theorem pending_work (host : Host W) {engine : Engine}
    (hengine : w.loop.engine = some engine) (before : W → W) :
    (w.use host (.work before)).loop.queue.pending.length ≤ w.loop.queue.pending.length - 1 := by
  cases hnext : w.loop.next? with
  | some command =>
    obtain ⟨engine, queue, hengine, htake⟩ := WorkLoop.next?_eq_some hnext
    rw [loop_work_of_take? host before hengine htake, Queue.pending_take? htake]
    dsimp only
    split <;> exact Nat.le_refl _
  | none =>
    have hempty : w.loop.queue.pending = [] := by
      by_contra hpending
      obtain ⟨command, queue, htake⟩ := Queue.exists_take? hpending
      simp [WorkLoop.next?, hengine, htake] at hnext
    rw [loop_work_of_idle host before hnext]
    simp [hempty]

private theorem Follows.done_of_works (h : Follows host capacity first true w)
    (changes : List (W → W)) (hlength : w.loop.queue.pending.length ≤ changes.length) :
    (w.run host (changes.map .work)).done = untilShutdown w.accepted := by
  induction changes generalizing w with
  | nil => exact h.done_of_settled (List.length_eq_zero_iff.mp (Nat.le_zero.mp hlength))
  | cons before changes ih =>
    cases h.phase with
    | working hengine =>
      have hless := pending_work host hengine before
      rw [List.length_cons] at hlength
      exact ih (h.use (.work before)) (by omega)
    | ended hengine hclosed hstopped hend hdone =>
      obtain ⟨-, -, -, hsame, -⟩ :=
        run_of_closed host hengine hclosed ((before :: changes).map .work)
      exact hsame.trans hdone

private theorem Follows.accepted_eq (h : Follows host capacity first true w) :
    w.done ++ w.loop.queue.pending = w.accepted := by
  cases h.phase with
  | working _ _ _ haccepted => exact haccepted
  | ended _ _ _ _ _ haccepted => exact haccepted

private theorem Follows.tickets_replies (h : Follows host capacity first manned w) :
    w.loop.replies.reverse.map Prod.fst = w.done.filterMap Command.ticket? := by
  rw [h.replies, Station.tickets_serve]
  rfl

private theorem Follows.exists_lookup (h : Follows host capacity first manned w) {ticket : Nat}
    (hticket : ticket ∈ w.done.filterMap Command.ticket?) :
    ∃ reply, (ticket, reply) ∈ (first.serve host w.rounds).1 ∧
      w.loop.replies.lookup ticket = some reply := by
  rw [← h.tickets_replies, List.map_reverse, List.mem_reverse] at hticket
  cases hlookup : w.loop.replies.lookup ticket with
  | none =>
    obtain ⟨answer, hanswer, rfl⟩ := List.mem_map.mp hticket
    exact absurd (List.lookup_eq_none_iff.mp hlookup answer hanswer) (by simp)
  | some reply =>
    obtain ⟨front, behind, hsplit, -⟩ := List.lookup_eq_some_iff.mp hlookup
    refine ⟨reply, ?_, rfl⟩
    rw [← h.replies, hsplit]
    simp

private theorem Follows.lookup_eq_none (h : Follows host capacity first manned w) (ticket : Nat)
    (hticket : ticket ∉ w.done.filterMap Command.ticket?) :
    w.loop.replies.lookup ticket = none := by
  rw [← h.tickets_replies] at hticket
  rw [List.lookup_eq_none_iff]
  intro reply hreply
  have hother : ticket ≠ reply.1 := by
    rintro rfl
    exact hticket (List.mem_map_of_mem (List.mem_reverse.mpr hreply))
  simpa using hother

private theorem Follows.receipt_of_done (h : Follows host capacity first manned w)
    (remainder : Remainder) {ticket : Nat} (hticket : ticket ∈ w.done.filterMap Command.ticket?) :
    ∃ reply, (ticket, reply) ∈ (first.serve host w.rounds).1 ∧
      w.loop.receipt remainder ticket = .answered reply := by
  obtain ⟨reply, hreply, hlookup⟩ := h.exists_lookup hticket
  exact ⟨reply, hreply, WorkLoop.receipt_of_answer hlookup⟩

private theorem Follows.receipt_of_accepted (h : Follows host capacity first true w)
    (remainder : Remainder) {ticket : Nat} (hticket : ticket ∉ w.done.filterMap Command.ticket?)
    (hend : .shutdown ∉ w.done) (haccepted : ticket ∈ w.accepted.filterMap Command.ticket?) :
    w.loop.receipt remainder ticket = .waiting := by
  rw [← h.accepted_eq, List.filterMap_append, List.mem_append, or_iff_right hticket] at haccepted
  cases h.phase with
  | working _ hopen =>
    exact WorkLoop.receipt_of_open (h.lookup_eq_none ticket hticket) hopen haccepted
  | ended _ _ _ hdone => exact absurd hdone hend

private theorem Follows.receipt_of_ended (h : Follows host capacity first true w)
    (remainder : Remainder) {ticket : Nat} (hnone : w.loop.replies.lookup ticket = none)
    (hend : .shutdown ∈ w.done)
    (more : List (Use W)) :
    (w.run host more).loop.receipt remainder ticket =
        (if ticket ∈ (remainder w.loop.queue.pending).filterMap Command.ticket? then .waiting
          else .disconnected) ∧
      (remainder.Dropped → (w.run host more).loop.receipt remainder ticket = .disconnected) := by
  cases h.phase with
  | working _ _ hdone => exact absurd hend hdone
  | ended hengine hclosed =>
    obtain ⟨hclosed', hpending, -, -, -, hreplies⟩ := run_of_closed host hengine hclosed more
    rw [← hreplies] at hnone
    rw [← hpending]
    exact ⟨WorkLoop.receipt_of_closed hnone hclosed', WorkLoop.receipt_of_dropped hnone hclosed'⟩

private theorem Follows.accepted_of_waiting (h : Follows host 0 first false w) :
    w.accepted = [] := by
  cases h.phase with
  | waiting hengine hopen hattended hhanded hfirst hdone haccepted =>
    have hbounded := h.bounded
    rw [Queue.Bounded, h.capacity] at hbounded
    rw [← haccepted, Queue.pending, hhanded, List.length_eq_zero_iff.mp (Nat.le_zero.mp hbounded)]
    rfl

/-- One command comes in time, the next one finds the queue full. -/
def earlyUses : List (Use ScriptedHost) := [.post (.status 0), .post (.fire 0)]

def lateUses : List (Use ScriptedHost) :=
  [.work id, .send (.start 1), .fetch, .post (.status 2), .post (.fire 0), .work id, .work id,
    .send .shutdown, .fetch, .post (.stop 3), .work id, .post (.fire 0)]

end Watched

end AudioLink
