import AudioLink.Network.ThreadTimer

/-!
# Firing counters

A thread timer that fires into a queue whose reader does nothing but count: all firings, and those
of an expected generation.
-/

namespace AudioLink

/-- A timer and the counts of its firings. -/
structure FiringCounter where
  timer : ThreadTimer
  queue : Queue
  time : Nat
  expected : UInt64
  firings : Nat
  matching : Nat
  deriving DecidableEq

namespace FiringCounter

def initial : FiringCounter :=
  ⟨.initial, (Queue.ofCapacity Queue.defaultCapacity).attend, 0, 0, 0, 0⟩

def count (counter : FiringCounter) : Command → FiringCounter
  | .fire generation =>
    { counter with
      firings := counter.firings + 1
      matching := counter.matching + (if generation = counter.expected then 1 else 0) }
  | _ => counter

/-- Lets some time pass: the timer fires if it is due, and the reader empties the queue. -/
def wait (nanos : Nat) (counter : FiringCounter) : FiringCounter :=
  let time := counter.time + nanos
  let r := counter.timer.run time counter.queue
  let counted := r.1.pending.foldl count counter
  { counted with
    timer := r.2
    time := time
    queue := { r.1 with waiting := [], handed := none } }

def arm (delay : Nanos) (counter : FiringCounter) : Except SetupError Unit × FiringCounter :=
  let r := counter.timer.arm counter.time delay
  (r.1, { counter with timer := r.2 })

def rearm (delay : Nanos) (counter : FiringCounter) : FiringCounter :=
  { counter with timer := counter.timer.rearm counter.time delay }

def cancel (counter : FiringCounter) : FiringCounter :=
  { counter with timer := counter.timer.cancel }

/-- The reader ends and closes the queue. -/
def close (counter : FiringCounter) : FiringCounter :=
  { counter with queue := counter.queue.close }

/-- Arms without delay again and again until that fails, for at most so many times. -/
def armUntilError : Nat → FiringCounter → Option SetupError × FiringCounter
  | 0, counter => (none, counter)
  | fuel + 1, counter =>
    match counter.arm 0 with
    | (.error cause, counter) => (some cause, counter)
    | (.ok (), counter) => (counter.wait 0).armUntilError fuel

end FiringCounter

end AudioLink
