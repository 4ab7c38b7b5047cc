import AudioLink.Error
import AudioLink.Network.Queue

/-!
# Thread timers

A timer on a thread of its own. The owner writes to an unbounded control channel; the thread reads
it in order and keeps at most one deadline. When the deadline passes, the thread sends a firing
into a dispatch queue, tagged with the generation it was armed under, and waits while that queue is
full. A firing into a closed queue ends the thread.
-/

namespace AudioLink

/-- A message to the thread of a timer. -/
inductive TimerControl where
  | arm (due : Nat) (generation : UInt64)
  | cancel
  deriving DecidableEq

/-- What the thread of a timer is doing. -/
inductive TimerThread where
  | absent
  /-- Waiting for a message, or for a deadline that was set under a generation. -/
  | waiting (deadline : Option (Nat × UInt64))
  | sending (generation : UInt64)
  | ended
  deriving DecidableEq

/-- A timer with its own thread. -/
structure ThreadTimer where
  generation : UInt64
  /-- Messages that the thread has not read, oldest first. -/
  control : List TimerControl
  thread : TimerThread
  deriving DecidableEq

namespace ThreadTimer

def initial : ThreadTimer := ⟨0, [], .absent⟩

/-- Writes to the thread, if there is one to read it. -/
def tell (message : TimerControl) (timer : ThreadTimer) : ThreadTimer :=
  match timer.thread with
  | .absent | .ended => timer
  | .waiting _ | .sending _ => { timer with control := timer.control ++ [message] }

/-- Arms under a new generation. It fails once the thread has ended. -/
def arm (now : Nat) (delay : Nanos) (timer : ThreadTimer) :
    Except SetupError Unit × ThreadTimer :=
  let generation := timer.generation + 1
  match timer.thread with
  | .ended =>
    (.error (.schedulerUnavailable "timer thread exited"), { timer with generation })
  | .absent =>
    (.ok (), ⟨generation, [.arm (now + delay.toNat) generation], .waiting none⟩)
  | .waiting _ | .sending _ =>
    (.ok (), { timer with generation }.tell (.arm (now + delay.toNat) generation))

/-- Arms under the present generation. -/
def rearm (now : Nat) (delay : Nanos) (timer : ThreadTimer) : ThreadTimer :=
  timer.tell (.arm (now + delay.toNat) timer.generation)

/-- Moves on to a new generation and drops the deadline. -/
def cancel (timer : ThreadTimer) : ThreadTimer :=
  { timer with generation := timer.generation + 1 }.tell .cancel

/-- The thread reads its next message. -/
def read (timer : ThreadTimer) : ThreadTimer :=
  match timer.thread, timer.control with
  | .waiting _, .arm due generation :: rest =>
    { timer with control := rest, thread := .waiting (some (due, generation)) }
  | .waiting _, .cancel :: rest => { timer with control := rest, thread := .waiting none }
  | _, _ => timer

/-- The deadline passes while the thread has nothing to read. -/
def expire (now : Nat) (timer : ThreadTimer) : ThreadTimer :=
  match timer.thread, timer.control with
  | .waiting (some (due, generation)), [] =>
    if due ≤ now then { timer with thread := .sending generation } else timer
  | _, _ => timer

/-- The thread tries to send its firing into a queue. -/
def fire (queue : Queue) (timer : ThreadTimer) : Queue × ThreadTimer :=
  match timer.thread with
  | .sending generation =>
    let r := queue.send (.fire generation)
    match r.1 with
    | some true => (r.2, { timer with thread := .waiting none })
    | some false => (r.2, { timer with thread := .ended })
    | none => (r.2, timer)
  | _ => (queue, timer)

/-- The owner is gone, and the thread ends with it. -/
def release (timer : ThreadTimer) : ThreadTimer :=
  { timer with control := [], thread := .ended }

/-- When the thread will send next, if it reads all its messages first. -/
def due? (timer : ThreadTimer) : Option Nat :=
  match timer.thread with
  | .waiting deadline =>
    (timer.control.foldl
      (fun _ message =>
        match message with
        | .arm due generation => some (due, generation)
        | .cancel => none)
      deadline).map Prod.fst
  | _ => none

def readAll (timer : ThreadTimer) : ThreadTimer :=
  timer.control.foldl (fun timer _ => timer.read) timer

/-- All the thread does up to a point in time: it reads its messages, lets the deadline pass if it
is due, and sends the firing. -/
def run (now : Nat) (queue : Queue) (timer : ThreadTimer) : Queue × ThreadTimer :=
  (timer.readAll.expire now).fire queue

end ThreadTimer

end AudioLink
