import AudioLink.Link.ManualTimer
import AudioLink.Network.ThreadTimer

/-!
# Clockworks

The timer of a node is either driven by hand or runs on a thread of its own, on the common time of
the network.
-/

namespace AudioLink

/-- The timer of a node. -/
inductive Clockwork where
  | manual (timer : ManualTimer)
  | thread (timer : ThreadTimer)
  deriving DecidableEq

namespace Clockwork

def arm (time : Nat) (delay : Nanos) : Clockwork → Except SetupError Unit × Clockwork
  | manual timer =>
    let r := timer.arm
    (r.1, manual r.2)
  | thread timer =>
    let r := timer.arm time delay
    (r.1, thread r.2)

def rearm (time : Nat) (delay : Nanos) : Clockwork → Clockwork
  | manual timer => manual timer
  | thread timer => thread (timer.rearm time delay)

def cancel : Clockwork → Clockwork
  | manual timer => manual timer.cancel
  | thread timer => thread timer.cancel

def now (time : Nat) : Clockwork → Nanos
  | manual timer => timer.now
  | thread _ => UInt64.ofNat time

def generation : Clockwork → UInt64
  | manual timer => timer.generation
  | thread timer => timer.generation

/-- What remains of the timer when its engine has ended. -/
def release : Clockwork → Clockwork
  | manual timer => manual timer
  | thread timer => thread timer.release

def due? : Clockwork → Option Nat
  | manual _ => none
  | thread timer => timer.due?

/-- Everything a timer does on its own up to a point in time. -/
def run (time : Nat) (queue : Queue) : Clockwork → Queue × Clockwork
  | manual timer => (queue, manual timer)
  | thread timer =>
    let r := timer.run time queue
    (r.1, thread r.2)

end Clockwork

end AudioLink
