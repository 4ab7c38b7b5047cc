import AudioLink.Error
import AudioLink.Link.Nanos

/-!
# Manual timers

A timer whose clock is set by hand and which never fires on its own. It only keeps the generation,
which every successful arming and every cancellation moves on.
-/

namespace AudioLink

/-- A timer that is driven from outside. -/
structure ManualTimer where
  now : Nanos
  generation : UInt64
  /-- Why arming fails at present, if it does. -/
  fault : Option SetupError
  deriving DecidableEq

namespace ManualTimer

def initial : ManualTimer := ⟨0, 0, none⟩

def arm (timer : ManualTimer) : Except SetupError Unit × ManualTimer :=
  match timer.fault with
  | some cause => (.error cause, timer)
  | none => (.ok (), { timer with generation := timer.generation + 1 })

def cancel (timer : ManualTimer) : ManualTimer :=
  { timer with generation := timer.generation + 1 }

end ManualTimer

end AudioLink
