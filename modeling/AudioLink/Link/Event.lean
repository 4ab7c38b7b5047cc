import AudioLink.Link.Notice
import AudioLink.Wire.Header

/-!
# Events

Everything an engine does to its surroundings, call by call, with the answer it got. Notices stand
among the calls at the place where they were given.
-/

namespace AudioLink

/-- The token of an installed frame hook. -/
abbrev Handle := Nat

/-- Decides whether an inbound frame is for the engine. -/
abbrev FrameFilter := Bytes → Bool

/-- One call of an engine, or one remark. -/
inductive Event where
  | arm (delay : Nanos) (result : Except SetupError Unit)
  | rearm (delay : Nanos)
  | cancel
  | clock (now : Nanos)
  | install (filter : FrameFilter) (result : Except SetupError Handle)
  | uninstall (handle : Handle)
  | transmit (frame : Bytes) (result : Except TransmitError Unit)
  | process (given : Header) (result : Except StreamError Header)
  | received (header : Header)
  | connected (device : Device)
  | disconnected
  | delivered (block : Bytes)
  | demanded (answer : Option Bytes)
  | note (notice : Notice)

end AudioLink
