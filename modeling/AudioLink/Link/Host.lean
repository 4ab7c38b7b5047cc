import AudioLink.Link.Event

/-!
# Hosts

An engine owns no thread, timer or network interface. It acts on its surroundings through the
operations of a host, over whatever state `W` they have: a one-shot timer with a clock, a hook for
inbound frames, an output for frames, a data stream, and the callbacks of the audio pipeline, each
of which may be missing.
-/

namespace AudioLink

/-- The operations an engine has on surroundings in state `W`. -/
structure Host (W : Type) where
  arm : Nanos → W → Except SetupError Unit × W
  /-- Schedules the next firing in place of a pending one. -/
  rearm : Nanos → W → W
  cancel : W → W
  now : W → Nanos
  /-- Tells the firings of one arming from those of another. -/
  generation : W → UInt64
  install : FrameFilter → W → Except SetupError Handle × W
  uninstall : Handle → W → W
  transmit : Bytes → W → Except TransmitError Unit × W
  process : Header → W → Except StreamError Header × W
  received : Header → W → W
  connection : Option (Option Device → W → W)
  deliver : Option (Bytes → W → W)
  demand : Option (W → Option Bytes × W)

end AudioLink
