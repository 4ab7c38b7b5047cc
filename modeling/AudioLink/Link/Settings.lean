import AudioLink.Link.Nanos
import AudioLink.Wire.Device
import AudioLink.Wire.Role

/-!
# Engine settings

What an engine is told when it is made: its role, its peer and its timing. A master fires once per
packet; a slave only watches over the connection, since its packets follow those it receives.
-/

namespace AudioLink

/-- The timing of an engine; the two times are exact counts of nanoseconds. -/
structure Timing where
  packetsPerSecond : UInt32
  checkInterval : Nat
  disconnectTimeout : Nat
  deriving DecidableEq

namespace Timing

/-- The liveness check of a slave unless another one is asked for, in milliseconds. -/
def defaultCheckMillis : Nat := 400

/-- The silence that ends a connection unless another one is asked for, in milliseconds. -/
def defaultTimeoutMillis : Nat := 1000

def ofMillis (millis : Nat) : Nat := 1000000 * millis

def standard : Timing :=
  ⟨UInt32.ofNat packetRate, ofMillis defaultCheckMillis, ofMillis defaultTimeoutMillis⟩

end Timing

/-- What an engine is told when it is made. -/
structure Settings where
  role : Role
  device : Device
  timing : Timing
  deriving DecidableEq

namespace Settings

/-- The time between two firings. A rate of zero counts as one. -/
def period (settings : Settings) : Nanos :=
  match settings.role with
  | .master => UInt64.ofNat (1000000000 / max settings.timing.packetsPerSecond.toNat 1)
  | .slave => UInt64.ofNat settings.timing.checkInterval

/-- The silence that ends a connection, cut to 64 bits. -/
def timeout (settings : Settings) : Nanos := UInt64.ofNat settings.timing.disconnectTimeout

end Settings

end AudioLink
