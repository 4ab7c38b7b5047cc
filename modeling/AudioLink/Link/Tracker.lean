import AudioLink.Link.Nanos

/-!
# Sequence and liveness tracking

Whether a peer is connected follows from its packets alone. A tick counter advances with every
timer firing while the peer is connected, and each packet takes a snapshot of it; the distance
between the two, times the period, is how long the peer has been silent. The counters wrap, and so
does the distance.
-/

namespace AudioLink

/-- A break in the counters of inbound packets. -/
structure Gap where
  last : UInt16
  received : UInt16
  deriving DecidableEq

/-- How many packets are missing, modulo the range of the counter. -/
def Gap.missing (gap : Gap) : UInt16 := gap.received - gap.last - 1

/-- Whether one counter directly follows another, past the wrap too. -/
def isSuccessor (last received : UInt16) : Bool := last + 1 == received

/-- What a timer firing finds out about the peer. -/
inductive Liveness where
  | idle
  | alive
  | lost
  deriving DecidableEq

/-- The state of one connection. -/
structure Tracker where
  tick : UInt64
  lastSeen : UInt64
  lastSequence : UInt16
  connected : Bool
  deriving DecidableEq

namespace Tracker

def initial : Tracker := ⟨0, 0, 0, false⟩

/-- How long the peer has been silent, held at the greatest count. -/
def idle (period : Nanos) (tracker : Tracker) : Nanos :=
  Nanos.saturate ((tracker.tick - tracker.lastSeen).toNat * period.toNat)

/-- The gap before a packet; there is none before the first packet of a connection. -/
def gap? (received : UInt16) (tracker : Tracker) : Option Gap :=
  if !tracker.connected || isSuccessor tracker.lastSequence received then none
  else some ⟨tracker.lastSequence, received⟩

/-- Takes the snapshot of a valid packet. -/
def record (received : UInt16) (tracker : Tracker) : Tracker :=
  { tracker with lastSeen := tracker.tick, lastSequence := received }

/-- Connects, and says whether that is new. -/
def connect (tracker : Tracker) : Bool × Tracker :=
  (!tracker.connected, { tracker with connected := true })

/-- Disconnects, and says whether that is new. -/
def disconnect (tracker : Tracker) : Bool × Tracker :=
  (tracker.connected, { tracker with connected := false })

/-- A timer firing: the connection ends if the silence exceeds the timeout, else the tick
advances. -/
def onTick (period timeout : Nanos) (tracker : Tracker) : Liveness × Tracker :=
  if !tracker.connected then (.idle, tracker)
  else if timeout < tracker.idle period then (.lost, { tracker with connected := false })
  else (.alive, { tracker with tick := tracker.tick + 1 })

end Tracker

end AudioLink
