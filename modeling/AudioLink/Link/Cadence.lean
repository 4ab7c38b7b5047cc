import AudioLink.Link.Nanos

/-!
# Cadence

A one-shot timer that is always rearmed with its nominal period adds up the lateness of every
firing. A cadence keeps the absolute deadline instead: the next delay runs from the present moment
to the next point of the grid, so an early firing lengthens it and a late one shortens it.
-/

namespace AudioLink

/-- A period and the time at which the next firing is due. -/
structure Cadence where
  period : Nanos
  deadline : Nanos
  deriving DecidableEq

namespace Cadence

def ofPeriod (period : Nanos) : Cadence := ⟨period, 0⟩

/-- Makes the first firing due one period from now. -/
def start (now : Nanos) (cadence : Cadence) : Cadence :=
  { cadence with deadline := Nanos.saturate (now.toNat + cadence.period.toNat) }

/-- The delay from now to the firing after the one that is due; a firing more than a period late
leaves none. -/
def delay (now : Nanos) (cadence : Cadence) : Nanos :=
  Nanos.saturate (cadence.period.toNat + cadence.deadline.toNat - now.toNat)

/-- Moves the deadline on by one period. -/
def advance (cadence : Cadence) : Cadence :=
  { cadence with deadline := Nanos.saturate (cadence.deadline.toNat + cadence.period.toNat) }

/-- Takes note of a firing and gives the delay to the next one. -/
def fire (now : Nanos) (cadence : Cadence) : Nanos × Cadence :=
  (cadence.delay now, cadence.advance)

end Cadence

end AudioLink
