import AudioLink.Link.Cadence
import AudioLink.Link.Event
import AudioLink.Link.Settings
import AudioLink.Link.Tracker

/-!
# Engine state

What an engine remembers between two entries: its settings, the tracker of its connection, its
cadence, the hook it holds, whether it is started, and its counters.
-/

namespace AudioLink

/-- The counters of an engine. -/
structure Stats where
  sent : Nat
  received : Nat
  gaps : Nat
  malformed : Nat
  sendFailures : Nat
  connects : Nat
  disconnects : Nat
  deriving DecidableEq

namespace Stats

def zero : Stats := ⟨0, 0, 0, 0, 0, 0, 0⟩

/-- The time in seconds after which a program that shows the counters shows them again. -/
def displaySeconds : Nat := 5

def countSent (stats : Stats) : Stats := { stats with sent := stats.sent + 1 }

def countReceived (stats : Stats) : Stats := { stats with received := stats.received + 1 }

def countGap (stats : Stats) : Stats := { stats with gaps := stats.gaps + 1 }

def countMalformed (stats : Stats) : Stats := { stats with malformed := stats.malformed + 1 }

def countSendFailure (stats : Stats) : Stats :=
  { stats with sendFailures := stats.sendFailures + 1 }

def countConnect (stats : Stats) : Stats := { stats with connects := stats.connects + 1 }

def countDisconnect (stats : Stats) : Stats :=
  { stats with disconnects := stats.disconnects + 1 }

end Stats

/-- The state of an engine. -/
structure Engine where
  settings : Settings
  tracker : Tracker
  cadence : Cadence
  hook : Option Handle
  started : Bool
  stats : Stats
  deriving DecidableEq

namespace Engine

def ofSettings (settings : Settings) : Engine :=
  ⟨settings, .initial, .ofPeriod settings.period, none, false, .zero⟩

def connected (engine : Engine) : Bool := engine.tracker.connected

def role (engine : Engine) : Role := engine.settings.role

def device (engine : Engine) : Device := engine.settings.device

end Engine

end AudioLink
