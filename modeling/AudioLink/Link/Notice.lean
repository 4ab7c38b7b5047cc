import AudioLink.Error
import AudioLink.Link.Nanos
import AudioLink.Wire.Device
import AudioLink.Wire.Role

/-!
# Notices

What an engine has to say about its work, by occasion, with a severity and a wording for each.
-/

namespace AudioLink

/-- How much a notice matters, the gravest first. -/
inductive Severity where
  | error
  | warn
  | info
  | debug
  | trace
  deriving DecidableEq

namespace Severity

def rank : Severity → Nat
  | error => 0
  | warn => 1
  | info => 2
  | debug => 3
  | trace => 4

def label : Severity → String
  | error => "ERROR"
  | warn => "WARN"
  | info => "INFO"
  | debug => "DEBUG"
  | trace => "TRACE"

end Severity

/-- One remark of an engine. -/
inductive Notice where
  | zeroPeriod (role : Role)
  | armFailed (cause : SetupError)
  | installFailed (cause : SetupError)
  | started (role : Role) (period : Nanos) (device : Device)
  | stopped (role : Role)
  | timedOut (device : Device) (timeoutMillis : Nat)
  | staleFiring (generation current : UInt64)
  | frameDropped (cause : DecodeError)
  | received (counter : UInt16)
  | packetsLost (last next : UInt16)
  | connected (device : Device)
  | wrongBlockSize (actual expected : Nat)
  | streamFailed (cause : StreamError)
  | buildFailed (cause : EncodeError)
  | sent (counter : UInt16)
  | sendFailed (cause : TransmitError)
  deriving DecidableEq

namespace Notice

def severity : Notice → Severity
  | zeroPeriod _ | armFailed _ | installFailed _ => .error
  | timedOut _ _ | frameDropped _ | packetsLost _ _ | wrongBlockSize _ _ => .warn
  | streamFailed _ | buildFailed _ | sendFailed _ => .warn
  | started _ _ _ | stopped _ | connected _ => .info
  | staleFiring _ _ => .debug
  | received _ | sent _ => .trace

def text : Notice → String
  | zeroPeriod role => "Refusing to start " ++ role.name ++ " engine with a zero period"
  | armFailed cause => "Failed to arm scheduler: " ++ cause.message
  | installFailed cause => "Failed to install frame hook: " ++ cause.message
  | started role period device =>
    "REAC " ++ role.name ++ " engine started: period " ++ toString period.toNat ++ "ns, " ++
      toString device.inChannels.toNat ++ " in / " ++ toString device.outChannels.toNat ++
      " out channels"
  | stopped role => "REAC " ++ role.name ++ " engine stopped"
  | timedOut device timeoutMillis =>
    "REAC device " ++ device.mac.text ++ " timed out after " ++ toString timeoutMillis ++ " ms"
  | staleFiring generation current =>
    "Dropping stale firing (generation " ++ toString generation.toNat ++ ", current " ++
      toString current.toNat ++ ")"
  | frameDropped cause => "Dropping inbound frame: " ++ cause.message
  | received counter => "Received packet " ++ toString counter.toNat
  | packetsLost last next =>
    "Lost packet [" ++ toString last.toNat ++ " " ++ toString next.toNat ++ "]"
  | connected device =>
    "REAC device " ++ device.mac.text ++ " connected (" ++ toString device.inChannels.toNat ++
      " in, " ++ toString device.outChannels.toNat ++ " out)"
  | wrongBlockSize actual expected =>
    "Got incorrectly sized sample buffer (" ++ toString actual ++ " bytes, expected " ++
      toString expected ++ "), sending silence"
  | streamFailed cause => "Failed to process packet data stream: " ++ cause.message
  | buildFailed cause => "Failed to build packet: " ++ cause.message
  | sent counter => "Sent packet " ++ toString counter.toNat
  | sendFailed cause => "Failed to send packet: " ++ cause.message

end Notice

end AudioLink
