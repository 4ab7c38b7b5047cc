import AudioLink.Wire.Bytes

/-!
# Errors

One type per activity that can fail, by cause. The wording of each cause is in the `message`
function of its type, and `Error.message` puts the activity in front of it.
-/

namespace AudioLink

/-- Why a link could not be started. -/
inductive SetupError where
  | alreadyStarted
  | schedulerUnavailable (reason : String)
  | hookUnavailable (reason : String)
  | hookAlreadyInstalled
  | zeroPeriod
  deriving DecidableEq

def SetupError.message : SetupError → String
  | alreadyStarted => "Engine already started"
  | schedulerUnavailable reason => "Scheduler unavailable: " ++ reason
  | hookUnavailable reason => "Frame hook unavailable: " ++ reason
  | hookAlreadyInstalled => "Frame hook already installed"
  | zeroPeriod => "Scheduler period is zero"

/-- Why a frame could not be built. -/
inductive EncodeError where
  | sampleSizeMismatch (expected actual : Nat)
  deriving DecidableEq

def EncodeError.message : EncodeError → String
  | sampleSizeMismatch expected actual =>
    "Sample buffer is " ++ toString actual ++ " bytes, expected " ++ toString expected

/-- Why a frame was refused. -/
inductive DecodeError where
  | lengthMismatch (expected actual : Nat)
  | badTrailer (first second : UInt8)
  deriving DecidableEq

def DecodeError.message : DecodeError → String
  | lengthMismatch expected actual =>
    "Frame is " ++ toString actual ++ " bytes, expected " ++ toString expected
  | badTrailer first second =>
    "Bad trailing marker: [" ++ String.ofList (Hex.pair first) ++ ", " ++
      String.ofList (Hex.pair second) ++ "]"

/-- Why a frame was not sent. -/
inductive TransmitError where
  | linkDown
  | queueFull
  deriving DecidableEq

def TransmitError.message : TransmitError → String
  | linkDown => "Link is down"
  | queueFull => "Transmit queue full"

/-- Why the data stream gave no header. -/
inductive StreamError where
  | notReady
  deriving DecidableEq

def StreamError.message : StreamError → String
  | notReady => "Data stream not ready"

/-- Why a configuration was refused. -/
inductive ConfigError where
  | unreadable (path reason : String)
  | unparsable
  | invalidChannels (count : UInt16)
  | invalidMac (text : String)
  | invalidTiming (reason : String)
  deriving DecidableEq

def ConfigError.message : ConfigError → String
  | unreadable path reason => "Failed to read config file " ++ path ++ ": " ++ reason
  | unparsable => "Failed to parse config"
  | invalidChannels count => "Invalid channel count: " ++ toString count.toNat
  | invalidMac text => "Invalid MAC address: " ++ text
  | invalidTiming reason => "Invalid timing: " ++ reason

/-- Any failure of the library, by activity. -/
inductive Error where
  | setup (cause : SetupError)
  | encode (cause : EncodeError)
  | decode (cause : DecodeError)
  | transmit (cause : TransmitError)
  | stream (cause : StreamError)
  | config (cause : ConfigError)
  | loopClosed
  | io (reason : String)
  deriving DecidableEq

def Error.message : Error → String
  | setup cause => "Setup error: " ++ cause.message
  | encode cause => "Encode error: " ++ cause.message
  | decode cause => "Decode error: " ++ cause.message
  | transmit cause => "Transmit error: " ++ cause.message
  | stream cause => "Data stream error: " ++ cause.message
  | config cause => "Configuration error: " ++ cause.message
  | loopClosed => "Work loop is not running"
  | io reason => "IO error: " ++ reason

end AudioLink
