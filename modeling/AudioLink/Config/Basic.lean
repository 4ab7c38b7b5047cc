import AudioLink.Error
import AudioLink.Link.Settings

/-!
# Configurations

A configuration has three sections: the role and peer of the engine, the timing of its connection,
and the filter of its log. It is checked before it is used: both channel counts fit into a frame of
ordinary size, the address can be read, the check interval is not zero, and the timeout is no
shorter than it.
-/

namespace AudioLink

/-- The most channels that a frame of ordinary size can carry. -/
def maxChannels : UInt16 := 40

/-- Role and peer. -/
structure EngineSection where
  role : Role
  inChannels : UInt16
  outChannels : UInt16
  mac : String
  deriving DecidableEq

/-- Liveness timing in milliseconds. -/
structure TimingSection where
  checkInterval : UInt64
  disconnectTimeout : UInt64
  deriving DecidableEq

/-- Log settings. -/
structure LoggingSection where
  filter : String
  deriving DecidableEq

/-- A configuration. -/
structure Config where
  engine : EngineSection
  timing : TimingSection
  logging : LoggingSection
  deriving DecidableEq

namespace Config

def standard : Config where
  engine :=
    ⟨.slave, Device.placeholder.inChannels, Device.placeholder.outChannels,
      Device.placeholder.mac.text⟩
  timing :=
    ⟨UInt64.ofNat Timing.defaultCheckMillis, UInt64.ofNat Timing.defaultTimeoutMillis⟩
  logging := ⟨"info"⟩

/-- Whether a channel count fits into a frame of ordinary size. -/
def validChannels (count : UInt16) : Bool := count ≠ 0 && count ≤ maxChannels

/-- The first fault of a configuration, if it has one. -/
def fault? (config : Config) : Option ConfigError :=
  if !validChannels config.engine.inChannels then
    some (.invalidChannels config.engine.inChannels)
  else if !validChannels config.engine.outChannels then
    some (.invalidChannels config.engine.outChannels)
  else if (Mac.ofText? config.engine.mac).isNone then
    some (.invalidMac config.engine.mac)
  else if config.timing.checkInterval = 0 then
    some (.invalidTiming "check_interval_ms must be positive")
  else if config.timing.disconnectTimeout < config.timing.checkInterval then
    some (.invalidTiming "disconnect_timeout_ms is shorter than check_interval_ms")
  else none

def validate (config : Config) : Except ConfigError Unit :=
  match config.fault? with
  | some fault => .error fault
  | none => .ok ()

/-- The timing of an engine with this configuration. -/
def engineTiming (config : Config) : Timing :=
  ⟨UInt32.ofNat packetRate, Timing.ofMillis config.timing.checkInterval.toNat,
    Timing.ofMillis config.timing.disconnectTimeout.toNat⟩

/-- The settings of an engine with this configuration, which must be valid. -/
def engineSettings (config : Config) : Except ConfigError Settings :=
  match config.fault?, Mac.ofText? config.engine.mac with
  | some fault, _ => .error fault
  | none, none => .error (.invalidMac config.engine.mac)
  | none, some mac =>
    .ok
      ⟨config.engine.role, ⟨mac, config.engine.inChannels, config.engine.outChannels⟩,
        config.engineTiming⟩

end Config

end AudioLink
