import AudioLink.Link.Engine
import AudioLink.Link.Host
import AudioLink.Wire.Frame

/-!
# Stations

A station is an engine at work: its state, the state of its surroundings, and the history of what
it did to them. The entries are `start`, `stop`, `fire` for the timer and `inbound` for the frame
hook; each runs to its end before the next one.

A slave connects with the first valid packet and disconnects when it has been silent for longer
than the timeout, which is checked on timer firings. Stopping ends a connection too. Each change is
announced once.
-/

namespace AudioLink

/-- An engine, its surroundings, and what it did to them, the latest first. -/
structure Station (W : Type) where
  engine : Engine
  world : W
  history : List Event

/-- What becomes of an inbound frame. -/
inductive Disposition where
  /-- The frame belongs to the protocol and goes no further. -/
  | handled
  /-- The frame is not of this protocol. -/
  | passThrough
  deriving DecidableEq

namespace Station

variable {W : Type}

def role (s : Station W) : Role := s.engine.role

def device (s : Station W) : Device := s.engine.device

def record (event : Event) (s : Station W) : Station W :=
  ⟨s.engine, s.world, event :: s.history⟩

def note (notice : Notice) (s : Station W) : Station W := s.record (.note notice)

def update (change : Engine → Engine) (s : Station W) : Station W :=
  ⟨change s.engine, s.world, s.history⟩

def tally (count : Stats → Stats) (s : Station W) : Station W :=
  s.update fun engine => { engine with stats := count engine.stats }

def arm (host : Host W) (delay : Nanos) (s : Station W) : Except SetupError Unit × Station W :=
  let answer := host.arm delay s.world
  (answer.1, ⟨s.engine, answer.2, .arm delay answer.1 :: s.history⟩)

def cancel (host : Host W) (s : Station W) : Station W :=
  ⟨s.engine, host.cancel s.world, .cancel :: s.history⟩

/-- Starts the cadence at the present time. -/
def beginCadence (host : Host W) (s : Station W) : Station W :=
  let now := host.now s.world
  (s.record (.clock now)).update fun engine =>
    { engine with cadence := (Cadence.ofPeriod engine.settings.period).start now }

/-- Rearms the timer for the next point of the cadence. -/
def rearm (host : Host W) (s : Station W) : Station W :=
  let now := host.now s.world
  let next := s.engine.cadence.fire now
  ⟨{ s.engine with cadence := next.2 }, host.rearm next.1 s.world,
    .rearm next.1 :: .clock now :: s.history⟩

def install (host : Host W) (s : Station W) : Except SetupError Handle × Station W :=
  let answer := host.install Frame.hasDiscriminator s.world
  (answer.1,
    ⟨s.engine, answer.2, .install Frame.hasDiscriminator answer.1 :: s.history⟩)

/-- Gives back the hook, if one is held. -/
def uninstall (host : Host W) (s : Station W) : Station W :=
  match s.engine.hook with
  | none => s
  | some handle =>
    ⟨{ s.engine with hook := none }, host.uninstall handle s.world,
      .uninstall handle :: s.history⟩

def transmit (host : Host W) (frame : Bytes) (s : Station W) :
    Except TransmitError Unit × Station W :=
  let answer := host.transmit frame s.world
  (answer.1, ⟨s.engine, answer.2, .transmit frame answer.1 :: s.history⟩)

/-- Has the data stream fill in an empty header. -/
def nextHeader (host : Host W) (s : Station W) : Except StreamError Header × Station W :=
  let answer := host.process Header.zero s.world
  (answer.1, ⟨s.engine, answer.2, .process Header.zero answer.1 :: s.history⟩)

def showHeader (host : Host W) (header : Header) (s : Station W) : Station W :=
  ⟨s.engine, host.received header s.world, .received header :: s.history⟩

/-- Announces the peer, or that it is gone. -/
def announce (host : Host W) (peer : Option Device) (s : Station W) : Station W :=
  match host.connection with
  | none => s
  | some callback =>
    let event := match peer with
      | some device => Event.connected device
      | none => Event.disconnected
    ⟨s.engine, callback peer s.world, event :: s.history⟩

/-- Hands a block to the pipeline. -/
def deliver (host : Host W) (block : Bytes) (s : Station W) : Station W :=
  match host.deliver with
  | none => s
  | some callback => ⟨s.engine, callback block s.world, .delivered block :: s.history⟩

/-- Asks the pipeline for a block; one of the wrong size is not used. -/
def demand (host : Host W) (s : Station W) : Option Bytes × Station W :=
  match host.demand with
  | none => (none, s)
  | some callback =>
    let answer := callback s.world
    let s : Station W := ⟨s.engine, answer.2, .demanded answer.1 :: s.history⟩
    match answer.1 with
    | none => (none, s)
    | some block =>
      if block.length = s.device.outbound.samplesLength then (some block, s)
      else (none, s.note (.wrongBlockSize block.length s.device.outbound.samplesLength))

/-- Builds a frame and transmits it. -/
def sendFrame (host : Host W) (header : Header) (samples : Option Bytes) (s : Station W) :
    Station W :=
  match Frame.encode header samples s.device.outbound with
  | .error cause => (s.tally Stats.countSendFailure).note (.buildFailed cause)
  | .ok frame =>
    match s.transmit host frame with
    | (.ok (), s) => (s.tally Stats.countSent).note (.sent header.counter)
    | (.error cause, s) => (s.tally Stats.countSendFailure).note (.sendFailed cause)

/-- Sends one packet: the block of the pipeline, or silence, under the next header. -/
def send (host : Host W) (s : Station W) : Station W :=
  let supplied := s.demand host
  match supplied.2.nextHeader host with
  | (.error cause, s) => (s.tally Stats.countSendFailure).note (.streamFailed cause)
  | (.ok header, s) => s.sendFrame host header supplied.1

/-- Counts a break in the counters, if there is one. -/
def checkGap (counter : UInt16) (s : Station W) : Station W :=
  match s.engine.tracker.gap? counter with
  | none => s
  | some gap => (s.tally Stats.countGap).note (.packetsLost gap.last gap.received)

/-- Connects if that is due, and takes the snapshot of the packet. -/
def track (host : Host W) (counter : UInt16) (s : Station W) : Station W :=
  let connection := s.engine.tracker.connect
  let s := s.update fun engine => { engine with tracker := connection.2.record counter }
  if connection.1 then
    ((s.tally Stats.countConnect).note (.connected s.device)).announce host (some s.device)
  else s

/-- Takes in a packet that has been read, and answers it. -/
def accept (host : Host W) (frame : Bytes) (decoded : Frame.Decoded) (s : Station W) :
    Station W :=
  let counter := decoded.header.counter
  let s := (s.tally Stats.countReceived).note (.received counter)
  let s := (s.checkGap counter).track host counter
  let s := match decoded.samples frame with
    | some block => s.deliver host block
    | none => s
  (s.showHeader host decoded.header).send host

/-- Reads a frame of the protocol; one that cannot be read is counted and dropped. -/
def receive (host : Host W) (frame : Bytes) (s : Station W) : Station W :=
  match Frame.decode frame s.device.inbound with
  | .error cause => (s.tally Stats.countMalformed).note (.frameDropped cause)
  | .ok decoded => s.accept host frame decoded

/-- Arms the timer and installs the hook. If the hook cannot be installed the timer is cancelled
again, so a start that fails leaves nothing behind. -/
def start (host : Host W) (s : Station W) : Except SetupError Unit × Station W :=
  if s.engine.started then (.error .alreadyStarted, s)
  else if s.engine.settings.period = 0 then
    (.error .zeroPeriod, s.note (.zeroPeriod s.role))
  else
    match s.arm host s.engine.settings.period with
    | (.error cause, s) => (.error cause, s.note (.armFailed cause))
    | (.ok (), s) =>
      match (s.beginCadence host).install host with
      | (.error cause, s) => (.error cause, (s.note (.installFailed cause)).cancel host)
      | (.ok handle, s) =>
        (.ok (),
          (s.update fun engine => { engine with hook := some handle, started := true }).note
            (.started s.role s.engine.settings.period s.device))

def disconnect (host : Host W) (s : Station W) : Station W :=
  let edge := s.engine.tracker.disconnect
  let s := s.update fun engine => { engine with tracker := edge.2 }
  if edge.1 then (s.tally Stats.countDisconnect).announce host none else s

/-- Cancels the timer, ends the connection and gives back the hook. Nothing happens to an engine
that is not started. -/
def stop (host : Host W) (s : Station W) : Station W :=
  if s.engine.started then
    let s := ((s.cancel host).disconnect host).uninstall host
    (s.update fun engine => { engine with tracker := .initial, started := false }).note
      (.stopped s.role)
  else s

/-- Checks the connection on a timer firing. -/
def checkLiveness (host : Host W) (s : Station W) : Station W :=
  let settings := s.engine.settings
  let check := s.engine.tracker.onTick settings.period settings.timeout
  let s := s.update fun engine => { engine with tracker := check.2 }
  match check.1 with
  | .lost =>
    ((s.tally Stats.countDisconnect).note
      (.timedOut s.device (settings.timing.disconnectTimeout / 1000000))).announce host none
  | .idle | .alive => s

/-- A timer firing: checks the connection, sends a packet if the engine is a master, and rearms
the timer. -/
def fire (host : Host W) (s : Station W) : Station W :=
  if s.engine.started then
    let s := s.checkLiveness host
    let s := if s.role = .master then s.send host else s
    s.rearm host
  else s

/-- A timer firing that was armed under a generation; those of earlier ones are dropped. -/
def fireTagged (host : Host W) (generation : UInt64) (s : Station W) : Station W :=
  if generation = host.generation s.world then s.fire host
  else s.note (.staleFiring generation (host.generation s.world))

/-- An inbound frame. Only a started slave looks into it, since a master would otherwise take its
own broadcasts for packets. -/
def inbound (host : Host W) (frame : Bytes) (s : Station W) : Disposition × Station W :=
  if Frame.hasDiscriminator frame then
    (.handled,
      if s.engine.started ∧ s.role = .slave then s.receive host frame else s)
  else (.passThrough, s)

end Station

end AudioLink
