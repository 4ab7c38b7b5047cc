import AudioLink.Link.Call
import AudioLink.Proofs.Wire.Codec

/-!
# What the entries of an engine do

Every operation of a station is described by two things: the events it puts in front of the
history, and the engine it leaves behind. The descriptions say all that an operation can do, its
failures included, so that later proofs go through their cases and open no operation again.
-/

namespace AudioLink

/-- What asking the pipeline for a block adds to the history, the latest first, and the block that
goes into the packet. `asks` says whether there is anyone to ask. -/
inductive Asking (layout : Layout) : Bool → List Event → Bytes → Prop where
  | absent : Asking layout false [] (Frame.silence layout)
  | empty : Asking layout true [.demanded none] (Frame.silence layout)
  | fitting (block : Bytes) (h : block.length = layout.samplesLength) :
      Asking layout true [.demanded (some block)] block
  | unfit (block : Bytes) (h : block.length ≠ layout.samplesLength) :
      Asking layout true
        [.note (.wrongBlockSize block.length layout.samplesLength), .demanded (some block)]
        (Frame.silence layout)

/-- What sending one packet adds to the history, the latest first, and how it is counted. A frame
is always built, since the block has the size of the layout. -/
inductive Sending (layout : Layout) (asks : Bool) : List Event → (Stats → Stats) → Prop where
  | unready {asked : List Event} {block : Bytes} (cause : StreamError)
      (h : Asking layout asks asked block) :
      Sending layout asks
        (.note (.streamFailed cause) :: .process Header.zero (.error cause) :: asked)
        Stats.countSendFailure
  | refused {asked : List Event} {block : Bytes} (header : Header) (cause : TransmitError)
      (h : Asking layout asks asked block) :
      Sending layout asks
        (.note (.sendFailed cause) :: .transmit (Frame.build header block) (.error cause) ::
          .process Header.zero (.ok header) :: asked)
        Stats.countSendFailure
  | sent {asked : List Event} {block : Bytes} (header : Header)
      (h : Asking layout asks asked block) :
      Sending layout asks
        (.note (.sent header.counter) :: .transmit (Frame.build header block) (.ok ()) ::
          .process Header.zero (.ok header) :: asked)
        Stats.countSent

/-- What a start answers, what it adds to the history, the latest first, and the engine it leaves
behind. -/
inductive Starting (engine : Engine) : Except SetupError Unit → List Event → Engine → Prop where
  | already (h : engine.started = true) : Starting engine (.error .alreadyStarted) [] engine
  | zeroPeriod (h : engine.started = false) (hperiod : engine.settings.period = 0) :
      Starting engine (.error .zeroPeriod) [.note (.zeroPeriod engine.role)] engine
  | unarmed (h : engine.started = false) (hperiod : engine.settings.period ≠ 0)
      (cause : SetupError) :
      Starting engine (.error cause)
        [.note (.armFailed cause), .arm engine.settings.period (.error cause)] engine
  | unhooked (h : engine.started = false) (hperiod : engine.settings.period ≠ 0) (now : Nanos)
      (cause : SetupError) :
      Starting engine (.error cause)
        [.cancel, .note (.installFailed cause), .install Frame.hasDiscriminator (.error cause),
          .clock now, .arm engine.settings.period (.ok ())]
        { engine with cadence := (Cadence.ofPeriod engine.settings.period).start now }
  | begun (h : engine.started = false) (hperiod : engine.settings.period ≠ 0) (now : Nanos)
      (handle : Handle) :
      Starting engine (.ok ())
        [.note (.started engine.role engine.settings.period engine.device),
          .install Frame.hasDiscriminator (.ok handle), .clock now,
          .arm engine.settings.period (.ok ())]
        { engine with
          cadence := (Cadence.ofPeriod engine.settings.period).start now
          hook := some handle
          started := true }

namespace Host

variable {W : Type}

def announcement (host : Host W) (peer : Option Device) : List Event :=
  if host.connection.isSome then
    [match peer with
      | some device => .connected device
      | none => .disconnected]
  else []

def delivery (host : Host W) (block : Bytes) : List Event :=
  if host.deliver.isSome then [.delivered block] else []

end Host

namespace Station

variable {W : Type} (host : Host W)

@[simp] theorem engine_note (notice : Notice) (s : Station W) :
    (s.note notice).engine = s.engine := rfl

@[simp] theorem history_note (notice : Notice) (s : Station W) :
    (s.note notice).history = .note notice :: s.history := rfl

@[simp] theorem engine_update (change : Engine → Engine) (s : Station W) :
    (s.update change).engine = change s.engine := rfl

@[simp] theorem history_update (change : Engine → Engine) (s : Station W) :
    (s.update change).history = s.history := rfl

@[simp] theorem engine_tally (count : Stats → Stats) (s : Station W) :
    (s.tally count).engine = { s.engine with stats := count s.engine.stats } := rfl

@[simp] theorem history_tally (count : Stats → Stats) (s : Station W) :
    (s.tally count).history = s.history := rfl

@[simp] theorem engine_announce (peer : Option Device) (s : Station W) :
    (s.announce host peer).engine = s.engine := by
  unfold announce
  split <;> rfl

@[simp] theorem history_announce (peer : Option Device) (s : Station W) :
    (s.announce host peer).history = host.announcement peer ++ s.history := by
  unfold announce Host.announcement
  cases host.connection with
  | none => rfl
  | some callback => rfl

@[simp] theorem engine_deliver (block : Bytes) (s : Station W) :
    (s.deliver host block).engine = s.engine := by
  unfold deliver
  split <;> rfl

@[simp] theorem history_deliver (block : Bytes) (s : Station W) :
    (s.deliver host block).history = host.delivery block ++ s.history := by
  unfold deliver Host.delivery
  cases host.deliver with
  | none => rfl
  | some callback => rfl

@[simp] theorem engine_showHeader (header : Header) (s : Station W) :
    (s.showHeader host header).engine = s.engine := rfl

@[simp] theorem history_showHeader (header : Header) (s : Station W) :
    (s.showHeader host header).history = .received header :: s.history := rfl

@[simp] theorem engine_demand (s : Station W) : (s.demand host).2.engine = s.engine := by
  unfold demand
  split
  · rfl
  · dsimp only
    split
    · rfl
    · split <;> rfl

private theorem demand_asking (s : Station W) :
    ∃ asked block, Asking s.device.outbound host.demand.isSome asked block ∧
      (s.demand host).2.history = asked ++ s.history ∧
      ∀ header, Frame.encode header (s.demand host).1 s.device.outbound =
        .ok (Frame.build header block) := by
  unfold demand
  split
  · rename_i h
    rw [h]
    exact ⟨_, _, .absent, rfl, fun _ => rfl⟩
  · rename_i callback h
    rw [h]
    dsimp only
    split
    · rename_i hanswer
      rw [hanswer]
      exact ⟨_, _, .empty, rfl, fun _ => rfl⟩
    · rename_i block hanswer
      rw [hanswer]
      split
      · rename_i hlength
        exact ⟨_, _, .fitting block hlength, rfl, fun _ => if_pos hlength⟩
      · rename_i hlength
        exact ⟨_, _, .unfit block hlength, rfl, fun _ => rfl⟩

private theorem send_sending (s : Station W) :
    ∃ events count, Sending s.device.outbound host.demand.isSome events count ∧
      (s.send host).history = events ++ s.history ∧
      (s.send host).engine = { s.engine with stats := count s.engine.stats } := by
  obtain ⟨asked, block, hasking, hhistory, hencode⟩ := demand_asking host s
  have hengine := engine_demand host s
  unfold send nextHeader
  dsimp only
  cases hheader : (host.process Header.zero (s.demand host).2.world).1 with
  | error cause =>
    refine ⟨_, _, .unready cause hasking, ?_, ?_⟩
    · simp [hhistory]
    · simp
  | ok header =>
    have hdevice : (⟨(s.demand host).2.engine, (host.process Header.zero (s.demand host).2.world).2,
        .process Header.zero (.ok header) :: (s.demand host).2.history⟩ : Station W).device =
        s.device := by
      simp only [device, hengine]
    unfold sendFrame transmit
    dsimp only
    rw [hdevice, hencode]
    dsimp only
    cases hsent : (host.transmit (Frame.build header block)
        (host.process Header.zero (s.demand host).2.world).2).1 with
    | error cause =>
      refine ⟨_, _, .refused header cause hasking, ?_, ?_⟩
      · simp [hhistory]
      · simp
    | ok _ =>
      refine ⟨_, _, .sent header hasking, ?_, ?_⟩
      · simp [hhistory]
      · simp

/-- Everything that becomes of a packet before it is answered. -/
def intake (frame : Bytes) (decoded : Frame.Decoded) (s : Station W) : Station W :=
  let counter := decoded.header.counter
  let s := (s.tally Stats.countReceived).note (.received counter)
  let s := (s.checkGap counter).track host counter
  let s := match decoded.samples frame with
    | some block => s.deliver host block
    | none => s
  s.showHeader host decoded.header

theorem accept_eq_send (frame : Bytes) (decoded : Frame.Decoded) (s : Station W) :
    s.accept host frame decoded = (s.intake host frame decoded).send host := rfl

/-- The counters after a packet that found the tracker in the given state. -/
def arrivalStats (tracker : Tracker) (counter : UInt16) (stats : Stats) : Stats :=
  let stats := stats.countReceived
  let stats := if (tracker.gap? counter).isSome then stats.countGap else stats
  if tracker.connected then stats else stats.countConnect

/-- What a packet that found the tracker in the given state has added to the history, the latest
first, before its block is delivered. -/
def arrivalEvents (device : Device) (tracker : Tracker) (counter : UInt16) : List Event :=
  (if tracker.connected then []
    else host.announcement (some device) ++ [.note (.connected device)]) ++
  (match tracker.gap? counter with
    | some gap => [.note (.packetsLost gap.last gap.received)]
    | none => []) ++
  [.note (.received counter)]

theorem engine_intake (frame : Bytes) (decoded : Frame.Decoded) (s : Station W) :
    (s.intake host frame decoded).engine =
      { s.engine with
        tracker := s.engine.tracker.connect.2.record decoded.header.counter
        stats := arrivalStats s.engine.tracker decoded.header.counter s.engine.stats } := by
  unfold intake checkGap track arrivalStats
  cases hgap : s.engine.tracker.gap? decoded.header.counter <;>
    cases hconnected : s.engine.tracker.connected <;>
    cases decoded.samples frame <;>
    simp [Tracker.connect, hconnected, hgap]

private theorem history_intake (frame block : Bytes) (decoded : Frame.Decoded) (s : Station W)
    (h : decoded.samples frame = some block) :
    (s.intake host frame decoded).history =
      .received decoded.header :: (host.delivery block ++
        (arrivalEvents host s.device s.engine.tracker decoded.header.counter ++ s.history)) := by
  unfold intake checkGap track arrivalEvents
  cases hgap : s.engine.tracker.gap? decoded.header.counter <;>
    cases hconnected : s.engine.tracker.connected <;>
    simp [Tracker.connect, hconnected, hgap, h, device, Engine.device]

theorem start_of_started {s : Station W} (h : s.engine.started = true) :
    s.start host = (.error .alreadyStarted, s) := if_pos h

theorem start_of_zeroPeriod {s : Station W} (h : s.engine.started = false)
    (hperiod : s.engine.settings.period = 0) :
    s.start host = (.error .zeroPeriod, s.note (.zeroPeriod s.role)) := by
  simp [start, h, hperiod]

/-- A start whose arming fails changes nothing in the engine. -/
theorem start_of_unarmed {s : Station W} {cause : SetupError} {w : W}
    (h : s.engine.started = false) (hperiod : s.engine.settings.period ≠ 0)
    (harm : host.arm s.engine.settings.period s.world = (.error cause, w)) :
    s.start host = (.error cause,
      ⟨s.engine, w, .note (.armFailed cause) :: .arm s.engine.settings.period (.error cause) ::
        s.history⟩) := by
  unfold start arm
  rw [h, if_neg Bool.false_ne_true, if_neg hperiod, harm]
  rfl

/-- A start that arms the timer and gets no hook cancels the timer again. -/
theorem start_of_unhooked {s : Station W} {cause : SetupError} {w w' : W}
    (h : s.engine.started = false) (hperiod : s.engine.settings.period ≠ 0)
    (harm : host.arm s.engine.settings.period s.world = (.ok (), w))
    (hinstall : host.install Frame.hasDiscriminator w = (.error cause, w')) :
    s.start host = (.error cause,
      ⟨{ s.engine with
          cadence := (Cadence.ofPeriod s.engine.settings.period).start (host.now w) },
        host.cancel w',
        .cancel :: .note (.installFailed cause) ::
          .install Frame.hasDiscriminator (.error cause) :: .clock (host.now w) ::
          .arm s.engine.settings.period (.ok ()) :: s.history⟩) := by
  unfold start arm
  rw [h, if_neg Bool.false_ne_true, if_neg hperiod, harm]
  unfold install beginCadence
  dsimp only [record, update]
  rw [hinstall]
  rfl

theorem start_of_hooked {s : Station W} {handle : Handle} {w w' : W}
    (h : s.engine.started = false) (hperiod : s.engine.settings.period ≠ 0)
    (harm : host.arm s.engine.settings.period s.world = (.ok (), w))
    (hinstall : host.install Frame.hasDiscriminator w = (.ok handle, w')) :
    s.start host = (.ok (),
      ⟨{ s.engine with
          cadence := (Cadence.ofPeriod s.engine.settings.period).start (host.now w)
          hook := some handle
          started := true },
        w',
        .note (.started s.role s.engine.settings.period s.device) ::
          .install Frame.hasDiscriminator (.ok handle) :: .clock (host.now w) ::
          .arm s.engine.settings.period (.ok ()) :: s.history⟩) := by
  unfold start arm
  rw [h, if_neg Bool.false_ne_true, if_neg hperiod, harm]
  unfold install beginCadence
  dsimp only [record, update]
  rw [hinstall]
  rfl

theorem start_starting (s : Station W) :
    ∃ events, Starting s.engine (s.start host).1 events (s.start host).2.engine ∧
      (s.start host).2.history = events ++ s.history := by
  cases hstarted : s.engine.started with
  | true =>
    rw [start_of_started host hstarted]
    exact ⟨_, .already hstarted, rfl⟩
  | false =>
    by_cases hperiod : s.engine.settings.period = 0
    · rw [start_of_zeroPeriod host hstarted hperiod]
      exact ⟨_, .zeroPeriod hstarted hperiod, rfl⟩
    rcases harm : host.arm s.engine.settings.period s.world with ⟨cause | _, w⟩
    · rw [start_of_unarmed host hstarted hperiod harm]
      exact ⟨_, .unarmed hstarted hperiod cause, rfl⟩
    rcases hinstall : host.install Frame.hasDiscriminator w with ⟨cause | handle, w'⟩
    · rw [start_of_unhooked host hstarted hperiod harm hinstall]
      exact ⟨_, .unhooked hstarted hperiod _ cause, rfl⟩
    · rw [start_of_hooked host hstarted hperiod harm hinstall]
      exact ⟨_, .begun hstarted hperiod _ handle, rfl⟩

theorem stop_of_idle (s : Station W) (h : s.engine.started = false) : s.stop host = s := by
  simp [stop, h]

/-- The counters after the end of a connection, if there was one. -/
def lostStats (lost : Bool) (stats : Stats) : Stats :=
  if lost then stats.countDisconnect else stats

theorem engine_stop (s : Station W) (h : s.engine.started = true) :
    (s.stop host).engine =
      { s.engine with
        tracker := .initial
        hook := none
        started := false
        stats := lostStats s.engine.connected s.engine.stats } := by
  unfold stop disconnect uninstall lostStats
  rw [if_pos h]
  cases hconnected : s.engine.connected <;> cases hhook : s.engine.hook <;>
    simp_all [Tracker.disconnect, cancel, Engine.connected]

def partingEvents (s : Station W) : List Event :=
  if s.engine.connected then host.announcement none else []

theorem history_stop (s : Station W) (h : s.engine.started = true) :
    (s.stop host).history =
      .note (.stopped s.role) :: ((s.engine.hook.map Event.uninstall).toList ++
        (s.partingEvents host ++ .cancel :: s.history)) := by
  unfold stop disconnect uninstall partingEvents
  rw [if_pos h]
  cases hconnected : s.engine.connected <;> cases hhook : s.engine.hook <;>
    simp_all [Tracker.disconnect, cancel, Engine.connected, role, Engine.role]

def losing (s : Station W) : Bool :=
  (s.engine.tracker.onTick s.engine.settings.period s.engine.settings.timeout).1 == .lost

theorem engine_checkLiveness (s : Station W) :
    (s.checkLiveness host).engine =
      { s.engine with
        tracker :=
          (s.engine.tracker.onTick s.engine.settings.period s.engine.settings.timeout).2
        stats := lostStats s.losing s.engine.stats } := by
  unfold checkLiveness losing lostStats
  dsimp only
  split <;> rename_i hcheck <;> simp [hcheck]

/-- What the check of a firing adds to the history, the latest first. -/
def lossEvents (s : Station W) : List Event :=
  if s.losing then
    host.announcement none ++
      [.note (.timedOut s.device (s.engine.settings.timing.disconnectTimeout / 1000000))]
  else []

theorem history_checkLiveness (s : Station W) :
    (s.checkLiveness host).history = s.lossEvents host ++ s.history := by
  unfold checkLiveness lossEvents losing
  dsimp only
  split <;> rename_i hcheck <;> simp [hcheck, device, Engine.device]

theorem fire_of_idle (s : Station W) (h : s.engine.started = false) : s.fire host = s := by
  simp [fire, h]

/-- A firing of a started engine checks the connection, sends if the engine is a master, and rearms
the timer. -/
theorem fire_started (s : Station W) (h : s.engine.started = true) :
    ∃ sent count now,
      (s.role = .master ∧ Sending s.device.outbound host.demand.isSome sent count ∨
        s.role = .slave ∧ sent = [] ∧ count = id) ∧
      (s.fire host).history =
        .rearm (s.engine.cadence.delay now) :: .clock now ::
          (sent ++ (s.checkLiveness host).history) ∧
      (s.fire host).engine =
        { s.engine with
          tracker :=
            (s.engine.tracker.onTick s.engine.settings.period s.engine.settings.timeout).2
          cadence := s.engine.cadence.advance
          stats := count (lostStats s.losing s.engine.stats) } := by
  have hengine := engine_checkLiveness host s
  unfold fire
  rw [if_pos h]
  dsimp only
  have hrole : (s.checkLiveness host).role = s.role := by simp only [role, Engine.role, hengine]
  cases hmaster : s.role with
  | slave =>
    rw [hrole, hmaster, if_neg (by decide)]
    refine ⟨[], id, host.now (s.checkLiveness host).world, .inr ⟨rfl, rfl, rfl⟩, ?_, ?_⟩
    · simp [rearm, Cadence.fire, hengine]
    · simp [rearm, Cadence.fire, hengine]
  | master =>
    rw [hrole, hmaster, if_pos rfl]
    obtain ⟨events, count, hsending, hhistory, hsent⟩ := send_sending host (s.checkLiveness host)
    have hdevice : (s.checkLiveness host).device = s.device := by
      simp only [device, Engine.device, hengine]
    rw [hdevice] at hsending
    refine ⟨events, count, host.now ((s.checkLiveness host).send host).world,
      .inl ⟨rfl, hsending⟩, ?_, ?_⟩
    · simp [rearm, Cadence.fire, hsent, hengine, hhistory]
    · simp [rearm, Cadence.fire, hsent, hengine]

theorem fireTagged_of_current (generation : UInt64) (s : Station W)
    (h : generation = host.generation s.world) : s.fireTagged host generation = s.fire host :=
  if_pos h

theorem fireTagged_of_stale (generation : UInt64) (s : Station W)
    (h : generation ≠ host.generation s.world) :
    s.fireTagged host generation = s.note (.staleFiring generation (host.generation s.world)) :=
  if_neg h

theorem inbound_of_ignored (frame : Bytes) (s : Station W)
    (h : ¬(Frame.hasDiscriminator frame = true ∧ s.engine.started = true ∧ s.role = .slave)) :
    (s.inbound host frame).2 = s := by
  unfold inbound
  split
  · rename_i hframe
    exact if_neg fun hslave => h ⟨hframe, hslave⟩
  · rfl

theorem inbound_of_heard (frame : Bytes) (s : Station W)
    (hframe : Frame.hasDiscriminator frame = true) (hstarted : s.engine.started = true)
    (hrole : s.role = .slave) : (s.inbound host frame).2 = s.receive host frame := by
  unfold inbound
  rw [if_pos hframe]
  exact if_pos ⟨hstarted, hrole⟩

/-- Whether an entry leaves a station as it is. -/
def Ignores (s : Station W) : Call → Prop
  | .start => False
  | .stop | .fire | .fireTagged _ => s.engine.started = false
  | .inbound frame =>
    ¬(Frame.hasDiscriminator frame = true ∧ s.engine.started = true ∧ s.role = .slave)

/-- What an entry adds to the history, the latest first, and the engine it leaves behind. -/
inductive Effect (s : Station W) : Call → List Event → Engine → Prop where
  | ignored {call : Call} (h : s.Ignores call) : Effect s call [] s.engine
  | start {outcome : Except SetupError Unit} {events : List Event} {engine : Engine}
      (h : Starting s.engine outcome events engine) : Effect s .start events engine
  | stopped (h : s.engine.started = true) :
      Effect s .stop
        (.note (.stopped s.role) :: ((s.engine.hook.map Event.uninstall).toList ++
          (s.partingEvents host ++ [.cancel])))
        { s.engine with
          tracker := .initial
          hook := none
          started := false
          stats := lostStats s.engine.connected s.engine.stats }
  | fired {call : Call} {sent : List Event} {count : Stats → Stats} (now : Nanos)
      (h : s.engine.started = true)
      (hcall : call = .fire ∨ call = .fireTagged (host.generation s.world))
      (hsent : s.role = .master ∧ Sending s.device.outbound host.demand.isSome sent count ∨
        s.role = .slave ∧ sent = [] ∧ count = id) :
      Effect s call
        (.rearm (s.engine.cadence.delay now) :: .clock now :: (sent ++ s.lossEvents host))
        { s.engine with
          tracker :=
            (s.engine.tracker.onTick s.engine.settings.period s.engine.settings.timeout).2
          cadence := s.engine.cadence.advance
          stats := count (lostStats s.losing s.engine.stats) }
  | stale {generation : UInt64} (h : generation ≠ host.generation s.world) :
      Effect s (.fireTagged generation)
        [.note (.staleFiring generation (host.generation s.world))] s.engine
  | malformed {frame : Bytes} (cause : DecodeError) (h : s.engine.started = true)
      (hrole : s.role = .slave) (hframe : Frame.hasDiscriminator frame = true)
      (hdecode : Frame.decode frame s.device.inbound = .error cause) :
      Effect s (.inbound frame) [.note (.frameDropped cause)]
        { s.engine with stats := s.engine.stats.countMalformed }
  | packet {frame : Bytes} {header : Header} {block : Bytes} {sent : List Event}
      {count : Stats → Stats} (h : s.engine.started = true) (hrole : s.role = .slave)
      (hcontent : Frame.content? s.device.inbound frame = some (header, block))
      (hsent : Sending s.device.outbound host.demand.isSome sent count) :
      Effect s (.inbound frame)
        (sent ++ .received header :: (host.delivery block ++
          arrivalEvents host s.device s.engine.tracker header.counter))
        { s.engine with
          tracker := s.engine.tracker.connect.2.record header.counter
          stats := count (arrivalStats s.engine.tracker header.counter s.engine.stats) }

private theorem receive_effect (frame : Bytes) (s : Station W) (h : s.engine.started = true)
    (hrole : s.role = .slave) (hframe : Frame.hasDiscriminator frame = true) :
    ∃ events engine, s.Effect host (.inbound frame) events engine ∧
      (s.receive host frame).engine = engine ∧
      (s.receive host frame).history = events ++ s.history := by
  unfold receive
  cases hdecode : Frame.decode frame s.device.inbound with
  | error cause => exact ⟨_, _, .malformed cause h hrole hframe hdecode, rfl, rfl⟩
  | ok decoded =>
    obtain ⟨block, hblock, -⟩ := Frame.samples_of_decode hdecode
    have hcontent := Frame.content?_of_decode hdecode hframe hblock
    have hengine := engine_intake host frame decoded s
    have hintake := history_intake host frame block decoded s hblock
    obtain ⟨sent, count, hsent, hhistory, hsend⟩ :=
      send_sending host (s.intake host frame decoded)
    have hdevice : (s.intake host frame decoded).device = s.device := by
      simp only [device, Engine.device, hengine]
    rw [hdevice] at hsent
    dsimp only
    rw [accept_eq_send, hsend, hengine, hhistory, hintake]
    exact ⟨_, _, .packet h hrole hcontent hsent, rfl, by simp⟩

/-- Every entry has one of the effects above. -/
theorem perform_effect (call : Call) (s : Station W) :
    ∃ events engine, s.Effect host call events engine ∧
      (s.perform host call).2.engine = engine ∧
      (s.perform host call).2.history = events ++ s.history := by
  have hfire (call : Call) (hcall : call = .fire ∨ call = .fireTagged (host.generation s.world))
      (h : s.engine.started = true) :
      ∃ events engine, s.Effect host call events engine ∧ (s.fire host).engine = engine ∧
        (s.fire host).history = events ++ s.history := by
    obtain ⟨sent, count, now, hsent, hhistory, hengine⟩ := fire_started host s h
    rw [hhistory, hengine, history_checkLiveness]
    exact ⟨_, _, .fired now h hcall hsent, rfl, by simp⟩
  cases call with
  | start =>
    obtain ⟨events, hstart, hhistory⟩ := start_starting host s
    exact ⟨events, _, .start hstart, rfl, hhistory⟩
  | stop =>
    cases h : s.engine.started with
    | false =>
      have hstop : (s.perform host .stop).2 = s := stop_of_idle host s h
      rw [hstop]
      exact ⟨[], _, .ignored h, rfl, rfl⟩
    | true =>
      have hengine : (s.perform host .stop).2.engine = _ := engine_stop host s h
      have hhistory : (s.perform host .stop).2.history = _ := history_stop host s h
      rw [hengine, hhistory]
      exact ⟨_, _, .stopped h, rfl, by simp⟩
  | fire =>
    cases h : s.engine.started with
    | false =>
      have hidle : (s.perform host .fire).2 = s := fire_of_idle host s h
      rw [hidle]
      exact ⟨[], _, .ignored h, rfl, rfl⟩
    | true => exact hfire .fire (.inl rfl) h
  | fireTagged generation =>
    have hperform : (s.perform host (.fireTagged generation)).2 = s.fireTagged host generation :=
      rfl
    rw [hperform]
    by_cases hcurrent : generation = host.generation s.world
    · rw [fireTagged_of_current host generation s hcurrent]
      cases h : s.engine.started with
      | false =>
        rw [fire_of_idle host s h]
        exact ⟨[], _, .ignored h, rfl, rfl⟩
      | true => exact hfire _ (.inr (by rw [hcurrent])) h
    · rw [fireTagged_of_stale host generation s hcurrent]
      exact ⟨_, _, .stale hcurrent, rfl, rfl⟩
  | inbound frame =>
    have hperform : (s.perform host (.inbound frame)).2 = (s.inbound host frame).2 := rfl
    rw [hperform]
    by_cases h : Frame.hasDiscriminator frame = true ∧ s.engine.started = true ∧ s.role = .slave
    · obtain ⟨hframe, hstarted, hrole⟩ := h
      rw [inbound_of_heard host frame s hframe hstarted hrole]
      exact receive_effect host frame s hstarted hrole hframe
    · rw [inbound_of_ignored host frame s h]
      exact ⟨[], _, .ignored h, rfl, rfl⟩

/-- No entry changes the settings. -/
theorem settings_perform (call : Call) (s : Station W) :
    (s.perform host call).2.engine.settings = s.engine.settings := by
  obtain ⟨events, engine, heffect, hengine, -⟩ := perform_effect host call s
  rw [hengine]
  cases heffect with
  | start h => cases h <;> rfl
  | _ => rfl

theorem role_perform (call : Call) (s : Station W) : (s.perform host call).2.role = s.role :=
  congrArg Settings.role (settings_perform host call s)

theorem device_perform (call : Call) (s : Station W) :
    (s.perform host call).2.device = s.device :=
  congrArg Settings.device (settings_perform host call s)

end Station

/-- Whether an event only tells something, about the peer or in a remark. -/
def Event.isNews : Event → Bool
  | connected _ | disconnected | note _ => true
  | _ => false

private theorem Host.news_announcement {W : Type} (host : Host W) (peer : Option Device) :
    ∀ event ∈ host.announcement peer, event.isNews = true := by
  intro event hevent
  unfold announcement at hevent
  split at hevent
  · cases peer <;> simp_all [Event.isNews]
  · simp at hevent

namespace Station

variable {W : Type} (host : Host W)

theorem news_arrivalEvents (device : Device) (tracker : Tracker) (counter : UInt16) :
    ∀ event ∈ arrivalEvents host device tracker counter, event.isNews = true := by
  unfold arrivalEvents
  rw [List.forall_mem_append, List.forall_mem_append]
  refine ⟨⟨?_, ?_⟩, by simp [Event.isNews]⟩
  · split
    · simp
    · rw [List.forall_mem_append]
      exact ⟨host.news_announcement (some device), by simp [Event.isNews]⟩
  · split <;> simp [Event.isNews]

theorem news_lossEvents (s : Station W) :
    ∀ event ∈ s.lossEvents host, event.isNews = true := by
  unfold lossEvents
  split
  · rw [List.forall_mem_append]
    exact ⟨host.news_announcement none, by simp [Event.isNews]⟩
  · simp

theorem news_partingEvents (s : Station W) :
    ∀ event ∈ s.partingEvents host, event.isNews = true := by
  unfold partingEvents
  split
  · exact host.news_announcement none
  · simp

end Station

end AudioLink
