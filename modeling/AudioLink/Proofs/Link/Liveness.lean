import AudioLink.Proofs.Link.Run

/-!
# The liveness timeout

While a slave is connected, the distance between its tick and its last snapshot is exactly the
number of firings since the last packet, past the wrap of the counters too, since the connection
ends long before the distance could wrap. With period `P` and timeout `T` it ends at the firing
number `T / P + 2` after the last packet, whatever else happens in between.
-/

namespace AudioLink

def Call.isPacket (layout : Layout) : Call → Bool
  | .inbound frame => (Frame.content? layout frame).isSome
  | _ => false

def Event.isDisconnected : Event → Bool
  | .disconnected => true
  | _ => false

namespace Settings

/-- The number of the firing after the last packet at which the connection ends. -/
def patience (settings : Settings) : Nat :=
  settings.timeout.toNat / settings.period.toNat + 2

end Settings

namespace Tracker

/-- The firings since the last snapshot. -/
def distance (tracker : Tracker) : Nat := (tracker.tick - tracker.lastSeen).toNat

private theorem timeout_lt_idle_iff (tracker : Tracker) (period timeout : Nanos)
    (hperiod : period ≠ 0) (htimeout : timeout.toNat < Nanos.greatest) :
    timeout < tracker.idle period ↔ timeout.toNat / period.toNat < tracker.distance := by
  have hpositive : 0 < period.toNat := by
    apply Nat.pos_of_ne_zero
    intro h
    exact hperiod (UInt64.toNat.inj h)
  rw [UInt64.lt_iff_toNat_lt, idle, Nanos.toNat_saturate, Nat.div_lt_iff_lt_mul hpositive]
  unfold distance
  omega

private theorem onTick_of_idle (tracker : Tracker) (period timeout : Nanos)
    (h : tracker.connected = false) : tracker.onTick period timeout = (.idle, tracker) := by
  simp [onTick, h]

private theorem onTick_of_alive (tracker : Tracker) (period timeout : Nanos)
    (h : tracker.connected = true) (halive : ¬timeout < tracker.idle period) :
    tracker.onTick period timeout = (.alive, { tracker with tick := tracker.tick + 1 }) := by
  simp [onTick, h, halive]

private theorem onTick_of_lost (tracker : Tracker) (period timeout : Nanos)
    (h : tracker.connected = true) (hlost : timeout < tracker.idle period) :
    tracker.onTick period timeout = (.lost, { tracker with connected := false }) := by
  simp [onTick, h, hlost]

private theorem distance_tick (tracker : Tracker) (h : tracker.distance < Nanos.greatest) :
    ({ tracker with tick := tracker.tick + 1 } : Tracker).distance = tracker.distance + 1 := by
  have htick := tracker.tick.toNat_lt
  have hseen := tracker.lastSeen.toNat_lt
  have hone : (1 : UInt64).toNat = 1 := rfl
  unfold distance Nanos.greatest at *
  simp only [UInt64.toNat_sub, UInt64.toNat_add, hone] at h ⊢
  omega

private theorem distance_record (tracker : Tracker) (counter : UInt16) :
    (tracker.record counter).distance = 0 := by
  have hself : tracker.tick - tracker.tick = 0 := UInt64.sub_self _
  unfold distance record
  rw [hself]
  rfl

end Tracker

namespace Station

variable {W : Type} (host : Host W)

/-- Whether an entry is a firing that the engine accepts. -/
def fires (s : Station W) (call : Call) : Bool :=
  s.engine.started && match call with
    | .fire => true
    | .fireTagged generation => generation == host.generation s.world
    | _ => false

/-- Whether an entry is a packet that the engine takes in. -/
def hears (s : Station W) (call : Call) : Bool :=
  s.engine.started && call.isPacket s.device.inbound

/-- The accepted firings of a run. -/
def firings : List (Turn W) → Station W → Nat
  | [], _ => 0
  | t :: turns, s =>
    (if (s.meanwhile t.before).fires host t.call then 1 else 0) + firings turns (s.turn host t)

theorem firings_eq_occurrences (turns : List (Turn W)) (s : Station W) :
    firings host turns s = occurrences host (fires host) turns s := by
  induction turns generalizing s with
  | nil => rfl
  | cons t turns ih => rw [firings, occurrences, ih]

/-- The firings since the last packet after one more entry, given those before it. -/
def countSilence (call : Call) (n : Nat) (s : Station W) : Nat :=
  if s.hears call then 0 else if s.fires host call then n + 1 else n

/-- The accepted firings since the last packet of a run, if there were `n` of them before it. -/
def silence : List (Turn W) → Nat → Station W → Nat
  | [], n, _ => n
  | t :: turns, n, s =>
    silence turns ((s.meanwhile t.before).countSilence host t.call n) (s.turn host t)

def farewells (s : Station W) : Nat := s.history.countP Event.isDisconnected

/-- What an entry means for the watch over the peer. -/
inductive Watch (s : Station W) (call : Call) (s' : Station W) : Prop where
  | quiet (hhears : s.hears call = false) (hfires : s.fires host call = false)
      (htracker : s'.engine.tracker = s.engine.tracker)
      (hstarted : s.engine.started = true → s'.engine.started = true)
      (hdisconnects : s'.engine.stats.disconnects = s.engine.stats.disconnects)
      (hfarewells : s'.farewells = s.farewells)
  | ticked (hhears : s.hears call = false) (hfires : s.fires host call = true)
      (hstarted : s'.engine.started = true)
      (htracker : s'.engine.tracker =
        (s.engine.tracker.onTick s.engine.settings.period s.engine.settings.timeout).2)
      (hdisconnects : s'.engine.stats.disconnects =
        s.engine.stats.disconnects + if s.losing then 1 else 0)
      (hfarewells : s'.farewells =
        s.farewells + if s.losing && host.connection.isSome then 1 else 0)
  | heard (hhears : s.hears call = true) (hstarted : s'.engine.started = true)
      (counter : UInt16)
      (htracker : s'.engine.tracker = s.engine.tracker.connect.2.record counter)
  | stopped (hcall : call = .stop) (htracker : s'.engine.tracker = .initial)

private theorem farewells_append {s s' : Station W} {events : List Event}
    (h : s'.history = events ++ s.history) :
    s'.farewells = s.farewells + events.countP Event.isDisconnected := by
  unfold farewells
  rw [h, List.countP_append, Nat.add_comm]

private theorem countP_lossEvents (s : Station W) :
    (s.lossEvents host).countP Event.isDisconnected =
      if s.losing && host.connection.isSome then 1 else 0 := by
  unfold lossEvents Host.announcement
  cases s.losing <;> cases host.connection <;> rfl

/-- Only the firing that finds the peer gone changes whether one is connected. -/
theorem connected_onTick (s : Station W) :
    (s.losing = true → s.engine.connected = true) ∧
      (s.engine.tracker.onTick s.engine.settings.period s.engine.settings.timeout).2.connected =
        (s.engine.connected && !s.losing) := by
  unfold losing Engine.connected
  cases hconnected : s.engine.tracker.connected with
  | false => simp [Tracker.onTick_of_idle _ _ _ hconnected, hconnected]
  | true =>
    by_cases hlost :
        s.engine.settings.timeout < s.engine.tracker.idle s.engine.settings.period
    · simp [Tracker.onTick_of_lost _ _ _ hconnected hlost]
    · simp [Tracker.onTick_of_alive _ _ _ hconnected hlost, hconnected]

private theorem perform_watch (call : Call) (s : Station W) (hrole : s.role = .slave) :
    Watch host s call (s.perform host call).2 := by
  obtain ⟨events, engine, heffect, hengine, hhistory⟩ := perform_effect host call s
  have hfarewells := farewells_append hhistory
  have hquiet (hhears : s.hears call = false) (hfires : s.fires host call = false)
      (htracker : engine.tracker = s.engine.tracker)
      (hstarted : s.engine.started = true → engine.started = true)
      (hdisconnects : engine.stats.disconnects = s.engine.stats.disconnects)
      (hevents : events.countP Event.isDisconnected = 0) :
      Watch host s call (s.perform host call).2 := by
    rw [hevents] at hfarewells
    exact .quiet hhears hfires (hengine ▸ htracker) (hengine ▸ hstarted) (hengine ▸ hdisconnects)
      hfarewells
  cases heffect with
  | ignored h =>
    have hidle (hstarted : s.engine.started = false) :
        s.hears call = false ∧ s.fires host call = false := by
      simp [hears, fires, hstarted]
    cases call with
    | start => exact absurd h (fun h => h)
    | stop => exact hquiet (hidle h).1 (hidle h).2 rfl id rfl rfl
    | fire => exact hquiet (hidle h).1 (hidle h).2 rfl id rfl rfl
    | fireTagged generation => exact hquiet (hidle h).1 (hidle h).2 rfl id rfl rfl
    | inbound frame =>
      have hhears : s.hears (.inbound frame) = false := by
        unfold hears Call.isPacket Frame.content?
        cases hframe : Frame.hasDiscriminator frame with
        | false => simp [hframe]
        | true =>
          cases hstarted : s.engine.started with
          | false => rfl
          | true => exact absurd ⟨hframe, hstarted, hrole⟩ h
      exact hquiet hhears (by simp [fires]) rfl id rfl rfl
  | stale h => exact hquiet (by simp [hears, Call.isPacket]) (by simp [fires, h]) rfl id rfl rfl
  | @malformed frame cause h _ hframe hdecode =>
    have hhears : s.hears (.inbound frame) = false := by
      simp [hears, Call.isPacket, Frame.content?, hdecode]
    exact hquiet hhears (by simp [fires]) rfl id rfl rfl
  | packet h _ hcontent hsent =>
    apply Watch.heard
    · simp [hears, h, Call.isPacket, hcontent]
    · rw [hengine]
      exact h
    · rw [hengine]
  | start h =>
    have hhears : s.hears .start = false := by simp [hears, Call.isPacket]
    have hfires : s.fires host .start = false := by simp [fires]
    cases h with
    | already h => exact hquiet hhears hfires rfl id rfl rfl
    | zeroPeriod h hperiod => exact hquiet hhears hfires rfl id rfl rfl
    | unarmed h hperiod cause => exact hquiet hhears hfires rfl id rfl rfl
    | unhooked h hperiod now cause => exact hquiet hhears hfires rfl id rfl rfl
    | begun h hperiod now handle => exact hquiet hhears hfires rfl (fun _ => rfl) rfl rfl
  | stopped h =>
    apply Watch.stopped rfl
    rw [hengine]
  | @fired _ sent count now h hcall hsent =>
    obtain ⟨hmaster, -⟩ | ⟨-, rfl, rfl⟩ := hsent
    · rw [hrole] at hmaster
      cases hmaster
    · apply Watch.ticked
      · rcases hcall with rfl | rfl <;> simp [hears, Call.isPacket]
      · rcases hcall with rfl | rfl <;> simp [fires, h]
      · rw [hengine]
        exact h
      · rw [hengine]
      · rw [hengine]
        unfold lostStats
        cases s.losing <;> rfl
      · rw [hfarewells]
        have hcount := countP_lossEvents host s
        simp [Event.isDisconnected, hcount]

private theorem patience_le_greatest (settings : Settings)
    (htimeout : settings.timeout.toNat < Nanos.greatest) :
    settings.patience ≤ Nanos.greatest + 1 := by
  have hdiv := Nat.div_le_self settings.timeout.toNat settings.period.toNat
  unfold Settings.patience
  omega

/-- The state of a tracker that has seen `k` firings since its last packet. -/
structure Silent (settings : Settings) (k : Nat) (tracker : Tracker) : Prop where
  connected : tracker.connected = decide (k < settings.patience)
  distance : k < settings.patience → tracker.distance = k

private theorem silent_onTick {settings : Settings} {k : Nat} {tracker : Tracker}
    (hperiod : settings.period ≠ 0) (htimeout : settings.timeout.toNat < Nanos.greatest)
    (h : Silent settings k tracker) :
    Silent settings (k + 1) (tracker.onTick settings.period settings.timeout).2 ∧
      ((tracker.onTick settings.period settings.timeout).1 == .lost) =
        decide (k + 1 = settings.patience) := by
  obtain ⟨hconnected, hdistance⟩ := h
  have hbound := patience_le_greatest settings htimeout
  by_cases hk : k < settings.patience
  · rw [decide_eq_true hk] at hconnected
    have hiff := tracker.timeout_lt_idle_iff settings.period settings.timeout hperiod htimeout
    rw [hdistance hk] at hiff
    by_cases hlost : settings.timeout < tracker.idle settings.period
    · have hlast : k + 1 = settings.patience := by
        have hfar := hiff.mp hlost
        unfold Settings.patience at *
        omega
      rw [tracker.onTick_of_lost _ _ hconnected hlost]
      refine ⟨⟨?_, fun h => by omega⟩, (decide_eq_true hlast).symm⟩
      rw [decide_eq_false (by omega)]
    · have hmore : k + 1 < settings.patience := by
        have hnear : ¬settings.timeout.toNat / settings.period.toNat < k :=
          fun hfar => hlost (hiff.mpr hfar)
        unfold Settings.patience at *
        omega
      rw [tracker.onTick_of_alive _ _ hconnected hlost]
      refine ⟨⟨?_, fun _ => ?_⟩, ?_⟩
      · rw [decide_eq_true hmore]
        exact hconnected
      · rw [Tracker.distance_tick _ (by rw [hdistance hk]; omega), hdistance hk]
      · rw [decide_eq_false (by omega)]
        rfl
  · rw [decide_eq_false hk] at hconnected
    rw [tracker.onTick_of_idle _ _ hconnected]
    refine ⟨⟨?_, fun h => by omega⟩, ?_⟩
    · rw [decide_eq_false (by omega)]
      exact hconnected
    · rw [decide_eq_false (by omega)]
      rfl

/-- A connected engine is started, its tick is as far from the snapshot as there have been firings,
and these are fewer than end the connection. -/
structure Watching (settings : Settings) (n : Nat) (s : Station W) : Prop where
  told : s.engine.settings = settings
  started : s.engine.connected = true → s.engine.started = true
  distance : s.engine.connected = true → s.engine.tracker.distance = n
  patient : s.engine.connected = true → n < settings.patience

private theorem watching_fresh (settings : Settings) (world : W) :
    Watching settings 0 (fresh settings world) := by
  have hconnected : (fresh settings world).engine.connected = false := rfl
  constructor
  · rfl
  all_goals
    intro h
    rw [hconnected] at h
    cases h

private theorem watching_perform {settings : Settings} {n : Nat} (call : Call) (s : Station W)
    (hrole : settings.role = .slave) (hperiod : settings.period ≠ 0)
    (htimeout : settings.timeout.toNat < Nanos.greatest) (h : Watching settings n s) :
    Watching settings (s.countSilence host call n) (s.perform host call).2 := by
  obtain ⟨htold, hstarted, hdistance, hpatient⟩ := h
  have hsettings : (s.perform host call).2.engine.settings = settings :=
    (settings_perform host call s).trans htold
  have hslave : s.role = .slave := by rw [role, Engine.role, htold, hrole]
  cases perform_watch host call s hslave with
  | quiet hhears hfires htracker hkeeps _ _ =>
    have hconnected : (s.perform host call).2.engine.connected = s.engine.connected :=
      congrArg Tracker.connected htracker
    have hcount : s.countSilence host call n = n := by simp [countSilence, hhears, hfires]
    rw [hcount]
    refine ⟨hsettings, ?_, ?_, ?_⟩
    · intro hc
      exact hkeeps (hstarted (hconnected ▸ hc))
    · intro hc
      rw [htracker]
      exact hdistance (hconnected ▸ hc)
    · intro hc
      exact hpatient (hconnected ▸ hc)
  | ticked hhears hfires hs htracker _ _ =>
    have hcount : s.countSilence host call n = n + 1 := by simp [countSilence, hhears, hfires]
    rw [hcount]
    rw [htold] at htracker
    cases hc : s.engine.tracker.connected with
    | false =>
      rw [Tracker.onTick_of_idle _ _ _ hc] at htracker
      have hoff : (s.perform host call).2.engine.connected = false := by
        rw [Engine.connected, htracker, hc]
      exact ⟨hsettings, fun _ => hs, fun h => by simp [hoff] at h, fun h => by simp [hoff] at h⟩
    | true =>
      have hsilent : Silent settings n s.engine.tracker :=
        ⟨by rw [hc, decide_eq_true (hpatient hc)], fun _ => hdistance hc⟩
      obtain ⟨⟨hnext, hfar⟩, -⟩ := silent_onTick hperiod htimeout hsilent
      rw [← htracker] at hnext hfar
      have hiff : (s.perform host call).2.engine.connected = true → n + 1 < settings.patience := by
        intro h
        exact of_decide_eq_true (hnext.symm.trans h)
      exact ⟨hsettings, fun _ => hs, fun h => hfar (hiff h), hiff⟩
  | heard hhears hs counter htracker =>
    have hcount : s.countSilence host call n = 0 := by simp [countSilence, hhears]
    rw [hcount]
    refine ⟨hsettings, fun _ => hs, fun _ => ?_, fun _ => ?_⟩
    · rw [htracker, Tracker.distance_record]
    · exact Nat.succ_pos _
  | stopped hcall htracker =>
    have hoff : (s.perform host call).2.engine.connected = false := by
      rw [Engine.connected, htracker]
      rfl
    refine ⟨hsettings, ?_, ?_, ?_⟩
    all_goals
      intro h
      rw [hoff] at h
      cases h

theorem watching_run {settings : Settings} (hrole : settings.role = .slave)
    (hperiod : settings.period ≠ 0) (htimeout : settings.timeout.toNat < Nanos.greatest)
    (turns : List (Turn W)) (n : Nat) (s : Station W) (h : Watching settings n s) :
    Watching settings (silence host turns n s) (s.run host turns) := by
  induction turns generalizing n s with
  | nil => exact h
  | cons t turns ih =>
    apply ih
    exact watching_perform host t.call (s.meanwhile t.before) hrole hperiod htimeout
      ⟨h.told, h.started, h.distance, h.patient⟩

/-- What has come of a connection after `k` firings without a packet, if before it `ends` ends of
connections had been counted and `bye` of them announced. -/
structure Fading (settings : Settings) (ends bye k : Nat) (s : Station W) : Prop where
  told : s.engine.settings = settings
  started : s.engine.started = true
  silent : Silent settings k s.engine.tracker
  disconnects : s.engine.stats.disconnects = ends + if k < settings.patience then 0 else 1
  farewells : s.farewells =
    bye + if k < settings.patience ∨ host.connection.isNone then 0 else 1

private theorem ended_succ (k limit : Nat) :
    (if k < limit then 0 else 1) + (if k + 1 = limit then 1 else 0) =
      if k + 1 < limit then 0 else 1 := by
  by_cases hk : k < limit
  · by_cases hlast : k + 1 = limit
    · simp [hk, hlast]
    · have hmore : k + 1 < limit := by omega
      simp [hk, hlast, hmore]
  · have hover : ¬k + 1 < limit ∧ k + 1 ≠ limit := by omega
    simp [hk, hover]

private theorem fading_perform {settings : Settings} {ends bye k : Nat} (call : Call)
    (s : Station W) (hrole : settings.role = .slave) (hperiod : settings.period ≠ 0)
    (htimeout : settings.timeout.toNat < Nanos.greatest) (hstop : call ≠ .stop)
    (hpacket : call.isPacket settings.device.inbound = false)
    (h : Fading host settings ends bye k s) :
    Fading host settings ends bye (k + if s.fires host call then 1 else 0)
      (s.perform host call).2 := by
  obtain ⟨htold, hstarted, hsilent, hdisconnects, hfarewells⟩ := h
  have hsettings : (s.perform host call).2.engine.settings = settings :=
    (settings_perform host call s).trans htold
  have hslave : s.role = .slave := by rw [role, Engine.role, htold, hrole]
  cases perform_watch host call s hslave with
  | quiet _ hfires htracker hkeeps hends hbye =>
    rw [hfires]
    exact ⟨hsettings, hkeeps hstarted, htracker ▸ hsilent, hends.trans hdisconnects,
      hbye.trans hfarewells⟩
  | ticked _ hfires hs htracker hends hbye =>
    rw [hfires, if_pos rfl]
    obtain ⟨hnext, hlost⟩ := silent_onTick hperiod htimeout hsilent
    have hlosing : s.losing = decide (k + 1 = settings.patience) := by
      rw [losing, htold, hlost]
    rw [htold] at htracker
    have hended := ended_succ k settings.patience
    refine ⟨hsettings, hs, htracker ▸ hnext, ?_, ?_⟩
    · rw [hends, hdisconnects, hlosing, ← hended]
      simp only [decide_eq_true_eq, Nat.add_assoc]
    · rw [hbye, hfarewells, hlosing]
      cases host.connection with
      | none => simp
      | some callback =>
        simp only [Option.isNone_some, Option.isSome_some, Bool.and_true, decide_eq_true_eq,
          Bool.false_eq_true, or_false]
        rw [Nat.add_assoc, hended]
  | heard hhears _ _ _ =>
    rw [hears, device, Engine.device, htold, hpacket, Bool.and_false] at hhears
    cases hhears
  | stopped hcall _ => exact absurd hcall hstop

theorem fading_run {settings : Settings} {ends bye : Nat} (hrole : settings.role = .slave)
    (hperiod : settings.period ≠ 0) (htimeout : settings.timeout.toNat < Nanos.greatest)
    (turns : List (Turn W)) (k : Nat) (s : Station W)
    (hturns : ∀ t ∈ turns, t.call ≠ .stop ∧ t.call.isPacket settings.device.inbound = false)
    (h : Fading host settings ends bye k s) :
    Fading host settings ends bye (k + firings host turns s) (s.run host turns) := by
  induction turns generalizing k s with
  | nil => exact h
  | cons t turns ih =>
    obtain ⟨hstop, hpacket⟩ := hturns t (by simp)
    have hnext := fading_perform host t.call (s.meanwhile t.before) hrole hperiod htimeout hstop
      hpacket ⟨h.told, h.started, h.silent, h.disconnects, h.farewells⟩
    rw [firings, ← Nat.add_assoc]
    exact ih _ _ (fun t ht => hturns t (List.mem_cons_of_mem _ ht)) hnext

/-- While a slave is connected, the wrapping distance of its tick from the last snapshot is the
number of accepted firings since the last packet. Without another packet and without a stop, the
connection ends, and its end is counted and announced, at the firing number `T / P + 2` after that
packet: not before it and not again after it, whatever else happens. -/
theorem connection_ends_at_patience (settings : Settings) (world : W) (turns : List (Turn W))
    (hrole : settings.role = .slave) (hperiod : settings.period ≠ 0)
    (htimeout : settings.timeout.toNat < Nanos.greatest) :
    let s := (fresh settings world).run host turns
    let silent := silence host turns 0 (fresh settings world)
    s.engine.connected = true →
      (s.engine.tracker.tick - s.engine.tracker.lastSeen).toNat = silent ∧
      silent ≤ settings.timeout.toNat / settings.period.toNat + 1 ∧
      ∀ more : List (Turn W),
        (∀ t ∈ more, t.call ≠ .stop ∧ t.call.isPacket settings.device.inbound = false) →
        let s' := s.run host more
        let heldOut := silent + firings host more s <
          settings.timeout.toNat / settings.period.toNat + 2
        (s'.engine.connected = true ↔ heldOut) ∧
        s'.engine.stats.disconnects = s.engine.stats.disconnects + (if heldOut then 0 else 1) ∧
        s'.farewells =
          s.farewells + (if heldOut ∨ host.connection.isNone then 0 else 1) := by
  intro s silent hconnected
  have hwatching : Watching settings silent s :=
    watching_run host hrole hperiod htimeout turns 0 _ (watching_fresh settings world)
  have hpatient := hwatching.patient hconnected
  unfold Settings.patience at hpatient
  refine ⟨hwatching.distance hconnected, by omega, ?_⟩
  intro more hmore s' heldOut
  have hstart : Fading host settings s.engine.stats.disconnects s.farewells silent s := by
    have hp := hwatching.patient hconnected
    refine ⟨hwatching.told, hwatching.started hconnected,
      ⟨?_, fun _ => hwatching.distance hconnected⟩, ?_, ?_⟩
    · rw [decide_eq_true hp]
      exact hconnected
    · rw [if_pos hp, Nat.add_zero]
    · rw [if_pos (.inl hp), Nat.add_zero]
  have hend := fading_run host hrole hperiod htimeout more silent s hmore hstart
  refine ⟨?_, hend.disconnects, hend.farewells⟩
  have hc : s'.engine.connected = decide heldOut := hend.silent.connected
  rw [hc, decide_eq_true_iff]

/-- One packet and one firing after it. -/
def shortPast : List (Turn ScriptedHost) :=
  [⟨id, .start⟩, ⟨id, .inbound (silentFrame 9)⟩, ⟨id, .fire⟩]

def shortFuture : List (Turn ScriptedHost) :=
  [⟨id, .fireTagged 1⟩, ⟨id, .inbound [0, 1]⟩, ⟨id, .start⟩, ⟨id, .fireTagged 7⟩,
    ⟨fun world => { world with transmitFault := some .linkDown }, .fire⟩, ⟨id, .fire⟩]

theorem connection_ends_at_fourth_firing :
    let s := (fresh shortSettings shortWorld).run shortHost shortPast
    let s' := s.run shortHost shortFuture
    shortSettings.role = .slave ∧ shortSettings.period ≠ 0 ∧
      shortSettings.timeout.toNat < Nanos.greatest ∧ s.engine.connected = true ∧
      (∀ t ∈ shortFuture,
        t.call ≠ .stop ∧ t.call.isPacket shortSettings.device.inbound = false) ∧
      silence shortHost shortPast 0 (fresh shortSettings shortWorld) +
        firings shortHost shortFuture s = 4 ∧
      (s.engine.tracker.tick - s.engine.tracker.lastSeen).toNat = 1 ∧
      s'.engine.connected = false ∧ s'.farewells = s.farewells + 1 := by
  intro s s'
  have hconnected : s.engine.connected = true := by decide +kernel
  have hfuture : ∀ t ∈ shortFuture,
      t.call ≠ .stop ∧ t.call.isPacket shortSettings.device.inbound = false := by decide +kernel
  have hcount : silence shortHost shortPast 0 (fresh shortSettings shortWorld) +
      firings shortHost shortFuture s = 4 := by decide +kernel
  obtain ⟨hdistance, -, hmore⟩ := connection_ends_at_patience shortHost shortSettings shortWorld
    shortPast (by decide) (by decide) (by decide) hconnected
  obtain ⟨hend, -, hbye⟩ := hmore shortFuture hfuture
  have hlimit : ¬silence shortHost shortPast 0 (fresh shortSettings shortWorld) +
      firings shortHost shortFuture s <
        shortSettings.timeout.toNat / shortSettings.period.toNat + 2 := by
    rw [hcount]
    decide
  have hsilence : silence shortHost shortPast 0 (fresh shortSettings shortWorld) = 1 := by
    decide +kernel
  refine ⟨by decide, by decide, by decide, hconnected, hfuture, hcount, ?_, ?_, ?_⟩
  · rw [hdistance, hsilence]
  · exact Bool.eq_false_iff.mpr fun h => hlimit (hend.mp h)
  · rw [hbye, if_neg]
    rintro (h | h)
    · exact hlimit h
    · exact absurd h (by decide)

end Station

end AudioLink
