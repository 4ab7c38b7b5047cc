import Mathlib.Algebra.Order.Ring.Nat
import AudioLink.Config.Basic
import AudioLink.Proofs.Link.Run

/-!
# The times of a valid configuration

Checking a configuration bounds its times from below only. An engine counts them in nanoseconds and
keeps 64 bits of the count, so it runs on the times of its configuration just if the longer of them
has a count of 64 bits. Beyond that the times of a slave are cut, and a check interval that is a
multiple of `2 ^ 58` milliseconds is cut to nothing.
-/

namespace AudioLink

namespace Timing

private theorem toNat_ofNat_ofMillis (millis : Nat) :
    (UInt64.ofNat (ofMillis millis)).toNat = millis * 1000000 % 2 ^ 64 := by
  rw [UInt64.toNat_ofNat', ofMillis, Nat.mul_comm]

private theorem ofNat_ofMillis_eq_zero_iff (millis : Nat) :
    UInt64.ofNat (ofMillis millis) = 0 ↔ 2 ^ 58 ∣ millis := by
  rw [← UInt64.toNat_inj, toNat_ofNat_ofMillis]
  change millis * 1000000 % 2 ^ 64 = 0 ↔ 2 ^ 58 ∣ millis
  have hodd : Nat.Coprime (2 ^ 58) 15625 := by decide +kernel
  calc millis * 1000000 % 2 ^ 64 = 0
    _ ↔ 2 ^ 58 * 2 ^ 6 ∣ millis * 15625 * 2 ^ 6 := by
      rw [Nat.mul_assoc, ← Nat.pow_add]
      exact Nat.dvd_iff_mod_eq_zero.symm
    _ ↔ 2 ^ 58 ∣ millis * 15625 := Nat.mul_dvd_mul_iff_right (by decide)
    _ ↔ 2 ^ 58 ∣ millis :=
      ⟨Nat.Coprime.dvd_of_dvd_mul_right hodd, fun h => Nat.dvd_mul_right_of_dvd h _⟩

end Timing

namespace Config

variable {config : Config}

private theorem validate_eq_ok_iff :
    config.validate = .ok () ↔
      validChannels config.engine.inChannels = true ∧
      validChannels config.engine.outChannels = true ∧
      (∃ mac, Mac.ofText? config.engine.mac = some mac) ∧
      config.timing.checkInterval ≠ 0 ∧
      config.timing.checkInterval ≤ config.timing.disconnectTimeout := by
  have hvalid : config.validate = .ok () ↔ config.fault? = none := by
    rw [validate]
    cases config.fault? <;> simp
  rw [hvalid, fault?]
  cases validChannels config.engine.inChannels
  · simp
  cases validChannels config.engine.outChannels
  · simp
  cases Mac.ofText? config.engine.mac with
  | none => simp
  | some mac =>
    by_cases hzero : config.timing.checkInterval = 0
    · simp [hzero]
    · by_cases hshort : config.timing.disconnectTimeout < config.timing.checkInterval
      · simp [hzero, hshort, UInt64.not_le.mpr hshort]
      · simp [hzero, hshort, UInt64.not_lt.mp hshort]

private theorem engineSettings_eq_ok_iff {settings : Settings} :
    config.engineSettings = .ok settings ↔
      config.validate = .ok () ∧ ∃ mac, Mac.ofText? config.engine.mac = some mac ∧
        settings = ⟨config.engine.role,
          ⟨mac, config.engine.inChannels, config.engine.outChannels⟩, config.engineTiming⟩ := by
  rw [engineSettings, validate]
  cases config.fault? with
  | some fault => simp
  | none =>
    cases Mac.ofText? config.engine.mac with
    | none => simp
    | some mac => simp [eq_comm]

end Config

namespace Station

variable {W : Type} (host : Host W)

/-- Neither the timer nor the hook claims that the period is zero. -/
def PeriodUnblamed (s : Station W) : Prop :=
  let armed := host.arm s.engine.settings.period s.world
  armed.1 ≠ .error .zeroPeriod ∧
    (host.install Frame.hasDiscriminator armed.2).1 ≠ .error .zeroPeriod

private theorem start_eq_zeroPeriod_iff {s : Station W} (h : s.PeriodUnblamed host) :
    (s.start host).1 = .error .zeroPeriod ↔
      s.engine.started = false ∧ s.engine.settings.period = 0 := by
  obtain ⟨harmed, hinstalled⟩ := h
  cases hstarted : s.engine.started with
  | true => simp [start_of_started host hstarted]
  | false =>
    by_cases hperiod : s.engine.settings.period = 0
    · simp [start_of_zeroPeriod host hstarted hperiod, hperiod]
    rcases harm : host.arm s.engine.settings.period s.world with ⟨cause | _, w⟩
    · rw [harm] at harmed
      simp_all [start_of_unarmed host hstarted hperiod harm]
    rw [harm] at hinstalled
    rcases hinstall : host.install Frame.hasDiscriminator w with ⟨cause | handle, w'⟩
    · rw [hinstall] at hinstalled
      simp_all [start_of_unhooked host hstarted hperiod harm hinstall]
    · simp [start_of_hooked host hstarted hperiod harm hinstall, hperiod]

end Station

namespace Config

variable {config : Config}

private theorem period_eq_zero_iff {settings : Settings}
    (h : config.engineSettings = .ok settings) :
    settings.period = 0 ↔
      config.engine.role = .slave ∧ 2 ^ 58 ∣ config.timing.checkInterval.toNat := by
  obtain ⟨-, mac, -, rfl⟩ := engineSettings_eq_ok_iff.mp h
  cases config.engine.role with
  | master =>
    have hperiod : UInt64.ofNat (1000000000 / max (UInt32.ofNat packetRate).toNat 1) ≠ 0 := by
      decide
    simpa [Settings.period, engineTiming] using hperiod
  | slave =>
    simp only [Settings.period, true_and]
    exact Timing.ofNat_ofMillis_eq_zero_iff _

private theorem slave_times {settings : Settings} (h : config.engineSettings = .ok settings)
    (hrole : config.engine.role = .slave) :
    settings.period.toNat = config.timing.checkInterval.toNat * 1000000 % 2 ^ 64 ∧
      settings.timeout.toNat = config.timing.disconnectTimeout.toNat * 1000000 % 2 ^ 64 := by
  obtain ⟨-, mac, -, rfl⟩ := engineSettings_eq_ok_iff.mp h
  rw [hrole]
  exact ⟨Timing.toNat_ofNat_ofMillis _, Timing.toNat_ofNat_ofMillis _⟩

/--
A valid configuration always gives settings, with its role, its channel counts and the address it
writes. The times of a slave are cut to 64 bits of nanoseconds, so they are those of the
configuration just if the timeout fits, and then the timeout is no shorter than the period, which
is not zero. An engine with these settings refuses to start for its period just if it is a slave
whose check interval is cut to nothing.
-/
theorem times_of_validated {W : Type} (host : Host W) (config : Config)
    (h : config.validate = .ok ()) :
    ∃ settings mac, config.engineSettings = .ok settings ∧
      settings.role = config.engine.role ∧
      Mac.ofText? config.engine.mac = some mac ∧
      settings.device = ⟨mac, config.engine.inChannels, config.engine.outChannels⟩ ∧
      (config.engine.role = .slave →
        settings.period.toNat = config.timing.checkInterval.toNat * 1000000 % 2 ^ 64 ∧
        settings.timeout.toNat = config.timing.disconnectTimeout.toNat * 1000000 % 2 ^ 64 ∧
        (settings.period.toNat = config.timing.checkInterval.toNat * 1000000 ∧
            settings.timeout.toNat = config.timing.disconnectTimeout.toNat * 1000000 ↔
          config.timing.disconnectTimeout.toNat * 1000000 < 2 ^ 64) ∧
        (config.timing.disconnectTimeout.toNat * 1000000 < 2 ^ 64 →
          0 < settings.period.toNat ∧ settings.period.toNat ≤ settings.timeout.toNat)) ∧
      ∀ s : Station W, s.engine.settings = settings → s.PeriodUnblamed host →
        ((s.start host).1 = .error .zeroPeriod ↔ s.engine.started = false ∧
          config.engine.role = .slave ∧ 2 ^ 58 ∣ config.timing.checkInterval.toNat) := by
  obtain ⟨-, -, ⟨mac, hmac⟩, hcheck, htimeout⟩ := validate_eq_ok_iff.mp h
  have hsettings := engineSettings_eq_ok_iff.mpr ⟨h, mac, hmac, rfl⟩
  refine ⟨_, mac, hsettings, rfl, hmac, rfl, ?_, ?_⟩
  · intro hrole
    obtain ⟨hperiod, hsilence⟩ := slave_times hsettings hrole
    have hpositive : config.timing.checkInterval.toNat ≠ 0 :=
      fun hzero => hcheck (UInt64.toNat_inj.mp hzero)
    have horder : config.timing.checkInterval.toNat ≤ config.timing.disconnectTimeout.toNat :=
      UInt64.le_iff_toNat_le.mp htimeout
    have hcounts := Nat.mul_le_mul_right 1000000 horder
    generalize config.timing.checkInterval.toNat = check at hperiod hpositive hcounts ⊢
    generalize config.timing.disconnectTimeout.toNat = silence at hsilence hcounts ⊢
    refine ⟨hperiod, hsilence, ?_, ?_⟩
    · rw [hperiod, hsilence, Nat.mod_eq_iff_lt (by decide), Nat.mod_eq_iff_lt (by decide)]
      constructor
      · exact And.right
      · intro hfits
        exact ⟨Nat.lt_of_le_of_lt hcounts hfits, hfits⟩
    · intro hfits
      rw [hperiod, hsilence, Nat.mod_eq_of_lt hfits,
        Nat.mod_eq_of_lt (Nat.lt_of_le_of_lt hcounts hfits)]
      constructor
      · apply Nat.mul_pos _ (by decide)
        exact Nat.pos_of_ne_zero hpositive
      · exact hcounts
  · intro s hs hblame
    rw [Station.start_eq_zeroPeriod_iff host hblame, hs, period_eq_zero_iff hsettings]

/-- The standard times are short enough: a check every 400 milliseconds, and a second of silence. -/
theorem times_of_standard :
    standard.validate = .ok () ∧ ∃ settings, standard.engineSettings = .ok settings ∧
      settings.period.toNat = 400000000 ∧ settings.timeout.toNat = 1000000000 ∧
      (Station.fresh settings Station.shortWorld).PeriodUnblamed Station.shortHost ∧
      ((Station.fresh settings Station.shortWorld).start Station.shortHost).1 ≠
        .error .zeroPeriod := by
  have hmac : Mac.ofText? standard.engine.mac = some Device.placeholder.mac := by decide +kernel
  have hvalid : standard.validate = .ok () :=
    validate_eq_ok_iff.mpr ⟨by decide, by decide, ⟨_, hmac⟩, by decide, by decide⟩
  obtain ⟨settings, mac, hsettings, -, -, -, htimes, hstart⟩ :=
    times_of_validated Station.shortHost standard hvalid
  obtain ⟨hperiod, htimeout, -, -⟩ := htimes rfl
  have hunblamed : (Station.fresh settings Station.shortWorld).PeriodUnblamed Station.shortHost :=
    ⟨nofun, nofun⟩
  refine ⟨hvalid, settings, hsettings, hperiod, htimeout, hunblamed, ?_⟩
  rw [ne_eq, hstart _ rfl hunblamed]
  rintro ⟨-, -, hcut⟩
  revert hcut
  decide

/-- A check every `2 ^ 58` milliseconds, which is some nine million years. -/
def overlong : Config :=
  { standard with timing := ⟨288230376151711744, 288230376151711744⟩ }

/-- Overlong times pass the check and are cut to nothing, so the engine refuses to start. -/
theorem overlong_times_cut :
    overlong.validate = .ok () ∧ ∃ settings, overlong.engineSettings = .ok settings ∧
      settings.role = .slave ∧
      settings.period.toNat ≠ overlong.timing.checkInterval.toNat * 1000000 ∧
      settings.timeout.toNat ≠ overlong.timing.disconnectTimeout.toNat * 1000000 ∧
      ((Station.fresh settings Station.shortWorld).start Station.shortHost).1 =
        .error .zeroPeriod := by
  have hmac : Mac.ofText? overlong.engine.mac = some Device.placeholder.mac := by decide +kernel
  have hvalid : overlong.validate = .ok () :=
    validate_eq_ok_iff.mpr ⟨by decide, by decide, ⟨_, hmac⟩, by decide, by decide⟩
  have hsettings := engineSettings_eq_ok_iff.mpr ⟨hvalid, _, hmac, rfl⟩
  refine ⟨hvalid, _, hsettings, rfl, by decide, by decide, ?_⟩
  rw [Station.start_of_zeroPeriod Station.shortHost rfl]
  decide

end Config

end AudioLink
