import Mathlib.Algebra.Order.Ring.Int
import AudioLink.Proofs.Link.Liveness
import AudioLink.Proofs.Link.Sessions
import AudioLink.Proofs.Link.Trace

/-!
# The pace of a session

A session that begins at some time sets a grid of points one period apart. The firing number `k`
of the session rearms the timer for the point `k + 1` of the grid, however early or late it and the
firings before it come, and whatever else happens in between; nothing but a firing rearms.
-/

namespace AudioLink

def Event.isRearm : Event → Bool
  | rearm _ => true
  | _ => false

private theorem Event.isRearm_of_resourceCalls_nil {events : List Event}
    (h : resourceCalls events = []) :
    ∀ event ∈ events, event.isRearm = false := by
  refine forall_of_resourceCalls (fun event hother => ?_) (by simp [h])
  cases event with
  | rearm _ => cases hother
  | _ => rfl

namespace Cadence

/-- The point `k` of the grid, held at the greatest time. -/
def due (period begun : Nanos) (k : Nat) : Nanos :=
  Nanos.saturate (begun.toNat + k * period.toNat)

theorem start_eq_due (period begun : Nanos) :
    (ofPeriod period).start begun = ⟨period, due period begun 1⟩ := by
  simp [ofPeriod, start, due]

theorem advance_due (period begun : Nanos) (k : Nat) :
    (⟨period, due period begun k⟩ : Cadence).advance = ⟨period, due period begun (k + 1)⟩ := by
  have hpoint : (Nanos.saturate ((due period begun k).toNat + period.toNat)).toNat =
      (due period begun (k + 1)).toNat := by
    simp only [due, Nanos.toNat_saturate, Nat.succ_mul]
    omega
  exact congrArg (Cadence.mk period) (UInt64.toNat.inj hpoint)

private theorem toNat_delay_due (period begun now : Nanos) (k : Nat)
    (h : begun.toNat + (k + 1) * period.toNat < 2 ^ 64) :
    (((⟨period, due period begun k⟩ : Cadence).delay now).toNat : Int) =
      max 0 ((begun.toNat : Int) + (k + 1) * period.toNat - now.toNat) := by
  -- `omega` takes the product for an atom, so it has to be the same one in both number systems.
  have hpoint : ((k : Int) + 1) * period.toNat =
      ((k * period.toNat + period.toNat : Nat) : Int) := by
    rw [← Nat.succ_mul]
    rfl
  rw [Nat.succ_mul] at h
  rw [hpoint]
  simp only [delay, due, Nanos.toNat_saturate, Nanos.greatest]
  omega

end Cadence

namespace Station

variable {W : Type} (host : Host W)

/-- What an entry means for the pace. -/
inductive Pace (s : Station W) (call : Call) (s' : Station W) : Prop where
  | fired (hfires : s.fires host call = true) (w : W) (events : List Event)
      (hhistory : s'.history = .rearm (s.engine.cadence.delay (host.now w)) ::
        .clock (host.now w) :: (events ++ s.history))
      (hevents : ∀ event ∈ events, event.isRearm = false)
      (hworld : s'.world = host.rearm (s.engine.cadence.delay (host.now w)) w)
      (hstarted : s'.engine.started = true)
      (hcadence : s'.engine.cadence = s.engine.cadence.advance)
  | unfired (hfires : s.fires host call = false) (events : List Event)
      (hhistory : s'.history = events ++ s.history)
      (hevents : ∀ event ∈ events, event.isRearm = false)
      (hcadence : s.engine.started = true → call ≠ .stop →
        s'.engine.started = true ∧ s'.engine.cadence = s.engine.cadence)

private theorem fires_of_ignores {s : Station W} {call : Call} (h : s.Ignores call) :
    s.fires host call = false := by
  cases call with
  | start => exact h.elim
  | stop | fire | fireTagged generation =>
    have hidle : s.engine.started = false := h
    simp [fires, hidle]
  | inbound frame => simp [fires]

private theorem perform_pace (call : Call) (s : Station W) :
    Pace host s call (s.perform host call).2 := by
  obtain ⟨events, engine, heffect, hengine, hhistory, htrace⟩ := perform_trace host call s
  have hunfired (hfires : s.fires host call = false)
      (hevents : ∀ event ∈ events, event.isRearm = false)
      (hcadence : s.engine.started = true → call ≠ .stop →
        engine.started = true ∧ engine.cadence = s.engine.cadence) :
      Pace host s call (s.perform host call).2 :=
    .unfired hfires events hhistory hevents (hengine ▸ hcadence)
  cases heffect with
  | ignored h =>
    exact hunfired (fires_of_ignores host h) (by simp) fun hstarted _ => ⟨hstarted, rfl⟩
  | stale h =>
    exact hunfired (by simp [fires, h]) (by simp [Event.isRearm]) fun hstarted _ => ⟨hstarted, rfl⟩
  | malformed cause _ _ _ _ =>
    exact hunfired (by simp [fires]) (by simp [Event.isRearm]) fun hstarted _ => ⟨hstarted, rfl⟩
  | packet h _ _ hsent =>
    exact hunfired (by simp [fires])
      (Event.isRearm_of_resourceCalls_nil (resourceCalls_packet host hsent _ _ _ _))
      fun hstarted _ => ⟨hstarted, rfl⟩
  | start h =>
    have hfires : s.fires host .start = false := by simp [fires]
    cases h with
    | already h => exact hunfired hfires (by simp) fun hstarted _ => ⟨hstarted, rfl⟩
    | zeroPeriod h _ | unarmed h _ _ | unhooked h _ _ _ | begun h _ _ _ =>
      refine hunfired hfires (by simp [Event.isRearm]) fun hstarted _ => ?_
      rw [h] at hstarted
      cases hstarted
  | stopped h =>
    refine hunfired (by simp [fires]) ?_ fun _ hcall => absurd rfl hcall
    rw [List.forall_mem_cons, List.forall_mem_append, List.forall_mem_append]
    refine ⟨rfl, ?_, ?_, by simp [Event.isRearm]⟩
    · cases s.engine.hook <;> simp [Event.isRearm]
    · exact Event.isRearm_of_resourceCalls_nil
        (resourceCalls_of_news (s.news_partingEvents host))
  | fired now h hcall hsent =>
    have hfires : s.fires host call = true := by
      rcases hcall with rfl | rfl <;> simp [fires, h]
    obtain _ | @⟨_, _, _, w, _, hclock, hrearm⟩ := htrace
    obtain _ | ⟨-, hread⟩ := hclock
    obtain ⟨rfl, rfl⟩ := hread.of_clock
    exact .fired hfires w _ hhistory
      (Event.isRearm_of_resourceCalls_nil (resourceCalls_beforeRearm host s hsent)) hrearm.of_rearm
      (hengine ▸ h) (by rw [hengine])

/-- The state of a session that began at some time and has seen `k` firings: the point `k + 1` of
its grid is due. -/
structure Paced (period begun : Nanos) (k : Nat) (s : Station W) : Prop where
  started : s.engine.started = true
  cadence : s.engine.cadence = ⟨period, Cadence.due period begun (k + 1)⟩

variable {host} {period begun : Nanos} {k : Nat}

private theorem paced_perform {call : Call} {s : Station W} (hcall : call ≠ .stop)
    (h : Paced period begun k s) :
    Paced period begun (k + if s.fires host call then 1 else 0) (s.perform host call).2 := by
  cases perform_pace host call s with
  | fired hfires _ _ _ _ _ hstarted hcadence =>
    rw [hfires, if_pos rfl]
    exact ⟨hstarted, by rw [hcadence, h.cadence, Cadence.advance_due]⟩
  | unfired hfires _ _ _ hkeeps =>
    obtain ⟨hstarted, hcadence⟩ := hkeeps h.started hcall
    rw [hfires]
    exact ⟨hstarted, hcadence.trans h.cadence⟩

theorem paced_run (turns : List (Turn W)) {s : Station W}
    (hturns : ∀ t ∈ turns, t.call ≠ .stop) (h : Paced period begun k s) :
    Paced period begun (k + firings host turns s) (s.run host turns) := by
  induction turns generalizing k s with
  | nil => exact h
  | cons t turns ih =>
    rw [List.forall_mem_cons] at hturns
    have hmeanwhile : Paced period begun k (s.meanwhile t.before) := ⟨h.started, h.cadence⟩
    rw [firings, ← Nat.add_assoc]
    exact ih hturns.2 (paced_perform hturns.1 hmeanwhile)

private theorem paced_start {s : Station W} (hidle : s.engine.started = false)
    (hstart : (s.start host).1 = .ok ()) :
    Paced s.engine.settings.period (host.now (host.arm s.engine.settings.period s.world).2) 0
      (s.start host).2 := by
  by_cases hperiod : s.engine.settings.period = 0
  · rw [start_of_zeroPeriod host hidle hperiod] at hstart
    cases hstart
  rcases harm : host.arm s.engine.settings.period s.world with ⟨cause | _, w⟩
  · rw [start_of_unarmed host hidle hperiod harm] at hstart
    cases hstart
  rcases hinstall : host.install Frame.hasDiscriminator w with ⟨cause | handle, w'⟩
  · rw [start_of_unhooked host hidle hperiod harm hinstall] at hstart
    cases hstart
  · rw [start_of_hooked host hidle hperiod harm hinstall]
    exact ⟨rfl, Cadence.start_eq_due _ _⟩

variable (host)

/-- Let a session with period `P` begin at the time `t0` of the clock, whatever came before it. The
firing number `k` of the session ends with the one call that rearms the timer, and if the clock
shows `n` at that point, the delay is `max 0 (t0 + (k + 1) * P - n)` as long as that point of the
grid is below `2 ^ 64`. No other entry, of this session or outside of any, rearms the timer. -/
theorem firings_rearm_on_grid (settings : Settings) (world : W) (past during : List (Turn W))
    (before change : W → W) (call : Call) :
    let idle := ((fresh settings world).run host past).meanwhile before
    let begun := host.now (host.arm settings.period idle.world).2
    let s := ((idle.start host).2.run host during).meanwhile change
    let s' := (s.perform host call).2
    let k := firings host during (idle.start host).2 + 1
    (idle.engine.started = false → (idle.start host).1 = .ok () →
      (∀ t ∈ during, t.call ≠ .stop) → s.fires host call = true →
      ∃ (w : W) (delay : Nanos) (events : List Event),
        s'.history = .rearm delay :: .clock (host.now w) :: (events ++ s.history) ∧
        (∀ event ∈ events, event.isRearm = false) ∧ s'.world = host.rearm delay w ∧
        (begun.toNat + (k + 1) * settings.period.toNat < 2 ^ 64 →
          (delay.toNat : Int) =
            max 0 ((begun.toNat : Int) + (k + 1) * settings.period.toNat - (host.now w).toNat))) ∧
    ∀ other : Station W, other.fires host call = false →
      ∃ events, (other.perform host call).2.history = events ++ other.history ∧
        ∀ event ∈ events, event.isRearm = false := by
  intro idle begun s s' k
  refine ⟨?_, ?_⟩
  · intro hidle hstart hduring hfires
    have hsettings : idle.engine.settings = settings := settings_run host past _
    have hbegun := paced_start hidle hstart
    rw [hsettings] at hbegun
    obtain ⟨-, hcadence⟩ := paced_run during hduring hbegun
    have hpoint : s.engine.cadence =
        ⟨settings.period, Cadence.due settings.period begun k⟩ := by
      rw [Nat.zero_add] at hcadence
      exact hcadence
    cases perform_pace host call s with
    | unfired hnot _ _ _ _ =>
      rw [hfires] at hnot
      cases hnot
    | fired _ w events hhistory hevents hworld _ _ =>
      rw [hpoint] at hhistory hworld
      exact ⟨w, _, events, hhistory, hevents, hworld,
        Cadence.toNat_delay_due settings.period begun (host.now w) k⟩
  · intro other hnot
    cases perform_pace host call other with
    | fired hfires _ _ _ _ _ _ _ =>
      rw [hnot] at hfires
      cases hfires
    | unfired _ events hhistory hevents _ => exact ⟨events, hhistory, hevents⟩

/-- The delay and the time of the firing that a history ends with. -/
def lastRearm? : List Event → Option (Nanos × Nanos)
  | .rearm delay :: .clock now :: _ => some (delay, now)
  | _ => none

private def atTime (now : Nanos) (world : ScriptedHost) : ScriptedHost :=
  { world with timer := { world.timer with now } }

def unsteady : List (Turn ScriptedHost) :=
  [⟨atTime 271000, .fire⟩, ⟨id, .start⟩, ⟨id, .fireTagged 7⟩,
    ⟨fun world => { atTime 496000 world with transmitFault := some .linkDown }, .fire⟩]

/-- The third firing of a second session that began at 1000 aims at 1001000. -/
theorem third_firing_rearms_on_grid :
    let idle := ((fresh masterSettings shortWorld).run shortHost
      [⟨id, .start⟩, ⟨atTime 300000, .fire⟩, ⟨id, .stop⟩]).meanwhile (atTime 1000)
    let s := ((idle.start shortHost).2.run shortHost unsteady).meanwhile (atTime 900000)
    idle.engine.started = false ∧ (idle.start shortHost).1 = .ok () ∧
      (∀ t ∈ unsteady, t.call ≠ .stop) ∧ s.fires shortHost .fire = true ∧
      lastRearm? (s.perform shortHost .fire).2.history = some (101000, 900000) ∧
      s.fires shortHost .start = false ∧
      ∃ events, (s.perform shortHost .start).2.history = events ++ s.history ∧
        ∀ event ∈ events, event.isRearm = false := by
  intro idle s
  have hidle : idle.engine.started = false := by decide +kernel
  have hstart : (idle.start shortHost).1 = .ok () := by
    have hok : (idle.start shortHost).1.isOk = true := by decide +kernel
    cases hanswer : (idle.start shortHost).1 with
    | error cause =>
      rw [hanswer] at hok
      cases hok
    | ok _ => rfl
  have hturns : ∀ t ∈ unsteady, t.call ≠ .stop := by decide
  have hfires : s.fires shortHost .fire = true := by decide +kernel
  have hunfired : s.fires shortHost .start = false := by decide +kernel
  have hfirings : firings shortHost unsteady (idle.start shortHost).2 = 2 := by decide +kernel
  have htime : (lastRearm? (s.perform shortHost .fire).2.history).map Prod.snd = some 900000 := by
    decide +kernel
  have hbegun : shortHost.now (shortHost.arm masterSettings.period idle.world).2 = 1000 := by
    decide +kernel
  obtain ⟨hgrid, -⟩ := firings_rearm_on_grid shortHost masterSettings shortWorld
    [⟨id, .start⟩, ⟨atTime 300000, .fire⟩, ⟨id, .stop⟩] unsteady (atTime 1000) (atTime 900000) .fire
  obtain ⟨w, delay, events, hhistory, -, -, hdelay⟩ := hgrid hidle hstart hturns hfires
  obtain ⟨-, hother⟩ := firings_rearm_on_grid shortHost masterSettings shortWorld [] [] id id .start
  rw [hfirings, hbegun] at hdelay
  rw [hhistory] at htime ⊢
  have hnow : shortHost.now w = 900000 := Option.some.inj htime
  rw [hnow] at hdelay ⊢
  have hvalue : delay = 101000 := UInt64.toNat.inj (Int.ofNat.inj (hdelay (by decide +kernel)))
  exact ⟨hidle, hstart, hturns, hfires, by rw [hvalue]; rfl, hunfired, hother s hunfired⟩

end Station

end AudioLink
