import Mathlib.Algebra.Order.Ring.Nat
import AudioLink.Proofs.Link.Liveness
import AudioLink.Proofs.Link.Sessions
import AudioLink.Proofs.Link.Trace

/-!
# Generations of the timer

A firing carries the generation under which the timer was armed. The generation moves on with every
arming and every cancellation, and with nothing else, so it stays the same throughout a session and
never comes back in a later one. A firing that was armed in an earlier session therefore finds
another generation, whenever it is carried out, and is dropped.
-/

namespace AudioLink

/-- Whether an event is a call that may move the generation of the timer. -/
def Event.isTiming : Event → Bool
  | arm _ _ | cancel => true
  | _ => false

/-- Whether a call may take the generation from one value to another. -/
def Event.Moves : Event → UInt64 → UInt64 → Prop
  | arm _ (.ok _), before, after => after = before + 1
  | arm _ (.error _), before, after => after = before ∨ after = before + 1
  | cancel, before, after => after = before + 1
  | _, before, after => after = before

theorem Event.moves_iff_of_untimed {event : Event} {before after : UInt64}
    (huntimed : event.isTiming = false) : event.Moves before after ↔ after = before := by
  cases event with
  | arm _ _ | cancel => cases huntimed
  | _ => rfl

namespace Host

variable {W : Type}

/-- Where the timer is present, it stays so, and its generation is moved on by every arming that
succeeds and by every cancellation, perhaps by an arming that fails, and by nothing else. -/
structure Generational (host : Host W) (present : W → Prop) : Prop where
  stays : ∀ {event : Event} {w w' : W}, host.Does event w w' → present w → present w'
  moves : ∀ {event : Event} {w w' : W}, host.Does event w w' → present w →
    event.Moves (host.generation w) (host.generation w')

/-- Whether a change of the surroundings leaves the timer alone. -/
def Spares (host : Host W) (present : W → Prop) (change : W → W) : Prop :=
  ∀ w, present w → present (change w) ∧ host.generation (change w) = host.generation w

variable {host : Host W} {present : W → Prop}

private theorem Generational.untimed (h : host.Generational present) {events : List Event}
    {w w' : W} (htrace : host.Trace events w w') (hpresent : present w)
    (huntimed : ∀ event ∈ events, event.isTiming = false) :
    present w' ∧ host.generation w' = host.generation w := by
  induction htrace with
  | nil w => exact ⟨hpresent, rfl⟩
  | @cons event events w w' w'' _ hdoes ih =>
    rw [List.forall_mem_cons] at huntimed
    obtain ⟨hmiddle, hsame⟩ := ih hpresent huntimed.2
    refine ⟨h.stays hdoes hmiddle, ?_⟩
    rw [(Event.moves_iff_of_untimed huntimed.1).mp (h.moves hdoes hmiddle), hsame]

end Host

private theorem untimed_of_resourceCalls {events : List Event}
    (h : ∀ event ∈ resourceCalls events, event.isTiming = false) :
    ∀ event ∈ events, event.isTiming = false := by
  refine forall_of_resourceCalls (fun event hother => ?_) h
  cases event with
  | arm _ _ | cancel => cases hother
  | _ => rfl

namespace Station

variable {W : Type} (host : Host W)

/-- The generation right after an entry has armed the timer, if it does so. -/
def armed? (s : Station W) : Call → Option UInt64
  | .start =>
    if s.engine.started = true ∨ s.engine.settings.period = 0 then none
    else
      match host.arm s.engine.settings.period s.world with
      | (.ok _, w) => some (host.generation w)
      | (.error _, _) => none
  | _ => none

/-- The generations under which a run has armed the timer, the first one first. -/
def armings : List (Turn W) → Station W → List UInt64
  | [], _ => []
  | t :: turns, s =>
    ((s.meanwhile t.before).armed? host t.call).toList ++ armings turns (s.turn host t)

/-- How often a run has moved the generation on. -/
def advances : List (Turn W) → Station W → Nat
  | [], _ => 0
  | t :: turns, s =>
    (host.generation (s.turn host t).world - host.generation s.world).toNat +
      advances turns (s.turn host t)

/-- Whether an entry stops the engine, or tries to start one that is not started. -/
def renews (s : Station W) : Call → Bool
  | .stop => true
  | .start => !s.engine.started
  | _ => false

/-- What an entry means for the generation of the timer. -/
inductive Turnover (s : Station W) (call : Call) (s' : Station W) : Prop where
  | kept (hgeneration : host.generation s'.world = host.generation s.world)
      (hstarted : s'.engine.started = s.engine.started) (harmed : s.armed? host call = none)
      (hrenews : s.engine.started = true → s.renews call = false)
  | begun (hgeneration : host.generation s'.world = host.generation s.world + 1)
      (hstarted : s'.engine.started = true)
      (harmed : s.armed? host call = some (host.generation s'.world))
  /-- A start fails, after moving the generation up to twice. -/
  | failed (moves : Nat)
      (hgeneration : host.generation s'.world = host.generation s.world + UInt64.ofNat moves)
      (hmoves : moves ≤ 2) (hstarted : s'.engine.started = false)
      (harmed : ∀ generation, s.armed? host call = some generation →
        ∃ k ≤ moves, generation = host.generation s.world + UInt64.ofNat k)
  | stopped (hgeneration : host.generation s'.world = host.generation s.world + 1)
      (hstarted : s'.engine.started = false) (harmed : s.armed? host call = none)

variable {host} {present : W → Prop}

private theorem start_turnover (hhost : host.Generational present) (s : Station W)
    (hpresent : present s.world) :
    present (s.start host).2.world ∧ Turnover host s .start (s.start host).2 := by
  cases hstarted : s.engine.started with
  | true =>
    rw [start_of_started host hstarted]
    exact ⟨hpresent, .kept rfl rfl (by simp [armed?, hstarted]) (by simp [renews])⟩
  | false =>
    by_cases hperiod : s.engine.settings.period = 0
    · rw [start_of_zeroPeriod host hstarted hperiod]
      exact ⟨hpresent, .kept rfl rfl (by simp [armed?, hperiod]) (by simp [hstarted])⟩
    have hdoes : host.Does (.arm s.engine.settings.period
        (host.arm s.engine.settings.period s.world).1) s.world _ := .arm _ _
    have hready := hhost.stays hdoes hpresent
    have hmoves := hhost.moves hdoes hpresent
    rcases harm : host.arm s.engine.settings.period s.world with ⟨cause | _, w⟩
    · rw [harm] at hready hmoves
      have hnone : s.armed? host .start = none := by simp [armed?, hstarted, hperiod, harm]
      rw [start_of_unarmed host hstarted hperiod harm]
      refine ⟨hready, ?_⟩
      rcases hmoves with hsame | hnext
      · exact .failed 0 (hsame.trans (UInt64.add_zero _).symm) (by omega) hstarted (by simp [hnone])
      · exact .failed 1 hnext (by omega) hstarted (by simp [hnone])
    rw [harm] at hready hmoves
    have hnext : host.generation w = host.generation s.world + 1 := hmoves
    have harmed : s.armed? host .start = some (host.generation w) := by
      simp [armed?, hstarted, hperiod, harm]
    have hinstalls : host.Does (.install Frame.hasDiscriminator
        (host.install Frame.hasDiscriminator w).1) w _ := .install w
    have hhooked := hhost.stays hinstalls hready
    have hsame : host.generation (host.install Frame.hasDiscriminator w).2 = host.generation w :=
      hhost.moves hinstalls hready
    rcases hinstall : host.install Frame.hasDiscriminator w with ⟨cause | handle, w'⟩
    · rw [hinstall] at hhooked hsame
      have hcancels : host.Does .cancel w' (host.cancel w') := .cancel w'
      have hlast : host.generation (host.cancel w') = host.generation w' + 1 :=
        hhost.moves hcancels hhooked
      rw [start_of_unhooked host hstarted hperiod harm hinstall]
      refine ⟨hhost.stays hcancels hhooked, .failed 2 ?_ (Nat.le_refl 2) hstarted ?_⟩
      · refine hlast.trans ?_
        rw [hsame, hnext, UInt64.add_assoc]
        rfl
      · intro generation h
        rw [harmed] at h
        exact ⟨1, by omega, (Option.some.inj h).symm.trans hnext⟩
    · rw [hinstall] at hhooked hsame
      rw [start_of_hooked host hstarted hperiod harm hinstall]
      exact ⟨hhooked, .begun (hsame.trans hnext) rfl (harmed.trans (congrArg some hsame.symm))⟩

private theorem perform_turnover (hhost : host.Generational present) (call : Call) (s : Station W)
    (hpresent : present s.world) :
    present (s.perform host call).2.world ∧ Turnover host s call (s.perform host call).2 := by
  obtain ⟨events, engine, heffect, hengine, -, htrace⟩ := perform_trace host call s
  have hkept (huntimed : ∀ event ∈ resourceCalls events, event.isTiming = false)
      (hstarted : engine.started = s.engine.started) (harmed : s.armed? host call = none)
      (hrenews : s.engine.started = true → s.renews call = false) :
      present (s.perform host call).2.world ∧ Turnover host s call (s.perform host call).2 := by
    obtain ⟨hstays, hsame⟩ := hhost.untimed htrace hpresent (untimed_of_resourceCalls huntimed)
    exact ⟨hstays, .kept hsame (hengine ▸ hstarted) harmed hrenews⟩
  cases heffect with
  | start h => exact start_turnover hhost s hpresent
  | @ignored _ h =>
    refine hkept (by simp [resourceCalls]) rfl ?_ ?_
    · cases call with
      | start => exact h.elim
      | _ => rfl
    · intro hstarted
      cases call with
      | start => exact h.elim
      | stop => exact absurd h (by simp [Ignores, hstarted])
      | _ => rfl
  | stale h => exact hkept (by simp [resourceCalls, Event.isResource]) rfl rfl fun _ => rfl
  | malformed cause h hrole hframe hdecode =>
    exact hkept (by simp [resourceCalls, Event.isResource]) rfl rfl fun _ => rfl
  | packet h hrole hcontent hsent =>
    exact hkept (by simp [resourceCalls_packet host hsent]) rfl rfl fun _ => rfl
  | fired now h hcall hsent =>
    have hrearm := resourceCalls_fired host (s.engine.cadence.delay now) now s hsent
    rcases hcall with rfl | rfl
    · exact hkept (by simp [hrearm, Event.isTiming]) rfl rfl fun _ => rfl
    · exact hkept (by simp [hrearm, Event.isTiming]) rfl rfl fun _ => rfl
  | stopped h =>
    rw [← List.append_assoc, ← List.cons_append] at htrace
    obtain ⟨w, hcancel, hrest⟩ := htrace.split
    obtain _ | ⟨hnothing, hcancels⟩ := hcancel
    cases hnothing
    have hready := hhost.stays hcancels hpresent
    have hnext : host.generation w = host.generation s.world + 1 := hhost.moves hcancels hpresent
    have huntimed : ∀ event ∈ .note (.stopped s.role) ::
        ((s.engine.hook.map Event.uninstall).toList ++ s.partingEvents host),
        event.isTiming = false := by
      rw [List.forall_mem_cons, List.forall_mem_append]
      refine ⟨rfl, ?_, ?_⟩
      · cases s.engine.hook <;> simp [Event.isTiming]
      · exact untimed_of_resourceCalls (by simp [resourceCalls_of_news (s.news_partingEvents host)])
    obtain ⟨hstays, hsame⟩ := hhost.untimed hrest hready huntimed
    exact ⟨hstays, .stopped (hsame.trans hnext) (by rw [hengine]) rfl⟩

private theorem toNat_advanced (generation : UInt64) (moves : Nat) (h : moves ≤ 2) :
    (generation + UInt64.ofNat moves - generation).toNat = moves := by
  rw [UInt64.add_comm, UInt64.add_sub_cancel]
  exact UInt64.toNat_ofNat_of_lt (by simp only [UInt64.size]; omega)

private theorem eq_of_unadvanced {before after : UInt64} (h : (after - before).toNat = 0) :
    after = before := by
  have hzero : after - before = 0 := UInt64.toNat_inj.mp h
  rw [← UInt64.sub_add_cancel after before, hzero, UInt64.zero_add]

private theorem Turnover.armed_le {s s' : Station W} {call : Call} (h : Turnover host s call s')
    {generation : UInt64} (harmed : s.armed? host call = some generation) :
    ∃ k ≤ (host.generation s'.world - host.generation s.world).toNat,
      generation = host.generation s.world + UInt64.ofNat k := by
  cases h with
  | kept _ _ hnone _ | stopped _ _ hnone =>
    rw [hnone] at harmed
    cases harmed
  | begun hgeneration _ hsome =>
    rw [hsome] at harmed
    refine ⟨1, ?_, (Option.some.inj harmed).symm.trans hgeneration⟩
    rw [hgeneration]
    exact Nat.le_of_eq (toNat_advanced _ 1 (by omega)).symm
  | failed moves hgeneration hmoves _ hearlier =>
    obtain ⟨k, hk, heq⟩ := hearlier generation harmed
    refine ⟨k, ?_, heq⟩
    rw [hgeneration, toNat_advanced _ _ hmoves]
    exact hk

private theorem Turnover.of_unmoved {s s' : Station W} {call : Call} (h : Turnover host s call s')
    (hunmoved : host.generation s'.world = host.generation s.world)
    (hstarted : s'.engine.started = true) :
    s.engine.started = true ∧ s.renews call = false := by
  cases h with
  | kept _ hsame _ hrenews =>
    rw [hsame] at hstarted
    exact ⟨hstarted, hrenews hstarted⟩
  | begun hgeneration _ _ =>
    rw [hunmoved] at hgeneration
    exact absurd (UInt64.left_eq_add.mp hgeneration) (by decide)
  | failed _ _ _ hidle _ | stopped _ hidle _ =>
    rw [hidle] at hstarted
    cases hstarted

private theorem turn_turnover (hhost : host.Generational present) (t : Turn W) (s : Station W)
    (hpresent : present s.world) (hspares : host.Spares present t.before) :
    present (s.turn host t).world ∧
      host.generation (s.meanwhile t.before).world = host.generation s.world ∧
      Turnover host (s.meanwhile t.before) t.call (s.turn host t) := by
  obtain ⟨hready, hsame⟩ := hspares s.world hpresent
  obtain ⟨hstays, hturnover⟩ := perform_turnover hhost t.call (s.meanwhile t.before) hready
  exact ⟨hstays, hsame, hturnover⟩

/-- A run has moved the generation on as often as was counted. -/
theorem generation_run (turns : List (Turn W)) (s : Station W) :
    host.generation (s.run host turns).world =
      host.generation s.world + UInt64.ofNat (advances host turns s) := by
  induction turns generalizing s with
  | nil => exact (UInt64.add_zero _).symm
  | cons t turns ih =>
    rw [run_cons, ih, advances, UInt64.ofNat_add, UInt64.ofNat_toNat, ← UInt64.add_assoc,
      UInt64.add_comm (host.generation s.world), UInt64.sub_add_cancel]

theorem present_run (hhost : host.Generational present) (turns : List (Turn W)) (s : Station W)
    (hpresent : present s.world) (hspares : ∀ t ∈ turns, host.Spares present t.before) :
    present (s.run host turns).world := by
  induction turns generalizing s with
  | nil => exact hpresent
  | cons t turns ih =>
    rw [List.forall_mem_cons] at hspares
    exact ih _ (turn_turnover hhost t s hpresent hspares.1).1 hspares.2

private theorem exists_of_mem_armings (hhost : host.Generational present) (turns : List (Turn W))
    (s : Station W) (hpresent : present s.world)
    (hspares : ∀ t ∈ turns, host.Spares present t.before) {generation : UInt64}
    (h : generation ∈ armings host turns s) :
    ∃ k ≤ advances host turns s, generation = host.generation s.world + UInt64.ofNat k := by
  induction turns generalizing s with
  | nil => cases h
  | cons t turns ih =>
    rw [List.forall_mem_cons] at hspares
    obtain ⟨hstays, hsame, hturnover⟩ := turn_turnover hhost t s hpresent hspares.1
    rw [armings, List.mem_append, Option.mem_toList] at h
    rw [advances]
    rcases h with h | h
    · obtain ⟨k, hk, heq⟩ := hturnover.armed_le h
      rw [hsame] at hk heq
      exact ⟨k, by omega, heq⟩
    · obtain ⟨k, hk, heq⟩ := ih _ hstays hspares.2 h
      refine ⟨_ + k, Nat.add_le_add_left hk _, ?_⟩
      rw [heq, UInt64.ofNat_add, UInt64.ofNat_toNat, ← UInt64.add_assoc,
        UInt64.add_comm (host.generation s.world), UInt64.sub_add_cancel]

/-- While the engine is started, the generation is the one under which the timer was armed last. -/
def Current (host : Host W) (past : List UInt64) (s : Station W) : Prop :=
  s.engine.started = true → past.getLast? = some (host.generation s.world)

theorem current_run (hhost : host.Generational present) (turns : List (Turn W))
    (past : List UInt64) (s : Station W) (hpresent : present s.world)
    (hspares : ∀ t ∈ turns, host.Spares present t.before) (h : Current host past s) :
    Current host (past ++ armings host turns s) (s.run host turns) := by
  induction turns generalizing past s with
  | nil =>
    rw [armings, List.append_nil]
    exact h
  | cons t turns ih =>
    rw [List.forall_mem_cons] at hspares
    obtain ⟨hstays, hsame, hturnover⟩ := turn_turnover hhost t s hpresent hspares.1
    rw [armings, ← List.append_assoc]
    refine ih _ _ hstays hspares.2 ?_
    intro hstarted
    cases hturnover with
    | kept hgeneration hkeeps hnone _ =>
      rw [hnone, hgeneration, hsame, Option.toList_none, List.append_nil]
      exact h (hkeeps ▸ hstarted)
    | begun _ _ hsome => rw [hsome, Option.toList_some, List.getLast?_concat]
    | failed _ _ _ hidle _ | stopped _ hidle _ =>
      rw [hidle] at hstarted
      cases hstarted

private theorem occurrences_renews_eq_zero (hhost : host.Generational present)
    (turns : List (Turn W)) (s : Station W) (hpresent : present s.world)
    (hspares : ∀ t ∈ turns, host.Spares present t.before)
    (hstarted : (s.run host turns).engine.started = true) (h : advances host turns s = 0) :
    s.engine.started = true ∧ occurrences host renews turns s = 0 := by
  induction turns generalizing s with
  | nil => exact ⟨hstarted, rfl⟩
  | cons t turns ih =>
    rw [List.forall_mem_cons] at hspares
    obtain ⟨hstays, hsame, hturnover⟩ := turn_turnover hhost t s hpresent hspares.1
    rw [advances, Nat.add_eq_zero_iff] at h
    obtain ⟨hnext, hnone⟩ := ih _ hstays hspares.2 hstarted h.2
    have hunmoved := eq_of_unadvanced h.1
    obtain ⟨hbefore, hrenews⟩ := hturnover.of_unmoved (hunmoved.trans hsame.symm) hnext
    refine ⟨hbefore, ?_⟩
    rw [occurrences, hrenews, hnone]
    rfl

/-- The second state differs from the first by remarks alone. -/
structure Unaffected (s s' : Station W) : Prop where
  engine : s'.engine = s.engine
  world : s'.world = s.world
  calls : History.calls s'.history = History.calls s.history

theorem Unaffected.refl (s : Station W) : s.Unaffected s := ⟨rfl, rfl, rfl⟩

private theorem unaffected_note (notice : Notice) (s : Station W) : s.Unaffected (s.note notice) :=
  ⟨rfl, rfl, rfl⟩

private theorem not_unaffected_fire {s : Station W} (h : s.engine.started = true) :
    ¬s.Unaffected (s.fire host) := by
  intro hsame
  obtain ⟨sent, count, now, hsent, hhistory, -⟩ := fire_started host s h
  have hcalls := congrArg List.length hsame.calls
  rw [hhistory, history_checkLiveness] at hcalls
  simp only [History.calls, List.filter_cons, List.filter_append, Event.isCall, if_true,
    List.length_cons, List.length_append] at hcalls
  omega

private theorem unaffected_of_idle {s : Station W} (h : s.engine.started = false)
    (generation : UInt64) :
    s.Unaffected (s.fireTagged host generation) := by
  unfold fireTagged
  split
  · rw [fire_of_idle host s h]
    exact .refl s
  · exact unaffected_note _ s

private theorem unaffected_fireTagged_iff (s : Station W) (generation : UInt64) :
    ¬s.Unaffected (s.fireTagged host generation) ↔
      s.engine.started = true ∧ generation = host.generation s.world := by
  constructor
  · intro haffected
    cases hstarted : s.engine.started with
    | false => exact absurd (unaffected_of_idle hstarted generation) haffected
    | true =>
      refine ⟨rfl, ?_⟩
      by_cases hcurrent : generation = host.generation s.world
      · exact hcurrent
      · rw [fireTagged_of_stale host generation s hcurrent] at haffected
        exact absurd (unaffected_note _ s) haffected
  · rintro ⟨hstarted, hcurrent⟩
    rw [fireTagged_of_current host generation s hcurrent]
    exact not_unaffected_fire hstarted

/-- A tagged firing has an effect exactly under the tag of the arming that is in force. -/
theorem Current.affected_iff {tags : List UInt64} {s : Station W} (h : Current host tags s)
    (hpresent : present s.world) {change : W → W} (hchange : host.Spares present change)
    (generation : UInt64) :
    let found := s.meanwhile change
    let current := s.engine.started = true ∧ tags.getLast? = some generation
    (¬found.Unaffected (found.fireTagged host generation) ↔ current) ∧
      (current → found.fireTagged host generation = found.fire host) := by
  intro found current
  have hfound : host.generation found.world = host.generation s.world := (hchange _ hpresent).2
  have hiff : current ↔ found.engine.started = true ∧
      generation = host.generation found.world := by
    refine and_congr_right fun hstarted => ?_
    rw [hfound, h hstarted, Option.some_inj]
    exact eq_comm
  refine ⟨(unaffected_fireTagged_iff found generation).trans hiff.symm, ?_⟩
  exact fun h => fireTagged_of_current host generation found (hiff.mp h).2

/-- A firing from before a stop, or from before a start of an idle engine, does nothing. -/
theorem unaffected_of_renewed (hhost : host.Generational present) {first : Station W}
    (hpresent : present first.world) {past more : List (Turn W)} {change : W → W}
    (hpast : ∀ t ∈ past, host.Spares present t.before)
    (hmore : ∀ t ∈ more, host.Spares present t.before) (hchange : host.Spares present change)
    {generation : UInt64} (hmem : generation ∈ armings host past first)
    (hfew : advances host past first + advances host more (first.run host past) < 2 ^ 64)
    (hrenews : 0 < occurrences host renews more (first.run host past)) :
    let found := ((first.run host past).run host more).meanwhile change
    found.Unaffected (found.fireTagged host generation) := by
  intro found
  have hmiddle := present_run hhost past first hpresent hpast
  have hlast := present_run hhost more _ hmiddle hmore
  obtain ⟨k, hk, htag⟩ := exists_of_mem_armings hhost past _ hpresent hpast hmem
  -- If the firing had an effect, its tag would have come back, so nothing was advanced since.
  refine Classical.byContradiction fun haffected => ?_
  obtain ⟨hstarted, hsame⟩ := (unaffected_fireTagged_iff found generation).mp haffected
  have hfound : host.generation found.world =
      host.generation ((first.run host past).run host more).world := (hchange _ hlast).2
  rw [hfound, generation_run more, generation_run past, htag,
    UInt64.add_assoc, UInt64.add_right_inj, ← UInt64.ofNat_add] at hsame
  have hindex := congrArg UInt64.toNat hsame
  rw [UInt64.toNat_ofNat_of_lt' (by simp only [UInt64.size]; omega),
    UInt64.toNat_ofNat_of_lt' (by simp only [UInt64.size]; omega)] at hindex
  have hnone := (occurrences_renews_eq_zero hhost more _ hmiddle hmore hstarted (by omega)).2
  omega

/-- Let every arming that succeeds and every cancellation move the generation of the timer on, and
nothing else do so but an arming that fails. Then a tagged firing has an effect on the engine or on
its surroundings exactly if the engine is started and the tag is the generation right after the
arming of the present session, and its effect is that of an untagged firing. So a firing that was
armed before a stop, or before a start of an engine that was not started, whatever came of it, does
nothing at any time after it, as long as the generation has not come round. -/
theorem stale_firings_inert (settings : Settings) (world : W) (past : List (Turn W))
    (hhost : host.Generational present) (hworld : present world)
    (hpast : ∀ t ∈ past, host.Spares present t.before) :
    let s := (fresh settings world).run host past
    let tags := armings host past (fresh settings world)
    (∀ change generation, host.Spares present change →
      let found := s.meanwhile change
      let current := s.engine.started = true ∧ tags.getLast? = some generation
      (¬found.Unaffected (found.fireTagged host generation) ↔ current) ∧
        (current → found.fireTagged host generation = found.fire host)) ∧
    ∀ generation ∈ tags, ∀ more change,
      (∀ t ∈ more, host.Spares present t.before) → host.Spares present change →
      advances host past (fresh settings world) + advances host more s < 2 ^ 64 →
      0 < occurrences host renews more s →
      let found := (s.run host more).meanwhile change
      found.Unaffected (found.fireTagged host generation) := by
  intro s tags
  have hpresent : present s.world := present_run hhost past _ hworld hpast
  have hcurrent : Current host tags s :=
    current_run hhost past [] _ hworld hpast fun h => by cases h
  refine ⟨?_, ?_⟩
  · intro change generation hchange
    exact hcurrent.affected_iff hpresent hchange generation
  · intro generation hmem more change hmore hchange hfew hrenews
    exact unaffected_of_renewed hhost hworld hpast hmore hchange hmem hfew hrenews

end Station

namespace ScriptedHost

private theorem generational (callbacks : Callbacks) :
    (operations callbacks true).Generational fun _ => True := by
  refine ⟨fun _ _ => trivial, ?_⟩
  intro event world world' hdoes _
  cases hdoes with
  | arm delay =>
    simp only [operations, ManualTimer.arm]
    cases world.timer.fault with
    | none => rfl
    | some cause => exact .inl rfl
  | install =>
    simp only [operations, install]
    cases world.hookFault <;> rfl
  | connected device callback _ h =>
    rw [eq_of_ite_some h]
    rfl
  | disconnected callback _ h =>
    rw [eq_of_ite_some h]
    rfl
  | delivered block callback _ h =>
    rw [eq_of_ite_some h]
    rfl
  | demanded callback _ h =>
    rw [eq_of_ite_some h]
    rfl
  | _ => rfl

end ScriptedHost

namespace Station

def restarted : List (Turn ScriptedHost) :=
  [⟨id, .stop⟩, ⟨fun world => { world with hookFault := some .hookAlreadyInstalled }, .start⟩,
    ⟨fun world => { world with hookFault := none }, .start⟩]

private theorem spares_restarted :
    ∀ t ∈ (⟨id, .start⟩ :: restarted : List (Turn ScriptedHost)),
      shortHost.Spares (fun _ => True) t.before := by
  simp [restarted, Host.Spares, shortHost, ScriptedHost.operations]

/-- After a session, a start that gets no hook and another start, a firing of the first session does
nothing, and neither does one of the start that failed. -/
theorem stale_firings_inert_after_restart :
    let first := (fresh shortSettings shortWorld).run shortHost [⟨id, .start⟩]
    let s := (fresh shortSettings shortWorld).run shortHost (⟨id, .start⟩ :: restarted)
    armings shortHost [⟨id, .start⟩] (fresh shortSettings shortWorld) = [1] ∧
    armings shortHost (⟨id, .start⟩ :: restarted) (fresh shortSettings shortWorld) = [1, 3, 5] ∧
    s.engine.started = true ∧
    occurrences shortHost renews restarted first = 3 ∧
    s.Unaffected (s.fireTagged shortHost 1) ∧
    s.Unaffected (s.fireTagged shortHost 3) ∧
    s.fireTagged shortHost 5 = s.fire shortHost := by
  intro first s
  have hone : armings shortHost [⟨id, .start⟩] (fresh shortSettings shortWorld) = [1] := by
    decide +kernel
  have hall : armings shortHost (⟨id, .start⟩ :: restarted) (fresh shortSettings shortWorld) =
      [1, 3, 5] := by decide +kernel
  have hstarted : s.engine.started = true := by decide +kernel
  have hrenews : occurrences shortHost renews restarted first = 3 := by decide +kernel
  have hfew : advances shortHost [⟨id, .start⟩] (fresh shortSettings shortWorld) +
      advances shortHost restarted first < 2 ^ 64 := by decide +kernel
  have hhost : shortHost.Generational fun _ => True := ScriptedHost.generational _
  have hid : shortHost.Spares (fun _ => True) id := fun _ h => ⟨h, rfl⟩
  obtain ⟨hiff, -⟩ := stale_firings_inert shortSettings shortWorld _ hhost trivial spares_restarted
  obtain ⟨-, hold⟩ := stale_firings_inert shortSettings shortWorld [⟨id, .start⟩] hhost trivial
    (fun t ht => spares_restarted t (List.mem_cons.mpr (.inl (List.mem_singleton.mp ht))))
  have hlater (t : Turn ScriptedHost) (ht : t ∈ restarted) :=
    spares_restarted t (List.mem_cons_of_mem _ ht)
  refine ⟨hone, hall, hstarted, hrenews, ?_, ?_, ?_⟩
  · exact hold 1 (by rw [hone]; exact List.mem_singleton.mpr rfl) restarted id hlater hid hfew
      (by rw [hrenews]; decide)
  · refine Classical.byContradiction fun haffected => ?_
    obtain ⟨-, hlast⟩ := (hiff id 3 hid).1.mp haffected
    rw [hall] at hlast
    cases hlast
  · exact (hiff id 5 hid).2 ⟨hstarted, by rw [hall]; rfl⟩

end Station

end AudioLink
