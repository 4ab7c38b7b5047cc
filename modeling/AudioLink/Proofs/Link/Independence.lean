import AudioLink.Proofs.Link.Liveness
import AudioLink.Proofs.Link.Sessions

/-!
# Independence of sessions

An engine reads neither its counters nor its history, and it reads its cadence only while it is
started, which sets the cadence anew. So an entry made on top of an earlier life does what it would
do without that life, and two engines that are not started go on alike in equal surroundings,
whatever they have been through.
-/

namespace AudioLink

instance : Add Stats where
  add first second :=
    ⟨first.sent + second.sent, first.received + second.received, first.gaps + second.gaps,
      first.malformed + second.malformed, first.sendFailures + second.sendFailures,
      first.connects + second.connects, first.disconnects + second.disconnects⟩

namespace Stats

theorem add_assoc (first second third : Stats) :
    first + second + third = first + (second + third) := by
  simp only [HAdd.hAdd, Add.add, mk.injEq]
  exact ⟨Nat.add_assoc _ _ _, Nat.add_assoc _ _ _, Nat.add_assoc _ _ _, Nat.add_assoc _ _ _,
    Nat.add_assoc _ _ _, Nat.add_assoc _ _ _, Nat.add_assoc _ _ _⟩

end Stats

namespace Station

variable {W : Type} (host : Host W)

/-- A station with the counters and the history of an earlier life under its own. -/
def atop (life : Stats × List Event) (s : Station W) : Station W :=
  ⟨{ s.engine with stats := life.1 + s.engine.stats }, s.world, s.history ++ life.2⟩

/-- The station without its life so far. -/
def bare (s : Station W) : Station W := ⟨{ s.engine with stats := .zero }, s.world, []⟩

theorem atop_bare (s : Station W) : s.bare.atop (s.engine.stats, s.history) = s := rfl

variable (life : Stats × List Event)

@[simp] theorem role_atop (s : Station W) : (s.atop life).role = s.role := rfl

@[simp] theorem device_atop (s : Station W) : (s.atop life).device = s.device := rfl

@[simp] theorem world_atop (s : Station W) : (s.atop life).world = s.world := rfl

@[simp] theorem started_atop (s : Station W) :
    (s.atop life).engine.started = s.engine.started := rfl

@[simp] theorem settings_atop (s : Station W) :
    (s.atop life).engine.settings = s.engine.settings := rfl

@[simp] theorem tracker_atop (s : Station W) :
    (s.atop life).engine.tracker = s.engine.tracker := rfl

private theorem announce_atop (peer : Option Device) (s : Station W) :
    (s.atop life).announce host peer = (s.announce host peer).atop life := by
  unfold announce
  cases host.connection <;> rfl

private theorem deliver_atop (block : Bytes) (s : Station W) :
    (s.atop life).deliver host block = (s.deliver host block).atop life := by
  unfold deliver
  cases host.deliver <;> rfl

private theorem demand_atop (s : Station W) :
    (s.atop life).demand host = ((s.demand host).1, (s.demand host).2.atop life) := by
  unfold demand
  cases host.demand with
  | none => rfl
  | some callback =>
    dsimp only [world_atop]
    cases (callback s.world).1 with
    | none => rfl
    | some block =>
      dsimp only
      rw [show (⟨(s.atop life).engine, (callback s.world).2,
        .demanded (some block) :: (s.atop life).history⟩ : Station W) =
          (⟨s.engine, (callback s.world).2, .demanded (some block) :: s.history⟩ :
            Station W).atop life from rfl, device_atop]
      split <;> rfl

theorem sendFrame_atop (header : Header) (samples : Option Bytes) (s : Station W) :
    (s.atop life).sendFrame host header samples =
      (s.sendFrame host header samples).atop life := by
  unfold sendFrame
  rw [device_atop]
  cases Frame.encode header samples s.device.outbound with
  | error cause => rfl
  | ok frame =>
    unfold transmit
    rw [world_atop]
    dsimp only
    cases (host.transmit frame s.world).1 <;> rfl

private theorem send_atop (s : Station W) : (s.atop life).send host = (s.send host).atop life := by
  unfold send nextHeader
  rw [demand_atop]
  dsimp only [world_atop]
  cases (host.process Header.zero (s.demand host).2.world).1 with
  | error cause => rfl
  | ok header =>
    exact sendFrame_atop host life header (s.demand host).1
      ⟨(s.demand host).2.engine, (host.process Header.zero (s.demand host).2.world).2,
        .process Header.zero (.ok header) :: (s.demand host).2.history⟩

private theorem checkGap_atop (counter : UInt16) (s : Station W) :
    (s.atop life).checkGap counter = (s.checkGap counter).atop life := by
  unfold checkGap
  rw [tracker_atop]
  cases s.engine.tracker.gap? counter <;> rfl

private theorem track_atop (counter : UInt16) (s : Station W) :
    (s.atop life).track host counter = (s.track host counter).atop life := by
  unfold track
  rw [tracker_atop]
  dsimp only
  split
  · exact announce_atop host life (some s.device)
      (((s.update fun engine =>
        { engine with tracker := s.engine.tracker.connect.2.record counter }).tally
          Stats.countConnect).note (.connected s.device))
  · rfl

private theorem accept_atop (frame : Bytes) (decoded : Frame.Decoded) (s : Station W) :
    (s.atop life).accept host frame decoded = (s.accept host frame decoded).atop life := by
  have hreceived : ((s.atop life).tally Stats.countReceived).note
      (.received decoded.header.counter) =
      ((s.tally Stats.countReceived).note (.received decoded.header.counter)).atop life := rfl
  have hshown (s : Station W) : (s.atop life).showHeader host decoded.header =
      (s.showHeader host decoded.header).atop life := rfl
  unfold accept
  dsimp only
  rw [hreceived, checkGap_atop, track_atop]
  cases decoded.samples frame with
  | none =>
    dsimp only
    rw [hshown, send_atop]
  | some block =>
    dsimp only
    rw [deliver_atop, hshown, send_atop]

private theorem receive_atop (frame : Bytes) (s : Station W) :
    (s.atop life).receive host frame = (s.receive host frame).atop life := by
  unfold receive
  rw [device_atop]
  cases Frame.decode frame s.device.inbound with
  | error cause => rfl
  | ok decoded => exact accept_atop host life frame decoded s

private theorem start_atop (s : Station W) :
    (s.atop life).start host = ((s.start host).1, (s.start host).2.atop life) := by
  unfold start
  rw [started_atop, settings_atop]
  split
  · rfl
  split
  · rfl
  unfold arm
  rw [world_atop]
  dsimp only
  cases (host.arm s.engine.settings.period s.world).1 with
  | error cause => rfl
  | ok _ =>
    unfold install
    dsimp only [beginCadence, record, update]
    cases (host.install Frame.hasDiscriminator
      (host.arm s.engine.settings.period s.world).2).1 <;> rfl

private theorem disconnect_atop (s : Station W) :
    (s.atop life).disconnect host = (s.disconnect host).atop life := by
  unfold disconnect
  rw [tracker_atop]
  dsimp only
  split
  · exact announce_atop host life none
      ((s.update fun engine => { engine with tracker := s.engine.tracker.disconnect.2 }).tally
        Stats.countDisconnect)
  · rfl

private theorem uninstall_atop (s : Station W) :
    (s.atop life).uninstall host = (s.uninstall host).atop life := by
  unfold uninstall
  rw [show (s.atop life).engine.hook = s.engine.hook from rfl]
  cases s.engine.hook <;> rfl

private theorem stop_atop (s : Station W) : (s.atop life).stop host = (s.stop host).atop life := by
  unfold stop
  rw [started_atop, show (s.atop life).cancel host = (s.cancel host).atop life from rfl,
    disconnect_atop, uninstall_atop]
  split <;> rfl

private theorem checkLiveness_atop (s : Station W) :
    (s.atop life).checkLiveness host = (s.checkLiveness host).atop life := by
  unfold checkLiveness
  rw [tracker_atop, settings_atop]
  dsimp only
  split
  · exact announce_atop host life none
      (((s.update fun engine =>
        { engine with
          tracker := (s.engine.tracker.onTick s.engine.settings.period
            s.engine.settings.timeout).2 }).tally Stats.countDisconnect).note
          (.timedOut s.device (s.engine.settings.timing.disconnectTimeout / 1000000)))
  · rfl
  · rfl

private theorem fire_atop (s : Station W) : (s.atop life).fire host = (s.fire host).atop life := by
  unfold fire
  rw [started_atop, checkLiveness_atop]
  dsimp only
  rw [role_atop, send_atop]
  split
  · split <;> rfl
  · rfl

/-- An entry answers, does and counts the same on top of any life. -/
theorem perform_atop (call : Call) (s : Station W) :
    (s.atop life).perform host call =
      ((s.perform host call).1, (s.perform host call).2.atop life) := by
  unfold perform
  cases call with
  | start =>
    dsimp only
    rw [start_atop]
  | stop =>
    dsimp only
    rw [stop_atop]
  | fire =>
    dsimp only
    rw [fire_atop]
  | fireTagged generation =>
    dsimp only
    unfold fireTagged
    rw [world_atop, fire_atop]
    split <;> rfl
  | inbound frame =>
    dsimp only
    unfold inbound
    rw [started_atop, role_atop, receive_atop]
    split
    · split <;> rfl
    · rfl

def retime (cadence : Cadence) (s : Station W) : Station W :=
  ⟨{ s.engine with cadence }, s.world, s.history⟩

private theorem inbound_of_idle (frame : Bytes) (s : Station W) (h : s.engine.started = false) :
    s.inbound host frame =
      (if Frame.hasDiscriminator frame then .handled else .passThrough, s) := by
  unfold inbound
  rw [h]
  split
  · rw [if_neg]
    exact fun hbusy => Bool.false_ne_true hbusy.1
  · rfl

private theorem perform_retime (cadence : Cadence) (call : Call) (s : Station W)
    (h : s.engine.started = false) :
    ∃ cadence',
      (s.retime cadence).perform host call =
        ((s.perform host call).1, (s.perform host call).2.retime cadence') ∧
      ((s.perform host call).2.engine.started = true →
        cadence' = (s.perform host call).2.engine.cadence) := by
  have hidle : (s.retime cadence).engine.started = false := h
  have hstopped (s' : Station W) (hs' : s'.engine = s.engine) :
      s'.engine.started = true → cadence = s'.engine.cadence := by
    intro hstarted
    rw [hs', h] at hstarted
    cases hstarted
  cases call with
  | start =>
    unfold perform start
    rw [show (s.retime cadence).engine.started = s.engine.started from rfl,
      show (s.retime cadence).engine.settings = s.engine.settings from rfl, h]
    rw [if_neg Bool.false_ne_true, if_neg Bool.false_ne_true]
    by_cases hperiod : s.engine.settings.period = 0
    · rw [if_pos hperiod, if_pos hperiod]
      exact ⟨cadence, rfl, hstopped _ rfl⟩
    rw [if_neg hperiod, if_neg hperiod]
    unfold arm
    rw [show (s.retime cadence).world = s.world from rfl]
    dsimp only
    cases (host.arm s.engine.settings.period s.world).1 with
    | error cause => exact ⟨cadence, rfl, hstopped _ rfl⟩
    | ok _ => exact ⟨_, rfl, fun _ => rfl⟩
  | stop =>
    unfold perform
    rw [stop_of_idle host _ hidle, stop_of_idle host s h]
    exact ⟨cadence, rfl, hstopped _ rfl⟩
  | fire =>
    unfold perform
    rw [fire_of_idle host _ hidle, fire_of_idle host s h]
    exact ⟨cadence, rfl, hstopped _ rfl⟩
  | fireTagged generation =>
    unfold perform fireTagged
    rw [show (s.retime cadence).world = s.world from rfl]
    dsimp only
    split
    · rw [fire_of_idle host _ hidle, fire_of_idle host s h]
      exact ⟨cadence, rfl, hstopped _ rfl⟩
    · exact ⟨cadence, rfl, hstopped _ rfl⟩
  | inbound frame =>
    unfold perform
    dsimp only
    rw [inbound_of_idle host frame _ hidle, inbound_of_idle host frame s h]
    exact ⟨cadence, rfl, hstopped _ rfl⟩

/-- Stations in equal surroundings whose engines differ at most in their counters and in a cadence
that is not in use. -/
structure Alike (s t : Station W) : Prop where
  world : t.world = s.world
  settings : t.engine.settings = s.engine.settings
  tracker : t.engine.tracker = s.engine.tracker
  hook : t.engine.hook = s.engine.hook
  started : t.engine.started = s.engine.started
  cadence : s.engine.started = true → t.engine.cadence = s.engine.cadence

/-- Two stations have gone on alike to two others: with the same calls to their surroundings, the
same answers and the same increments of all counters. -/
structure Together (s t s' t' : Station W) : Prop where
  alike : Alike s' t'
  calls : ∃ events, s'.history = events ++ s.history ∧ t'.history = events ++ t.history
  counted : ∃ gain : Stats, s'.engine.stats = s.engine.stats + gain ∧
    t'.engine.stats = t.engine.stats + gain

variable {s t : Station W}

theorem Alike.bare_eq (h : Alike s t) : t.bare = s.bare.retime t.engine.cadence := by
  obtain ⟨⟨settings, tracker, cadence, hook, started, stats⟩, world, history⟩ := t
  obtain ⟨rfl, rfl, rfl, rfl, rfl, -⟩ := h
  rfl

private theorem Alike.bare_eq_of_started (h : Alike s t) (hstarted : s.engine.started = true) :
    t.bare = s.bare := by
  rw [h.bare_eq, h.cadence hstarted]
  rfl

theorem Together.refl (h : Alike s t) : Together s t s t :=
  ⟨h, ⟨[], rfl, rfl⟩, ⟨.zero, rfl, rfl⟩⟩

theorem Together.trans {s' t' s'' t'' : Station W} (h : Together s t s' t')
    (h' : Together s' t' s'' t'') : Together s t s'' t'' := by
  obtain ⟨first, hs, ht⟩ := h.calls
  obtain ⟨second, hs', ht'⟩ := h'.calls
  obtain ⟨gain, hgain, hgain'⟩ := h.counted
  obtain ⟨more, hmore, hmore'⟩ := h'.counted
  refine ⟨h'.alike, ⟨second ++ first, ?_, ?_⟩, ⟨gain + more, ?_, ?_⟩⟩
  · rw [hs', hs, List.append_assoc]
  · rw [ht', ht, List.append_assoc]
  · rw [hmore, hgain, Stats.add_assoc]
  · rw [hmore', hgain', Stats.add_assoc]

private theorem together_perform (call : Call) (h : Alike s t) :
    (t.perform host call).1 = (s.perform host call).1 ∧
      Together s t (s.perform host call).2 (t.perform host call).2 := by
  have hs := perform_atop host (s.engine.stats, s.history) call s.bare
  have ht := perform_atop host (t.engine.stats, t.history) call t.bare
  rw [atop_bare] at hs ht
  -- Without their lives the stations are equal but for the cadence, and equal while started.
  obtain ⟨cadence, hretime, hcadence⟩ : ∃ cadence, t.bare.perform host call =
      ((s.bare.perform host call).1, (s.bare.perform host call).2.retime cadence) ∧
      ((s.bare.perform host call).2.engine.started = true →
        cadence = (s.bare.perform host call).2.engine.cadence) := by
    cases hstarted : s.engine.started with
    | false =>
      rw [h.bare_eq]
      exact perform_retime host _ call s.bare hstarted
    | true =>
      rw [h.bare_eq_of_started hstarted]
      exact ⟨_, rfl, fun _ => rfl⟩
  rw [hretime] at ht
  rw [hs, ht]
  exact ⟨rfl, ⟨rfl, rfl, rfl, rfl, rfl, hcadence⟩, ⟨_, rfl, rfl⟩, ⟨_, rfl, rfl⟩⟩

/-- What the entries of a run answer. -/
def outcomes : List (Turn W) → Station W → List Outcome
  | [], _ => []
  | t :: turns, s =>
    ((s.meanwhile t.before).perform host t.call).1 :: outcomes turns (s.turn host t)

theorem together_run (turns : List (Turn W)) {s t : Station W} (h : Alike s t) :
    outcomes host turns t = outcomes host turns s ∧
      Together s t (s.run host turns) (t.run host turns) := by
  induction turns generalizing s t with
  | nil => exact ⟨rfl, .refl h⟩
  | cons first turns ih =>
    have hmeanwhile : Alike (s.meanwhile first.before) (t.meanwhile first.before) :=
      ⟨congrArg first.before h.world, h.settings, h.tracker, h.hook, h.started, h.cadence⟩
    obtain ⟨hanswer, hfirst⟩ := together_perform host first.call hmeanwhile
    obtain ⟨hanswers, hrest⟩ := ih hfirst.alike
    refine ⟨?_, ?_⟩
    · rw [outcomes, outcomes]
      exact List.cons_eq_cons.mpr ⟨hanswer, hanswers⟩
    · exact Together.trans ⟨hfirst.alike, hfirst.calls, hfirst.counted⟩ hrest

private theorem Orderly.hook_of_idle {s : Station W} (horderly : s.Orderly)
    (h : s.engine.started = false) : s.engine.hook = none := by
  rw [horderly.started] at h
  exact Option.isNone_iff_eq_none.mp (Option.isSome_eq_false_iff.mp h)

private theorem alike_of_idle (settings : Settings) {world world' : W} {past past' : List (Turn W)}
    (h : ((fresh settings world).run host past).engine.started = false)
    (h' : ((fresh settings world').run host past').engine.started = false)
    (hworld : ((fresh settings world').run host past').world =
      ((fresh settings world).run host past).world) :
    Alike ((fresh settings world).run host past) ((fresh settings world').run host past') := by
  have hidle (world : W) (past : List (Turn W))
      (h : ((fresh settings world).run host past).engine.started = false) :
      ((fresh settings world).run host past).engine.tracker = .initial ∧
        ((fresh settings world).run host past).engine.hook = none :=
    ⟨still_run host past _ (still_fresh settings world) (.inl h),
      (orderly_run host past _ (orderly_fresh settings world)).hook_of_idle h⟩
  obtain ⟨htracker, hhook⟩ := hidle world past h
  obtain ⟨htracker', hhook'⟩ := hidle world' past' h'
  refine ⟨hworld, ?_, htracker'.trans htracker.symm, hhook'.trans hhook.symm, h'.trans h.symm, ?_⟩
  · rw [settings_run, settings_run]
    rfl
  · intro hstarted
    rw [h] at hstarted
    cases hstarted

private theorem alike_of_failed_start {s : Station W} {cause : SetupError}
    (h : (s.start host).1 = .error cause) (world : W) :
    (s.start host).2.engine.stats = s.engine.stats ∧
      Alike (s.meanwhile fun _ => world) ((s.start host).2.meanwhile fun _ => world) := by
  obtain ⟨events, hstarting, -⟩ := start_starting host s
  rw [h] at hstarting
  generalize (s.start host).2 = failed at hstarting
  obtain ⟨engine, world', history⟩ := failed
  have hbusy (hidle : s.engine.started = false) {cadence : Cadence} :
      s.engine.started = true → cadence = s.engine.cadence := by
    intro hstarted
    rw [hidle] at hstarted
    cases hstarted
  cases hstarting with
  | already hstarted => exact ⟨rfl, rfl, rfl, rfl, rfl, rfl, fun _ => rfl⟩
  | zeroPeriod hidle hperiod => exact ⟨rfl, rfl, rfl, rfl, rfl, rfl, hbusy hidle⟩
  | unarmed hidle hperiod cause => exact ⟨rfl, rfl, rfl, rfl, rfl, rfl, hbusy hidle⟩
  | unhooked hidle hperiod now cause => exact ⟨rfl, rfl, rfl, rfl, rfl, rfl, hbusy hidle⟩

/-- Engines of one configuration that are not started, in equal surroundings, go on together through
any run: they answer the same, make the same calls with the same answers, are connected and track
alike, and count the same on top of what they have counted. So does an engine after a start that
has failed, in whichever way, with the engine as it was before that start. -/
theorem sessions_independent (settings : Settings) (world world' : W)
    (past past' : List (Turn W)) :
    let s := (fresh settings world).run host past
    let s' := (fresh settings world').run host past'
    (s.engine.started = false → s'.engine.started = false → s'.world = s.world →
      ∀ more, outcomes host more s' = outcomes host more s ∧
        Together s s' (s.run host more) (s'.run host more)) ∧
    ∀ cause, (s.start host).1 = .error cause →
      (s.start host).2.engine.stats = s.engine.stats ∧
      ∀ surroundings more,
        let untried := s.meanwhile fun _ => surroundings
        let failed := (s.start host).2.meanwhile fun _ => surroundings
        outcomes host more failed = outcomes host more untried ∧
          Together untried failed (untried.run host more) (failed.run host more) := by
  intro s s'
  refine ⟨?_, ?_⟩
  · intro h h' hworld more
    exact together_run host more (alike_of_idle host settings h h' hworld)
  · intro cause hfailed
    refine ⟨(alike_of_failed_start host hfailed s.world).1, ?_⟩
    intro surroundings more untried failed
    exact together_run host more (alike_of_failed_start host hfailed surroundings).2

/-- The surroundings become as new, and a firing comes too late. -/
def renewal : Turn ScriptedHost := ⟨fun _ => shortWorld, .fire⟩

private theorem world_renewal (turns : List (Turn ScriptedHost)) (s : Station ScriptedHost)
    (h : (s.run shortHost turns).engine.started = false) :
    (s.run shortHost (turns ++ [renewal])).world = shortWorld := by
  have hidle : ((s.run shortHost turns).meanwhile fun _ => shortWorld).engine.started = false := h
  rw [run, List.foldl_append]
  change (((s.run shortHost turns).meanwhile fun _ => shortWorld).fire shortHost).world = _
  rw [fire_of_idle shortHost _ hidle]
  rfl

def finishedSession : List (Turn ScriptedHost) :=
  [⟨id, .start⟩, ⟨id, .inbound (silentFrame 9)⟩, ⟨id, .stop⟩]

def hookless (world : ScriptedHost) : ScriptedHost :=
  { world with
    timer := { world.timer with now := 900 }
    hookFault := some .hookAlreadyInstalled }

def failedStart : List (Turn ScriptedHost) := [⟨hookless, .start⟩]

theorem sessions_independent_after_failure :
    let s := (fresh shortSettings shortWorld).run shortHost (finishedSession ++ [renewal])
    let s' := (fresh shortSettings shortWorld).run shortHost (failedStart ++ [renewal])
    s.engine.started = false ∧ s'.engine.started = false ∧ s'.world = s.world ∧
      s.engine.stats ≠ s'.engine.stats ∧ s.engine.cadence ≠ s'.engine.cadence ∧
      Together s s' (s.run shortHost shortPast) (s'.run shortHost shortPast) ∧
      (s.run shortHost shortPast).engine.connected = true ∧
      (s'.run shortHost shortPast).engine.connected = true ∧
      let untried := (fresh shortSettings shortWorld).run shortHost [⟨hookless, .stop⟩]
      (untried.start shortHost).1 = .error .hookAlreadyInstalled ∧
        outcomes shortHost shortPast ((untried.start shortHost).2.meanwhile fun _ => shortWorld) =
          outcomes shortHost shortPast (untried.meanwhile fun _ => shortWorld) := by
  intro s s'
  have hidle : s.engine.started = false := by decide +kernel
  have hidle' : s'.engine.started = false := by decide +kernel
  have hworld : s'.world = s.world :=
    (world_renewal failedStart _ (by decide +kernel)).trans
      (world_renewal finishedSession _ (by decide +kernel)).symm
  obtain ⟨hmore, -⟩ := sessions_independent shortHost shortSettings shortWorld shortWorld
    (finishedSession ++ [renewal]) (failedStart ++ [renewal])
  have htogether : Together s s' (s.run shortHost shortPast) (s'.run shortHost shortPast) :=
    (hmore hidle hidle' hworld shortPast).2
  have hconnected : (s.run shortHost shortPast).engine.connected = true := by decide +kernel
  refine ⟨hidle, hidle', hworld, by decide +kernel, by decide +kernel, htogether, hconnected, ?_,
    ?_⟩
  · rw [Engine.connected, htogether.alike.tracker]
    exact hconnected
  · intro untried
    have hfailed : (untried.start shortHost).1 = .error .hookAlreadyInstalled := rfl
    obtain ⟨-, hstart⟩ := sessions_independent shortHost shortSettings shortWorld shortWorld
      [⟨hookless, .stop⟩] []
    exact ⟨hfailed, ((hstart _ hfailed).2 shortWorld shortPast).1⟩

end Station

end AudioLink
