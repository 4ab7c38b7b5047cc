import AudioLink.Proofs.Link.Run

/-!
# Sessions

The calls of an engine to its timer and its frame hook fall into episodes: a start that could not
arm, a start that armed and could not install and so cancelled again, and a session, which arms,
installs, rearms any number of times, cancels and gives back the very hook it was given. Only the
last session may still be open, and it is so exactly while the engine is started.
-/

namespace AudioLink

namespace Event

/-- Whether a call acquires, keeps or releases the timer or the hook. -/
def isResource : Event → Bool
  | arm _ _ | rearm _ | cancel | install _ _ | uninstall _ => true
  | _ => false

def isArming : Event → Bool
  | arm _ (.ok _) => true
  | _ => false

def isCancel : Event → Bool
  | cancel => true
  | _ => false

def acquired? : Event → Option Handle
  | install _ (.ok handle) => some handle
  | _ => none

def released? : Event → Option Handle
  | uninstall handle => some handle
  | _ => none

end Event

/-- The calls to the timer and the hook in a history, the first one first. -/
def resourceCalls (history : List Event) : List Event := (history.filter Event.isResource).reverse

private theorem resourceCalls_append (events history : List Event) :
    resourceCalls (events ++ history) = resourceCalls history ++ resourceCalls events := by
  simp [resourceCalls]

theorem resourceCalls_of_news {events : List Event}
    (h : ∀ event ∈ events, event.isNews = true) : resourceCalls events = [] := by
  unfold resourceCalls
  rw [List.reverse_eq_nil_iff, List.filter_eq_nil_iff]
  intro event hevent
  have hnews := h event hevent
  cases event <;> simp_all [Event.isNews, Event.isResource]

/-- What holds of all other events and of the calls to the timer and the hook holds throughout. -/
theorem forall_of_resourceCalls {P : Event → Prop} {events : List Event}
    (hothers : ∀ event, event.isResource = false → P event)
    (h : ∀ event ∈ resourceCalls events, P event) : ∀ event ∈ events, P event := by
  intro event hevent
  cases hresource : event.isResource with
  | false => exact hothers event hresource
  | true =>
    apply h
    rw [resourceCalls, List.mem_reverse, List.mem_filter]
    exact ⟨hevent, hresource⟩

/-- The calls of an open session. -/
def openCalls (period : Nanos) (handle : Handle) (rearms : List Nanos) : List Event :=
  .arm period (.ok ()) :: .install Frame.hasDiscriminator (.ok handle) :: rearms.map Event.rearm

/-- What one start leads to. -/
inductive Episode where
  | refused (cause : SetupError)
  | withdrawn (cause : SetupError)
  | session (handle : Handle) (rearms : List Nanos)

namespace Episode

def calls (period : Nanos) : Episode → List Event
  | refused cause => [.arm period (.error cause)]
  | withdrawn cause =>
    [.arm period (.ok ()), .install Frame.hasDiscriminator (.error cause), .cancel]
  | session handle rearms => openCalls period handle rearms ++ [.cancel, .uninstall handle]

end Episode

/-- The calls of an engine so far fall into closed episodes and, if it holds a hook, an open
session with that hook. -/
inductive Disciplined (period : Nanos) : Option Handle → List Event → Prop where
  | closed (done : List Episode) :
      Disciplined period none (done.flatMap (Episode.calls period))
  | pending (done : List Episode) (handle : Handle) (rearms : List Nanos) :
      Disciplined period (some handle)
        (done.flatMap (Episode.calls period) ++ openCalls period handle rearms)

namespace Disciplined

variable {period : Nanos}

private theorem exists_closed {calls : List Event} (h : Disciplined period none calls) :
    ∃ done : List Episode, calls = done.flatMap (Episode.calls period) := by
  cases h with
  | closed done => exact ⟨done, rfl⟩

private theorem exists_pending {handle : Handle} {calls : List Event}
    (h : Disciplined period (some handle) calls) :
    ∃ (done : List Episode) (rearms : List Nanos),
      calls = done.flatMap (Episode.calls period) ++ openCalls period handle rearms := by
  cases h with
  | pending done _ rearms => exact ⟨done, rearms, rfl⟩

private theorem episode (episode : Episode) {calls : List Event}
    (h : Disciplined period none calls) :
    Disciplined period none (calls ++ episode.calls period) := by
  cases h with
  | closed done =>
    have hnext : Disciplined period none ((done ++ [episode]).flatMap (Episode.calls period)) :=
      closed _
    simpa using hnext

private theorem begin (handle : Handle) {calls : List Event} (h : Disciplined period none calls) :
    Disciplined period (some handle)
      (calls ++ [.arm period (.ok ()), .install Frame.hasDiscriminator (.ok handle)]) := by
  cases h with
  | closed done => exact pending done handle []

theorem rearm (delay : Nanos) {handle : Handle} {calls : List Event}
    (h : Disciplined period (some handle) calls) :
    Disciplined period (some handle) (calls ++ [.rearm delay]) := by
  cases h with
  | pending done _ rearms =>
    have hnext : Disciplined period (some handle) (done.flatMap (Episode.calls period) ++
        openCalls period handle (rearms ++ [delay])) := pending _ _ _
    simpa [openCalls] using hnext

theorem finish {handle : Handle} {calls : List Event}
    (h : Disciplined period (some handle) calls) :
    Disciplined period none (calls ++ [.cancel, .uninstall handle]) := by
  cases h with
  | pending done _ rearms =>
    have hnext : Disciplined period none
        ((done ++ [Episode.session handle rearms]).flatMap (Episode.calls period)) := closed _
    simpa [Episode.calls] using hnext

end Disciplined

private theorem Sending.resourceCalls_nil {layout : Layout} {asks : Bool} {events : List Event}
    {count : Stats → Stats} (h : Sending layout asks events count) : resourceCalls events = [] := by
  cases h with
  | unready cause h => cases h <;> rfl
  | refused header cause h => cases h <;> rfl
  | sent header h => cases h <;> rfl

namespace Host

variable {W : Type} (host : Host W)

@[simp] theorem resourceCalls_delivery (block : Bytes) :
    resourceCalls (host.delivery block) = [] := by
  unfold delivery
  cases host.deliver <;> rfl

end Host

namespace Station

variable {W : Type} (host : Host W)

/-- A packet and its answer concern neither the timer nor the hook. -/
theorem resourceCalls_packet {layout : Layout} {asks : Bool} {sent : List Event}
    {count : Stats → Stats} (hsent : Sending layout asks sent count) (device : Device)
    (tracker : Tracker) (header : Header) (block : Bytes) :
    resourceCalls (sent ++ .received header :: (host.delivery block ++
      arrivalEvents host device tracker header.counter)) = [] := by
  rw [resourceCalls_append, hsent.resourceCalls_nil, List.append_nil, ← List.singleton_append,
    resourceCalls_append, resourceCalls_append,
    resourceCalls_of_news (news_arrivalEvents host _ _ _), Host.resourceCalls_delivery]
  rfl

/-- What a firing does before it rearms the timer concerns neither the timer nor the hook. -/
theorem resourceCalls_beforeRearm {sent : List Event} {count : Stats → Stats} (s : Station W)
    (hsent : s.role = .master ∧ Sending s.device.outbound host.demand.isSome sent count ∨
      s.role = .slave ∧ sent = [] ∧ count = id) :
    resourceCalls (sent ++ s.lossEvents host) = [] := by
  rw [resourceCalls_append, resourceCalls_of_news (s.news_lossEvents host), List.nil_append]
  rcases hsent with ⟨-, hsent⟩ | ⟨-, rfl, -⟩
  · exact hsent.resourceCalls_nil
  · rfl

/-- A firing rearms the timer once. -/
theorem resourceCalls_fired {sent : List Event} {count : Stats → Stats} (delay now : Nanos)
    (s : Station W)
    (hsent : s.role = .master ∧ Sending s.device.outbound host.demand.isSome sent count ∨
      s.role = .slave ∧ sent = [] ∧ count = id) :
    resourceCalls (.rearm delay :: .clock now :: (sent ++ s.lossEvents host)) =
      [.rearm delay] := by
  have hsplit : Event.rearm delay :: .clock now :: (sent ++ s.lossEvents host) =
      [.rearm delay, .clock now] ++ (sent ++ s.lossEvents host) := rfl
  rw [hsplit, resourceCalls_append, resourceCalls_beforeRearm host s hsent]
  rfl

private theorem resourceCalls_stop (s : Station W) (handle : Handle) (h : s.engine.started = true)
    (hhook : s.engine.hook = some handle) :
    resourceCalls (s.stop host).history =
      resourceCalls s.history ++ [.cancel, .uninstall handle] := by
  rw [history_stop host s h, hhook, ← List.singleton_append, resourceCalls_append,
    resourceCalls_append, resourceCalls_append, resourceCalls_of_news (s.news_partingEvents host),
    ← List.singleton_append, resourceCalls_append]
  simp only [List.append_assoc]
  rfl

/-- The engine is started exactly while it holds a hook, and its calls are in order. -/
structure Orderly (s : Station W) : Prop where
  started : s.engine.started = s.engine.hook.isSome
  calls : Disciplined s.engine.settings.period s.engine.hook (resourceCalls s.history)

theorem orderly_fresh (settings : Settings) (world : W) : (fresh settings world).Orderly :=
  ⟨rfl, .closed []⟩

private theorem orderly_perform (call : Call) (s : Station W) (h : s.Orderly) :
    (s.perform host call).2.Orderly := by
  obtain ⟨events, engine, heffect, hengine, hhistory⟩ := perform_effect host call s
  obtain ⟨hstarted, hcalls⟩ := h
  have hnext (hs : engine.started = engine.hook.isSome)
      (hc : Disciplined s.engine.settings.period engine.hook
        (resourceCalls s.history ++ resourceCalls events)) : (s.perform host call).2.Orderly := by
    refine ⟨by rw [hengine, hs], ?_⟩
    rw [settings_perform, hhistory, resourceCalls_append, hengine]
    exact hc
  have hkeep (hs : engine.started = s.engine.started) (hhook : engine.hook = s.engine.hook)
      (hevents : resourceCalls events = []) : (s.perform host call).2.Orderly := by
    apply hnext
    · rw [hs, hhook, hstarted]
    · rw [hevents, List.append_nil, hhook]
      exact hcalls
  have hidle (h : s.engine.started = false) :
      s.engine.hook = none ∧
        Disciplined s.engine.settings.period none (resourceCalls s.history) := by
    cases hhook : s.engine.hook with
    | none => exact ⟨rfl, hhook ▸ hcalls⟩
    | some handle => simp [hstarted, hhook] at h
  have hbusy (h : s.engine.started = true) : ∃ handle, s.engine.hook = some handle ∧
      Disciplined s.engine.settings.period (some handle) (resourceCalls s.history) := by
    cases hhook : s.engine.hook with
    | none => simp [hstarted, hhook] at h
    | some handle => exact ⟨handle, rfl, hhook ▸ hcalls⟩
  cases heffect with
  | ignored h => exact hkeep rfl rfl rfl
  | stale h => exact hkeep rfl rfl rfl
  | malformed cause h hrole hframe hdecode => exact hkeep rfl rfl rfl
  | packet h hrole hcontent hsent =>
    exact hkeep rfl rfl (resourceCalls_packet host hsent _ _ _ _)
  | start h =>
    cases h with
    | already h => exact hkeep rfl rfl rfl
    | zeroPeriod h hperiod => exact hkeep rfl rfl rfl
    | unarmed h hperiod cause =>
      obtain ⟨hhook, hc⟩ := hidle h
      exact hnext hstarted (hhook ▸ hc.episode (.refused cause))
    | unhooked h hperiod now cause =>
      obtain ⟨hhook, hc⟩ := hidle h
      exact hnext hstarted (hhook ▸ hc.episode (.withdrawn cause))
    | begun h hperiod now handle =>
      obtain ⟨-, hc⟩ := hidle h
      exact hnext rfl (hc.begin handle)
  | stopped h =>
    obtain ⟨handle, hhook, hc⟩ := hbusy h
    refine ⟨by rw [hengine]; rfl, ?_⟩
    have hstop : (s.perform host .stop).2 = s.stop host := rfl
    rw [settings_perform, hengine, hstop, resourceCalls_stop host s handle h hhook]
    exact hc.finish
  | @fired _ sent count now h hcall hsent =>
    obtain ⟨handle, hhook, hc⟩ := hbusy h
    apply hnext hstarted
    rw [hhook, resourceCalls_fired host _ now s hsent]
    exact hc.rearm _

private theorem orderly_turn (t : Turn W) (s : Station W) (h : s.Orderly) :
    (s.turn host t).Orderly :=
  orderly_perform host t.call (s.meanwhile t.before) ⟨h.started, h.calls⟩

theorem orderly_run (turns : List (Turn W)) (s : Station W) (h : s.Orderly) :
    (s.run host turns).Orderly := run_invariant host (orderly_turn host) turns s h

end Station

/-- Every arming is cancelled once, and the hooks acquired are given back one by one. -/
structure Balanced (calls : List Event) : Prop where
  timer : calls.countP Event.isArming = calls.countP Event.isCancel
  hooks : calls.filterMap Event.acquired? = calls.filterMap Event.released?

theorem Balanced.append {first second : List Event} (h : Balanced first) (h' : Balanced second) :
    Balanced (first ++ second) := by
  constructor
  · rw [List.countP_append, List.countP_append, h.timer, h'.timer]
  · rw [List.filterMap_append, List.filterMap_append, h.hooks, h'.hooks]

private theorem balanced_session (period : Nanos) (handle : Handle) (rearms : List Nanos) :
    Balanced (openCalls period handle rearms ++ [.cancel, .uninstall handle]) := by
  have hplain : (rearms.map Event.rearm).countP Event.isArming = 0 ∧
      (rearms.map Event.rearm).countP Event.isCancel = 0 ∧
      (rearms.map Event.rearm).filterMap Event.acquired? = [] ∧
      (rearms.map Event.rearm).filterMap Event.released? = [] := by
    induction rearms with
    | nil => exact ⟨rfl, rfl, rfl, rfl⟩
    | cons delay rearms ih => exact ih
  obtain ⟨harm, hcancel, hacquired, hreleased⟩ := hplain
  have hcalls : openCalls period handle rearms ++ [.cancel, .uninstall handle] =
      [.arm period (.ok ()), .install Frame.hasDiscriminator (.ok handle)] ++
        (rearms.map Event.rearm ++ [.cancel, .uninstall handle]) := rfl
  rw [hcalls]
  constructor
  · simp only [List.countP_append, harm, hcancel]
    rfl
  · simp only [List.filterMap_append, hacquired, hreleased]
    rfl

private theorem balanced_episodes (period : Nanos) (done : List Episode) :
    Balanced (done.flatMap (Episode.calls period)) := by
  induction done with
  | nil => exact ⟨rfl, rfl⟩
  | cons episode done ih =>
    rw [List.flatMap_cons]
    apply Balanced.append _ ih
    cases episode with
    | refused cause => exact ⟨rfl, rfl⟩
    | withdrawn cause => exact ⟨rfl, rfl⟩
    | session handle rearms => exact balanced_session period handle rearms

namespace Station

variable {W : Type} (host : Host W)

/-- Whatever the surroundings do and answer, the calls of an engine to its timer and its hook fall
into closed episodes, with an open session behind them exactly while the engine is started; when
the engine is dropped, that session is closed, and nothing remains armed or installed. -/
theorem resourceCalls_run (settings : Settings) (world : W) (turns : List (Turn W))
    (last : W → W) :
    let s := (fresh settings world).run host turns
    let dropped := s.turn host ⟨last, .stop⟩
    ∃ (done : List Episode) (current : Option (Handle × List Nanos)),
      resourceCalls s.history = done.flatMap (Episode.calls settings.period) ++
        (match current with
          | some (handle, rearms) => openCalls settings.period handle rearms
          | none => []) ∧
      s.engine.started = current.isSome ∧
      resourceCalls dropped.history =
        (done ++ (current.map fun c => Episode.session c.1 c.2).toList).flatMap
          (Episode.calls settings.period) ∧
      Balanced (resourceCalls dropped.history) := by
  intro s dropped
  have horderly : s.Orderly := orderly_run host turns _ (orderly_fresh settings world)
  have hsettings : s.engine.settings = settings := settings_run host turns _
  obtain ⟨hstarted, hcalls⟩ := horderly
  rw [hsettings] at hcalls
  cases hhook : s.engine.hook with
  | none =>
    rw [hhook] at hcalls hstarted
    obtain ⟨done, hdone⟩ := hcalls.exists_closed
    have hdropped : dropped = s.meanwhile last := stop_of_idle host (s.meanwhile last) hstarted
    have hsame : resourceCalls dropped.history = resourceCalls s.history := by
      rw [hdropped]
      rfl
    have hclosed : resourceCalls dropped.history = done.flatMap (Episode.calls settings.period) :=
      hsame.trans hdone
    refine ⟨done, none, ?_, hstarted, ?_, hclosed ▸ balanced_episodes settings.period done⟩
    · simp [hdone]
    · simp [hclosed]
  | some handle =>
    rw [hhook] at hcalls hstarted
    obtain ⟨done, rearms, hdone⟩ := hcalls.exists_pending
    have hclosed : resourceCalls dropped.history =
        (done ++ [Episode.session handle rearms]).flatMap (Episode.calls settings.period) := by
      have hstop := resourceCalls_stop host (s.meanwhile last) handle hstarted hhook
      have hdropped : dropped = (s.meanwhile last).stop host := rfl
      have hsame : resourceCalls (s.meanwhile last).history = resourceCalls s.history := rfl
      rw [hdropped, hstop, hsame, hdone]
      simp [Episode.calls]
    refine ⟨done, some (handle, rearms), hdone, hstarted, hclosed, ?_⟩
    exact hclosed ▸ balanced_episodes settings.period _

end Station

end AudioLink
