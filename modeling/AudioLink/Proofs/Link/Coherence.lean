import AudioLink.Proofs.Link.Accounts
import AudioLink.Proofs.Link.Sessions

/-!
# The state of an engine hangs together

Whatever has been asked of an engine, and however its surroundings have answered, it holds a hook
exactly while it is started, only a started slave is connected, all others have a tracker as new,
and its counters fit its connection: each connection but the present one has ended, and each packet
was at most one of the first of a connection and the first after a gap. While it is connected it
remembers the counter of the last packet of the session.
-/

namespace AudioLink

/-- The counters that follow the connection. -/
def Stats.contacts (stats : Stats) : Nat × Nat × Nat × Nat :=
  (stats.received, stats.gaps, stats.connects, stats.disconnects)

private theorem Sending.contacts {layout : Layout} {asks : Bool} {events : List Event}
    {count : Stats → Stats} (h : Sending layout asks events count) (stats : Stats) :
    (count stats).contacts = stats.contacts := by
  cases h <;> rfl

private theorem Tracker.lastSequence_onTick (tracker : Tracker) (period timeout : Nanos) :
    (tracker.onTick period timeout).2.lastSequence = tracker.lastSequence := by
  simp only [onTick]
  split
  · rfl
  · split <;> rfl

namespace Station

variable {W : Type} (host : Host W)

def counter? (s : Station W) : Call → Option UInt16
  | .inbound frame =>
    if s.engine.started = true ∧ s.role = .slave then
      (Frame.content? s.device.inbound frame).map fun packet => packet.1.counter
    else none
  | _ => none

/-- The counters of the packets that have come since the engine was last started, the first one
first, if those in `heard` came before the run. -/
def sessionCounters : List (Turn W) → List UInt16 → Station W → List UInt16
  | [], heard, _ => heard
  | t :: turns, heard, s =>
    let s' := s.turn host t
    sessionCounters turns
      (if s'.engine.started then heard ++ (s.counter? t.call).toList else []) s'

/-- What an entry means for the connection. -/
inductive Passage (s : Station W) (call : Call) (s' : Station W) : Prop where
  | kept (hcounter : s.counter? call = none)
      (hconnected : s'.engine.connected = s.engine.connected)
      (hlast : s.engine.connected = true →
        s'.engine.tracker.lastSequence = s.engine.tracker.lastSequence)
      (hcontacts : s'.engine.stats.contacts = s.engine.stats.contacts)
  | lost (hbefore : s.engine.connected = true) (hafter : s'.engine.connected = false)
      (hcontacts : s'.engine.stats.contacts = s.engine.stats.countDisconnect.contacts)
  | packet (counter : UInt16) (hcounter : s.counter? call = some counter)
      (hafter : s'.engine.connected = true)
      (hlast : s'.engine.tracker.lastSequence = counter)
      (hcontacts : s'.engine.stats.contacts =
        (arrivalStats s.engine.tracker counter s.engine.stats).contacts)

theorem counter?_of_ignored {s : Station W} {call : Call} (h : s.Ignores call) :
    s.counter? call = none := by
  cases call with
  | inbound frame =>
    simp only [counter?]
    split
    · rename_i hbusy
      have hframe : Frame.hasDiscriminator frame = false := by
        cases hframe : Frame.hasDiscriminator frame with
        | false => rfl
        | true => exact absurd ⟨hframe, hbusy⟩ h
      simp [Frame.content?, hframe]
    · rfl
  | _ => rfl

/-- Every entry leaves the connection as it is, ends it, or brings it a packet. -/
theorem perform_passage (call : Call) (s : Station W) :
    Passage s call (s.perform host call).2 := by
  obtain ⟨events, engine, heffect, hengine, -⟩ := perform_effect host call s
  rw [← hengine] at heffect
  generalize (s.perform host call).2 = s' at heffect hengine ⊢
  have hkept (hcounter : s.counter? call = none)
      (htracker : engine.tracker = s.engine.tracker)
      (hcontacts : engine.stats.contacts = s.engine.stats.contacts) : Passage s call s' := by
    refine .kept hcounter ?_ ?_ ?_
    · rw [hengine, Engine.connected, htracker, Engine.connected]
    · intro _
      rw [hengine, htracker]
    · rw [hengine, hcontacts]
  rw [hengine] at heffect
  cases heffect with
  | ignored h => exact hkept (counter?_of_ignored h) rfl rfl
  | stale h => exact hkept rfl rfl rfl
  | malformed cause h hrole hframe hdecode =>
    refine hkept ?_ rfl rfl
    simp [counter?, Frame.content?_of_error hdecode]
  | start h => cases h <;> exact hkept rfl rfl rfl
  | stopped h =>
    cases hconnected : s.engine.connected with
    | true =>
      refine .lost hconnected (by rw [hengine]; rfl) ?_
      rw [hengine, hconnected]
      rfl
    | false =>
      refine .kept rfl (by rw [hengine, hconnected]; rfl) ?_ ?_
      · intro h
        rw [hconnected] at h
        cases h
      · rw [hengine, hconnected]
        rfl
  | @fired _ sent count now h hcall hsent =>
    have hcounter : s.counter? call = none := by
      rcases hcall with rfl | rfl <;> rfl
    have hcount (stats : Stats) : (count stats).contacts = stats.contacts := by
      rcases hsent with ⟨-, hsent⟩ | ⟨-, -, rfl⟩
      · exact hsent.contacts stats
      · rfl
    obtain ⟨hwas, hnow⟩ := connected_onTick s
    cases hlosing : s.losing with
    | true =>
      rw [hlosing, Bool.not_true, Bool.and_false] at hnow
      refine .lost (hwas hlosing) (by rw [hengine]; exact hnow) ?_
      rw [hengine]
      exact (hcount _).trans (by rw [hlosing]; rfl)
    | false =>
      rw [hlosing, Bool.not_false, Bool.and_true] at hnow
      refine .kept hcounter (by rw [hengine]; exact hnow) ?_ ?_
      · intro _
        rw [hengine]
        exact Tracker.lastSequence_onTick _ _ _
      · rw [hengine]
        exact (hcount _).trans (by rw [hlosing]; rfl)
  | @packet _ header _ _ _ h hrole hcontent hsent =>
    refine .packet header.counter ?_ (by rw [hengine]; rfl) (by rw [hengine]; rfl) ?_
    · simp [counter?, h, hrole, hcontent]
    · rw [hengine]
      exact hsent.contacts _

/-- The counters fit the connection, and the last packet of those in `heard` is remembered. -/
structure Coherent (heard : List UInt16) (s : Station W) : Prop where
  still : s.Still
  ends : s.engine.stats.connects = s.engine.stats.disconnects + s.engine.connected.toNat
  gaps : s.engine.stats.gaps + s.engine.stats.connects ≤ s.engine.stats.received
  last : s.engine.connected = true → heard.getLast? = some s.engine.tracker.lastSequence

private theorem coherent_fresh (settings : Settings) (world : W) :
    (fresh settings world).Coherent [] := by
  refine ⟨still_fresh settings world, rfl, Nat.le_refl 0, ?_⟩
  intro h
  cases h

private theorem coherent_perform (call : Call) (heard : List UInt16) (s : Station W)
    (h : s.Coherent heard) :
    (s.perform host call).2.Coherent
      (if (s.perform host call).2.engine.started then heard ++ (s.counter? call).toList
        else []) := by
  have hstill := still_perform host call s h.still
  obtain ⟨-, hends, hgaps, hlast⟩ := h
  have hpassage := perform_passage host call s
  generalize (s.perform host call).2 = s' at hstill hpassage
  cases hpassage with
  | kept hcounter hconnected hsame hcontacts =>
    obtain ⟨hreceived, hgap, hconnects, hdisconnects⟩ :
        s'.engine.stats.received = s.engine.stats.received ∧
          s'.engine.stats.gaps = s.engine.stats.gaps ∧
          s'.engine.stats.connects = s.engine.stats.connects ∧
          s'.engine.stats.disconnects = s.engine.stats.disconnects := by
      simpa [Stats.contacts] using hcontacts
    refine ⟨hstill, ?_, ?_, ?_⟩
    · rw [hconnects, hdisconnects, hconnected, hends]
    · rw [hreceived, hgap, hconnects]
      exact hgaps
    · intro hafter
      rw [if_pos (hstill.of_connected hafter).1, hcounter, Option.toList_none, List.append_nil]
      rw [hconnected] at hafter
      rw [hsame hafter]
      exact hlast hafter
  | lost hbefore hafter hcontacts =>
    obtain ⟨hreceived, hgap, hconnects, hdisconnects⟩ :
        s'.engine.stats.received = s.engine.stats.received ∧
          s'.engine.stats.gaps = s.engine.stats.gaps ∧
          s'.engine.stats.connects = s.engine.stats.connects ∧
          s'.engine.stats.disconnects = s.engine.stats.disconnects + 1 := by
      simpa [Stats.contacts, Stats.countDisconnect] using hcontacts
    refine ⟨hstill, ?_, ?_, ?_⟩
    · rw [hconnects, hdisconnects, hafter, hends, hbefore]
      rfl
    · rw [hreceived, hgap, hconnects]
      exact hgaps
    · intro h
      rw [hafter] at h
      cases h
  | packet counter hcounter hafter hcounted hcontacts =>
    obtain ⟨hreceived, hgap, hconnects, hdisconnects⟩ :
        s'.engine.stats.received = s.engine.stats.received + 1 ∧
          s'.engine.stats.gaps =
            s.engine.stats.gaps + (s.engine.tracker.gap? counter).isSome.toNat ∧
          s'.engine.stats.connects = s.engine.stats.connects + (!s.engine.connected).toNat ∧
          s'.engine.stats.disconnects = s.engine.stats.disconnects := by
      simpa [Stats.contacts, arrivalStats_eq, Engine.connected] using hcontacts
    refine ⟨hstill, ?_, ?_, ?_⟩
    · rw [hconnects, hdisconnects, hafter, hends]
      cases s.engine.connected <;> rfl
    · rw [hreceived, hgap, hconnects]
      cases hconnected : s.engine.connected with
      | false =>
        have hnone : s.engine.tracker.gap? counter = none := by
          rw [Engine.connected] at hconnected
          simp [Tracker.gap?, hconnected]
        rw [hnone]
        simp
        omega
      | true =>
        have hone := (s.engine.tracker.gap? counter).isSome.toNat_le
        simp
        omega
    · intro _
      rw [if_pos (hstill.of_connected hafter).1, hcounter, Option.toList_some,
        List.getLast?_concat, hcounted]

theorem coherent_run (turns : List (Turn W)) (heard : List UInt16) (s : Station W)
    (h : s.Coherent heard) :
    (s.run host turns).Coherent (sessionCounters host turns heard s) := by
  induction turns generalizing heard s with
  | nil => exact h
  | cons t turns ih =>
    apply ih
    exact coherent_perform host t.call heard (s.meanwhile t.before)
      ⟨h.still, h.ends, h.gaps, h.last⟩

/-- In every state that an engine can come to: it is started exactly while it holds a hook; if it is
connected, it is started and a slave; if it is not started or is a master, its tracker is as new;
all connections but the present one have ended; no packet was counted both as the first of a
connection and as the first after a gap; and while connected it remembers the counter of the last
packet that could be read in this session. -/
theorem engine_coherent (settings : Settings) (world : W) (turns : List (Turn W)) :
    let s := (fresh settings world).run host turns
    let stats := s.engine.stats
    (s.engine.started = true ↔ ∃ handle, s.engine.hook = some handle) ∧
    (s.engine.connected = true → s.engine.started = true ∧ settings.role = .slave) ∧
    (s.engine.started = false ∨ settings.role = .master →
      s.engine.tracker = ⟨0, 0, 0, false⟩) ∧
    stats.connects = stats.disconnects + (if s.engine.connected then 1 else 0) ∧
    stats.gaps + stats.connects ≤ stats.received ∧
    (s.engine.connected = true →
      (sessionCounters host turns [] (fresh settings world)).getLast? =
        some s.engine.tracker.lastSequence) := by
  intro s stats
  have hcoherent : s.Coherent (sessionCounters host turns [] (fresh settings world)) :=
    coherent_run host turns [] _ (coherent_fresh settings world)
  have hstarted : s.engine.started = s.engine.hook.isSome :=
    (orderly_run host turns _ (orderly_fresh settings world)).started
  have hrole : s.role = settings.role := by
    rw [role, Engine.role, settings_run]
    rfl
  obtain ⟨hstill, hends, hgaps, hlast⟩ := hcoherent
  refine ⟨?_, ?_, ?_, ?_, hgaps, hlast⟩
  · rw [hstarted, Option.isSome_iff_exists]
  · intro hconnected
    rw [← hrole]
    exact hstill.of_connected hconnected
  · intro hidle
    rw [← hrole] at hidle
    exact hstill hidle
  · rw [hends]
    cases s.engine.connected <;> rfl

/-- Two packets are lost between two that come. -/
def gappedSession : List (Turn ScriptedHost) :=
  [⟨id, .start⟩, ⟨id, .inbound (silentFrame 9)⟩, ⟨id, .fire⟩,
    ⟨id, .inbound (silentFrame 12)⟩]

theorem engine_coherent_after_gap :
    let s := (fresh shortSettings shortWorld).run shortHost gappedSession
    let stopped := (fresh shortSettings shortWorld).run shortHost (gappedSession ++ [⟨id, .stop⟩])
    s.engine.connected = true ∧ s.engine.started = true ∧ s.engine.stats.gaps = 1 ∧
    sessionCounters shortHost gappedSession [] (fresh shortSettings shortWorld) = [9, 12] ∧
    s.engine.tracker.lastSequence = 12 ∧
    stopped.engine.started = false ∧ stopped.engine.tracker = ⟨0, 0, 0, false⟩ := by
  intro s stopped
  have hconnected : s.engine.connected = true := by decide +kernel
  have hcounters : sessionCounters shortHost gappedSession [] (fresh shortSettings shortWorld) =
      [9, 12] := by decide +kernel
  have hidle : stopped.engine.started = false := by decide +kernel
  obtain ⟨-, hslave, -, -, -, hlast⟩ :=
    engine_coherent shortHost shortSettings shortWorld gappedSession
  obtain ⟨-, -, hnew, -⟩ :=
    engine_coherent shortHost shortSettings shortWorld (gappedSession ++ [⟨id, .stop⟩])
  have htwelve := hlast hconnected
  rw [hcounters] at htwelve
  exact ⟨hconnected, (hslave hconnected).1, by decide +kernel, hcounters,
    (Option.some.inj htwelve).symm, hidle, hnew (.inl hidle)⟩

end Station

end AudioLink
