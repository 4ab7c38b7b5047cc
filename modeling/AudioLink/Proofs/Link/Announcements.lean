import AudioLink.Proofs.Link.Ledger
import AudioLink.Proofs.Link.Liveness

/-!
# What the pipeline is told

An engine tells its pipeline of a peer, of the end of a connection, and of every block that comes
in. The announcements alternate, beginning with one of a peer, and blocks come only between such an
announcement and the next end. The counters of the engine and its connection agree with what was
told, and an engine that has been stopped has nothing left to take back.
-/

namespace AudioLink

open History

inductive Tiding where
  | connected (device : Device)
  | disconnected
  | delivered (block : Bytes)
  deriving DecidableEq

@[simp] def Tiding.announcement? : Tiding → Option Bool
  | connected _ => some true
  | disconnected => some false
  | delivered _ => none

@[simp] def Event.tiding? : Event → Option Tiding
  | connected device => some (.connected device)
  | disconnected => some .disconnected
  | delivered block => some (.delivered block)
  | _ => none

/-- What a history has told the pipeline, the first tiding first. -/
def tidings (history : List Event) : List Tiding := observed Event.tiding? history

/-- The announcements among some tidings: of a peer, or of the end of a connection. -/
def announcements (told : List Tiding) : List Bool := told.filterMap Tiding.announcement?

private theorem tidings_append (events history : List Event) :
    tidings (events ++ history) = tidings history ++ tidings events :=
  observed_append _ events history

@[simp] theorem tidings_cons (event : Event) (history : List Event) :
    tidings (event :: history) = tidings history ++ event.tiding?.toList :=
  observed_cons _ event history

@[simp] theorem tidings_nil : tidings [] = [] := rfl

@[simp] theorem announcements_append (first second : List Tiding) :
    announcements (first ++ second) = announcements first ++ announcements second :=
  List.filterMap_append

@[simp] theorem announcements_nil : announcements [] = [] := rfl

@[simp] theorem announcements_cons (tiding : Tiding) (told : List Tiding) :
    announcements (tiding :: told) = tiding.announcement?.toList ++ announcements told := by
  cases tiding <;> rfl

/-- The tidings that an engine may have given, and whether a peer is connected after them. -/
inductive Told (device : Device) : Bool → List Tiding → Prop where
  | nothing : Told device false []
  | connected {told : List Tiding} (h : Told device false told) :
      Told device true (told ++ [.connected device])
  | delivered {told : List Tiding} (block : Bytes) (h : Told device true told) :
      Told device true (told ++ [.delivered block])
  | disconnected {told : List Tiding} (h : Told device true told) :
      Told device false (told ++ [.disconnected])

/-- The first `n` of `true, false, true, ...` -/
def alternation (n : Nat) : List Bool := (List.range n).map fun k => decide (k % 2 = 0)

private theorem alternation_succ (n : Nat) :
    alternation (n + 1) = alternation n ++ [decide (n % 2 = 0)] := by
  simp [alternation, List.range_succ]

private theorem eq_of_getElem?_alternation {n k : Nat} {b : Bool}
    (h : (alternation n)[k]? = some b) :
    b = decide (k % 2 = 0) := by
  rw [alternation, List.getElem?_map, Option.map_eq_some_iff] at h
  obtain ⟨j, hj, rfl⟩ := h
  obtain ⟨hlt, rfl⟩ := List.getElem?_eq_some_iff.mp hj
  rw [List.getElem_range]

private theorem split_of_snoc {α : Type} {list before after : List α} {x y : α}
    (h : list ++ [x] = before ++ y :: after) :
    list = before ∧ x = y ∨ ∃ rest, list = before ++ y :: rest := by
  rcases List.eq_nil_or_concat after with rfl | ⟨rest, z, rfl⟩
  · obtain ⟨hlist, hxy⟩ := List.append_inj' h rfl
    exact .inl ⟨hlist, List.singleton_inj.mp hxy⟩
  · rw [List.concat_eq_append, ← List.cons_append, ← List.append_assoc] at h
    exact .inr ⟨rest, (List.append_inj' h rfl).1⟩

namespace Told

variable {device : Device} {connected : Bool} {told : List Tiding}

private theorem announcements_eq (h : Told device connected told) :
    ∃ n, announcements told = alternation n ∧ connected = decide (n % 2 = 1) := by
  induction h with
  | nothing => exact ⟨0, rfl, rfl⟩
  | connected _ ih =>
    obtain ⟨n, htold, hn⟩ := ih
    have heven : n % 2 = 0 := by
      have : n % 2 ≠ 1 := of_decide_eq_false hn.symm
      omega
    refine ⟨n + 1, ?_, (decide_eq_true (by omega)).symm⟩
    rw [announcements_append, htold, alternation_succ, decide_eq_true heven]
    rfl
  | delivered block _ ih =>
    simpa using ih
  | disconnected _ ih =>
    obtain ⟨n, htold, hn⟩ := ih
    have hodd : n % 2 = 1 := of_decide_eq_true hn.symm
    refine ⟨n + 1, ?_, (decide_eq_false (by omega)).symm⟩
    rw [announcements_append, htold, alternation_succ, decide_eq_false (by omega)]
    rfl

private theorem connected_iff (h : Told device connected told) :
    connected = true ↔ (announcements told).getLast? = some true := by
  obtain ⟨n, htold, hn⟩ := h.announcements_eq
  rw [htold, hn, decide_eq_true_iff]
  cases n with
  | zero => simp [alternation]
  | succ n =>
    rw [alternation_succ, List.getLast?_concat, Option.some_inj, decide_eq_true_iff]
    omega

private theorem getLast?_of_delivered (h : Told device connected told) {before after : List Tiding}
    {block : Bytes} (hsplit : told = before ++ .delivered block :: after) :
    (announcements before).getLast? = some true := by
  induction h generalizing after with
  | nothing => simp at hsplit
  | connected _ ih =>
    rcases split_of_snoc hsplit with ⟨-, hlast⟩ | ⟨rest, hrest⟩
    · cases hlast
    · exact ih hrest
  | disconnected _ ih =>
    rcases split_of_snoc hsplit with ⟨-, hlast⟩ | ⟨rest, hrest⟩
    · cases hlast
    · exact ih hrest
  | delivered last h ih =>
    rcases split_of_snoc hsplit with ⟨rfl, -⟩ | ⟨rest, hrest⟩
    · exact h.connected_iff.mp rfl
    · exact ih hrest

private theorem count_true (h : Told device connected told) :
    (announcements told).count true = (announcements told).count false + connected.toNat := by
  induction h with
  | nothing => rfl
  | connected _ ih => simpa using ih
  | delivered block _ ih => simpa using ih
  | disconnected _ ih => simpa using ih

end Told

private theorem Sending.tidings_nil {layout : Layout} {asks : Bool} {events : List Event}
    {count : Stats → Stats} (h : Sending layout asks events count) : tidings events = [] := by
  cases h with
  | unready cause h => cases h <;> rfl
  | refused header cause h => cases h <;> rfl
  | sent header h => cases h <;> rfl

private theorem Starting.tidings_nil {engine engine' : Engine} {outcome : Except SetupError Unit}
    {events : List Event} (h : Starting engine outcome events engine') : tidings events = [] := by
  cases h <;> rfl

theorem Sending.connects {layout : Layout} {asks : Bool} {events : List Event}
    {count : Stats → Stats} (h : Sending layout asks events count) (stats : Stats) :
    (count stats).connects = stats.connects ∧ (count stats).disconnects = stats.disconnects := by
  cases h <;> exact ⟨rfl, rfl⟩

namespace Host

variable {W : Type} (host : Host W)

/-- Someone listens to the announcements and takes the blocks. -/
structure Informs : Prop where
  connection : host.connection.isSome = true
  deliver : host.deliver.isSome = true

variable {host}

private theorem Informs.tidings_announcement (h : host.Informs) (peer : Option Device) :
    tidings (host.announcement peer) =
      [match peer with
        | some device => .connected device
        | none => .disconnected] := by
  unfold announcement
  rw [if_pos h.connection]
  cases peer <;> rfl

private theorem Informs.tidings_delivery (h : host.Informs) (block : Bytes) :
    tidings (host.delivery block) = [.delivered block] := by
  rw [delivery, if_pos h.deliver]
  rfl

end Host

namespace Station

variable {W : Type} {host : Host W}

private theorem tidings_arrivalEvents (hinforms : host.Informs) (device : Device)
    (tracker : Tracker) (counter : UInt16) :
    tidings (arrivalEvents host device tracker counter) =
      if tracker.connected then [] else [.connected device] := by
  have hnews := hinforms.tidings_announcement (some device)
  unfold arrivalEvents
  cases tracker.gap? counter <;> cases tracker.connected <;>
    simp [tidings_append, hnews]

private theorem tidings_lossEvents (hinforms : host.Informs) (s : Station W) :
    tidings (s.lossEvents host) = if s.losing then [.disconnected] else [] := by
  unfold lossEvents
  split
  · rw [tidings_append, hinforms.tidings_announcement]
    rfl
  · rfl

private theorem tidings_partingEvents (hinforms : host.Informs) (s : Station W) :
    tidings (s.partingEvents host) = if s.engine.connected then [.disconnected] else [] := by
  unfold partingEvents
  split
  · exact hinforms.tidings_announcement none
  · rfl

private theorem tidings_packet (hinforms : host.Informs) {frame block : Bytes} {header : Header}
    (s : Station W) (hstarted : s.engine.started = true) (hrole : s.role = .slave)
    (hcontent : Frame.content? s.device.inbound frame = some (header, block)) :
    tidings (s.perform host (.inbound frame)).2.history =
      tidings s.history ++ (if s.engine.connected then [] else [.connected s.device]) ++
        [.delivered block] := by
  obtain ⟨events, engine, heffect, -, hhistory⟩ := perform_effect host (.inbound frame) s
  rw [hhistory, tidings_append, List.append_assoc]
  congr 1
  cases heffect with
  | ignored h =>
    exact absurd ⟨Frame.hasDiscriminator_of_content? hcontent, hstarted, hrole⟩ h
  | fired _ _ hcall _ => rcases hcall with hcall | hcall <;> cases hcall
  | malformed cause _ _ _ hdecode =>
    rw [Frame.content?_of_error hdecode] at hcontent
    cases hcontent
  | packet _ _ hcontent' hsent =>
    rw [hcontent] at hcontent'
    cases hcontent'
    rw [tidings_append, hsent.tidings_nil, List.append_nil, tidings_cons, tidings_append,
      tidings_arrivalEvents hinforms, hinforms.tidings_delivery]
    exact List.append_nil _

/-- What an entry means for the pipeline. -/
inductive Telling (s : Station W) (call : Call) (s' : Station W) : Prop
  | nothing (htold : tidings s'.history = tidings s.history)
      (hconnected : s'.engine.connected = s.engine.connected)
      (hconnects : s'.engine.stats.connects = s.engine.stats.connects)
      (hdisconnects : s'.engine.stats.disconnects = s.engine.stats.disconnects)
  | parting (hbefore : s.engine.connected = true)
      (htold : tidings s'.history = tidings s.history ++ [.disconnected])
      (hconnected : s'.engine.connected = false)
      (hconnects : s'.engine.stats.connects = s.engine.stats.connects)
      (hdisconnects : s'.engine.stats.disconnects = s.engine.stats.disconnects + 1)
  | packet (hhears : s.hears call = true) (block : Bytes)
      (htold : tidings s'.history = tidings s.history ++
        (if s.engine.connected then [] else [.connected s.device]) ++ [.delivered block])
      (hconnected : s'.engine.connected = true)
      (hconnects : s'.engine.stats.connects =
        s.engine.stats.connects + if s.engine.connected then 0 else 1)
      (hdisconnects : s'.engine.stats.disconnects = s.engine.stats.disconnects)

private theorem perform_telling (hinforms : host.Informs) (call : Call) (s : Station W) :
    Telling s call (s.perform host call).2 := by
  obtain ⟨events, engine, heffect, hengine, hhistory⟩ := perform_effect host call s
  have htidings := tidings_append events s.history
  rw [← hhistory] at htidings
  have hnothing (hevents : tidings events = [])
      (hconnected : engine.connected = s.engine.connected)
      (hstats : engine.stats.connects = s.engine.stats.connects ∧
        engine.stats.disconnects = s.engine.stats.disconnects) :
      Telling s call (s.perform host call).2 := by
    rw [hevents, List.append_nil] at htidings
    exact .nothing htidings (hengine ▸ hconnected) (hengine ▸ hstats.1) (hengine ▸ hstats.2)
  cases heffect with
  | ignored h => exact hnothing rfl rfl ⟨rfl, rfl⟩
  | stale h => exact hnothing rfl rfl ⟨rfl, rfl⟩
  | malformed cause h hrole hframe hdecode => exact hnothing rfl rfl ⟨rfl, rfl⟩
  | start h =>
    refine hnothing h.tidings_nil ?_ ?_
    · cases h <;> rfl
    · rw [h.engine.2]
      exact ⟨rfl, rfl⟩
  | stopped h =>
    have hevents : tidings (.note (.stopped s.role) ::
        ((s.engine.hook.map Event.uninstall).toList ++ (s.partingEvents host ++ [.cancel]))) =
        tidings (s.partingEvents host) := by
      cases s.engine.hook <;> simp [tidings_append]
    rw [tidings_partingEvents hinforms] at hevents
    cases hconnected : s.engine.connected with
    | false =>
      rw [hconnected] at hevents hnothing
      exact hnothing hevents rfl ⟨rfl, rfl⟩
    | true =>
      rw [hevents, hconnected] at htidings
      refine .parting hconnected htidings ?_ ?_ ?_
      all_goals
        rw [hengine, hconnected]
        rfl
  | @fired _ sent count now h hcall hsent =>
    have hsent : tidings sent = [] ∧ ∀ stats : Stats, (count stats).connects = stats.connects ∧
        (count stats).disconnects = stats.disconnects := by
      rcases hsent with ⟨-, hsent⟩ | ⟨-, rfl, rfl⟩
      · exact ⟨hsent.tidings_nil, hsent.connects⟩
      · exact ⟨rfl, fun _ => ⟨rfl, rfl⟩⟩
    obtain ⟨hwas, hnow⟩ := connected_onTick s
    have hevents : tidings (.rearm (s.engine.cadence.delay now) :: .clock now ::
        (sent ++ s.lossEvents host)) = if s.losing then [.disconnected] else [] := by
      simp [tidings_append, Event.tiding?, hsent.1, tidings_lossEvents hinforms]
    cases hlosing : s.losing with
    | false =>
      rw [hlosing] at hevents hnothing hnow
      rw [Bool.not_false, Bool.and_true] at hnow
      exact hnothing hevents hnow (hsent.2 _)
    | true =>
      rw [hlosing] at hnow
      rw [hevents, hlosing] at htidings
      refine .parting (hwas hlosing) htidings ?_ ?_ ?_
      · rw [hengine]
        exact hnow.trans (Bool.and_false _)
      · rw [hengine]
        exact (hsent.2 _).1.trans (by rw [hlosing]; rfl)
      · rw [hengine]
        exact (hsent.2 _).2.trans (by rw [hlosing]; rfl)
  | @packet frame header block sent count h hrole hcontent hsent =>
    have hcount := hsent.connects (arrivalStats s.engine.tracker header.counter s.engine.stats)
    have hhears : s.hears (.inbound frame) = true := by
      simp [hears, h, Call.isPacket, hcontent]
    refine .packet hhears block (tidings_packet hinforms s h hrole hcontent) ?_ ?_ ?_
    · rw [hengine]
      rfl
    · rw [hengine]
      refine hcount.1.trans ?_
      unfold arrivalStats Engine.connected
      cases (s.engine.tracker.gap? header.counter).isSome <;>
        cases s.engine.tracker.connected <;> rfl
    · rw [hengine]
      refine hcount.2.trans ?_
      unfold arrivalStats
      cases (s.engine.tracker.gap? header.counter).isSome <;>
        cases s.engine.tracker.connected <;> rfl

/-- What an engine has told agrees with its connection and its counters. -/
structure Frank (s : Station W) : Prop where
  told : Told s.device s.engine.connected (tidings s.history)
  connects : (announcements (tidings s.history)).count true = s.engine.stats.connects
  disconnects : (announcements (tidings s.history)).count false = s.engine.stats.disconnects

private theorem frank_fresh (settings : Settings) (world : W) : (fresh settings world).Frank :=
  ⟨.nothing, rfl, rfl⟩

private theorem frank_perform (hinforms : host.Informs) (call : Call) (s : Station W)
    (h : s.Frank) :
    (s.perform host call).2.Frank := by
  obtain ⟨htold, hconnects, hdisconnects⟩ := h
  cases perform_telling hinforms call s with
  | nothing hsame hconnected hc hd =>
    constructor
    · rw [device_perform, hconnected, hsame]
      exact htold
    · rw [hsame, hconnects, hc]
    · rw [hsame, hdisconnects, hd]
  | parting hbefore hmore hconnected hc hd =>
    constructor
    · rw [device_perform, hconnected, hmore]
      rw [hbefore] at htold
      exact htold.disconnected
    · rw [hmore, announcements_append, List.count_append, hconnects, hc]
      rfl
    · rw [hmore, announcements_append, List.count_append, hdisconnects, hd]
      rfl
  | packet hhears block hmore hconnected hc hd =>
    constructor
    · rw [device_perform, hconnected, hmore]
      cases hbefore : s.engine.connected with
      | false =>
        rw [hbefore] at htold
        exact htold.connected.delivered block
      | true =>
        rw [hbefore] at htold
        rw [if_pos rfl, List.append_nil]
        exact htold.delivered block
    · rw [hmore, hc, ← hconnects]
      cases s.engine.connected <;> simp
    · rw [hmore, hd, ← hdisconnects]
      cases s.engine.connected <;> simp

theorem frank_run (hinforms : host.Informs) (turns : List (Turn W)) (s : Station W)
    (h : s.Frank) : (s.run host turns).Frank :=
  run_invariant host (P := Frank)
    (fun t s h => frank_perform hinforms t.call (s.meanwhile t.before)
      ⟨h.told, h.connects, h.disconnects⟩) turns s h

private theorem tidings_run_of_unheard (hinforms : host.Informs) (turns : List (Turn W))
    (s : Station W) (h : s.engine.connected = false)
    (hunheard : occurrences host hears turns s = 0) :
    tidings (s.run host turns).history = tidings s.history := by
  induction turns generalizing s with
  | nil => rfl
  | cons t turns ih =>
    rw [occurrences, Nat.add_eq_zero_iff] at hunheard
    obtain ⟨hfirst, hrest⟩ := hunheard
    have hdeaf : (s.meanwhile t.before).hears t.call = false := by
      cases hhears : (s.meanwhile t.before).hears t.call with
      | false => rfl
      | true => simp [hhears] at hfirst
    rw [run_cons]
    cases perform_telling hinforms t.call (s.meanwhile t.before) with
    | nothing hsame hconnected _ _ => exact (ih _ (hconnected.trans h) hrest).trans hsame
    | parting hbefore _ _ _ _ =>
      rw [engine_meanwhile, h] at hbefore
      cases hbefore
    | packet hhears _ _ _ _ _ =>
      rw [hdeaf] at hhears
      cases hhears

private theorem connected_stop (change : W → W) (s : Station W) (h : s.Still) :
    (s.turn host ⟨change, .stop⟩).engine.connected = false := by
  have hstill : (s.turn host ⟨change, .stop⟩).Still :=
    still_perform host .stop (s.meanwhile change) h
  cases hconnected : (s.turn host ⟨change, .stop⟩).engine.connected with
  | false => rfl
  | true =>
    have hstarted := (hstill.of_connected hconnected).1
    cases hbefore : s.engine.started with
    | false =>
      have hidle : s.turn host ⟨change, .stop⟩ = s.meanwhile change :=
        stop_of_idle host (s.meanwhile change) hbefore
      rw [hidle, engine_meanwhile, hbefore] at hstarted
      cases hstarted
    | true =>
      have hstop : (s.turn host ⟨change, .stop⟩).engine = _ :=
        engine_stop host (s.meanwhile change) hbefore
      rw [hstop] at hstarted
      cases hstarted

/-- If someone is told, the announcements of a run alternate, and the last one says whether a peer
is connected. Blocks come only while it announces a peer, and each packet is delivered, after its
peer if that is new. The counters count the announcements. A stop, which also ends an engine that is
dropped, takes back the last peer, and nothing more is told before another packet is heard. -/
theorem announcements_alternate (settings : Settings) (world : W) (turns : List (Turn W))
    (hinforms : host.Informs) :
    let s := (fresh settings world).run host turns
    let told := tidings s.history
    (∀ k peer, (announcements told)[k]? = some peer → peer = decide (k % 2 = 0)) ∧
    (s.engine.connected = true ↔ (announcements told).getLast? = some true) ∧
    (∀ before block after, told = before ++ .delivered block :: after →
      (announcements before).getLast? = some true) ∧
    (∀ change frame header block, s.engine.started = true → s.role = .slave →
      Frame.content? s.device.inbound frame = some (header, block) →
      tidings (s.turn host ⟨change, .inbound frame⟩).history =
        told ++ (if s.engine.connected then [] else [.connected s.device]) ++
          [.delivered block]) ∧
    (announcements told).count true = s.engine.stats.connects ∧
    (announcements told).count false = s.engine.stats.disconnects ∧
    ∀ change more,
      let stopped := s.turn host ⟨change, .stop⟩
      (announcements (tidings stopped.history)).count true =
        (announcements (tidings stopped.history)).count false ∧
      (occurrences host hears more stopped = 0 →
        tidings (stopped.run host more).history = tidings stopped.history) := by
  intro s told
  have hfrank : s.Frank := frank_run hinforms turns _ (frank_fresh settings world)
  have hstill : s.Still := still_run host turns _ (still_fresh settings world)
  refine ⟨?_, hfrank.told.connected_iff, ?_, ?_, hfrank.connects, hfrank.disconnects, ?_⟩
  · intro k peer hpeer
    obtain ⟨n, htold, -⟩ := hfrank.told.announcements_eq
    rw [show announcements told = alternation n from htold] at hpeer
    exact eq_of_getElem?_alternation hpeer
  · intro before block after hsplit
    exact hfrank.told.getLast?_of_delivered hsplit
  · intro change frame header block hstarted hrole hcontent
    exact tidings_packet hinforms (s.meanwhile change) hstarted hrole hcontent
  · intro change more stopped
    have hconnected : stopped.engine.connected = false := connected_stop change s hstill
    have hparted : stopped.Frank :=
      frank_run hinforms [⟨change, .stop⟩] s hfrank
    refine ⟨?_, fun hunheard => tidings_run_of_unheard hinforms more stopped hconnected hunheard⟩
    rw [hparted.told.count_true, hconnected]
    rfl

/-- A peer is lost after four firings and found again. -/
def twoMeetings : List (Turn ScriptedHost) :=
  [⟨id, .start⟩, ⟨id, .inbound (silentFrame 9)⟩, ⟨id, .fire⟩, ⟨id, .fire⟩, ⟨id, .fire⟩, ⟨id, .fire⟩,
    ⟨id, .inbound (silentFrame 9)⟩]

/-- A packet that comes too late, and a session without one. -/
def aftermath : List (Turn ScriptedHost) :=
  [⟨id, .inbound (silentFrame 9)⟩, ⟨id, .start⟩, ⟨id, .inbound [0, 1]⟩, ⟨id, .fire⟩]

theorem announcements_alternate_twice :
    let s := (fresh shortSettings shortWorld).run shortHost twoMeetings
    let stopped := s.turn shortHost ⟨id, .stop⟩
    shortHost.Informs ∧
    (announcements (tidings s.history)).length = 3 ∧
    (∀ k peer, (announcements (tidings s.history))[k]? = some peer →
      peer = decide (k % 2 = 0)) ∧
    s.engine.stats.connects = 2 ∧ (announcements (tidings s.history)).count true = 2 ∧
    (announcements (tidings stopped.history)).count false = 2 ∧
    occurrences shortHost hears aftermath stopped = 0 ∧
    tidings (stopped.run shortHost aftermath).history = tidings stopped.history := by
  intro s stopped
  have hinforms : shortHost.Informs := ⟨rfl, rfl⟩
  obtain ⟨halternate, -, -, -, hconnects, -, hstop⟩ :=
    announcements_alternate shortSettings shortWorld twoMeetings hinforms
  obtain ⟨heven, hunheard⟩ := hstop id aftermath
  have hcount : s.engine.stats.connects = 2 := by decide +kernel
  have htwo : (announcements (tidings stopped.history)).count true = 2 := by decide +kernel
  have hdeaf : occurrences shortHost hears aftermath stopped = 0 := by decide +kernel
  exact ⟨hinforms, by decide +kernel, halternate, hcount, hconnects.trans hcount,
    heven.symm.trans htwo, hdeaf, hunheard hdeaf⟩

end Station

end AudioLink
