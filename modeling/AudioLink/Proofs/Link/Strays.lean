import AudioLink.Proofs.Link.Independence
import AudioLink.Proofs.Link.Trace

/-!
# Stray frames

Frames of other protocols, frames that come while the engine is not started, everything that a
master overhears, and frames that a slave cannot read: none of them touches the tracker, and none is
answered. A run with such frames in any places goes on as it would without them, and only the
counter of malformed frames remembers those that could not be read.
-/

namespace AudioLink

/-- What happens in a run: a turn of the run proper, or a frame that has strayed into it. A stray
frame leaves the surroundings as they are, so it makes no difference whether it comes before or
after they change within a turn. -/
inductive Incident (W : Type) where
  | proper (t : Turn W)
  | stray (frame : Bytes)

namespace Incident

variable {W : Type}

def turn : Incident W → Turn W
  | proper t => t
  | stray frame => ⟨id, .inbound frame⟩

def proper? : Incident W → Option (Turn W)
  | proper t => some t
  | stray _ => none

end Incident

namespace Engine

def addMalformed (n : Nat) (engine : Engine) : Engine :=
  { engine with stats := { engine.stats with malformed := engine.stats.malformed + n } }

@[simp] theorem addMalformed_zero (engine : Engine) : engine.addMalformed 0 = engine := rfl

private theorem addMalformed_add (n m : Nat) (engine : Engine) :
    (engine.addMalformed n).addMalformed m = engine.addMalformed (n + m) := by
  simp only [addMalformed, Nat.add_assoc]

private theorem connected_addMalformed (n : Nat) (engine : Engine) :
    (engine.addMalformed n).connected = engine.connected := rfl

private theorem malformed_addMalformed (n : Nat) (engine : Engine) :
    (engine.addMalformed n).stats.malformed = engine.stats.malformed + n := rfl

end Engine

namespace Station

variable {W : Type}

/-- Whether a frame is of no concern to an engine, or cannot be read by it. -/
inductive Disregards (s : Station W) (frame : Bytes) : Prop where
  | foreign (h : Frame.hasDiscriminator frame = false)
  | idle (h : s.engine.started = false)
  | master (h : s.role = .master)
  | unreadable (hstarted : s.engine.started = true) (hrole : s.role = .slave)
      (h : (Frame.decode frame s.device.inbound).isOk = false)

/-- Whether an engine counts a frame as malformed. -/
def rejects (s : Station W) (frame : Bytes) : Bool :=
  Frame.hasDiscriminator frame && s.engine.started && s.role == .slave &&
    !(Frame.decode frame s.device.inbound).isOk

variable (host : Host W)

/-- Whether every stray frame of a run is one that the engine disregards when it comes. -/
def Harmless : List (Incident W) → Station W → Prop
  | [], _ => True
  | .proper t :: incidents, s => Harmless incidents (s.turn host t)
  | .stray frame :: incidents, s =>
    s.Disregards frame ∧ Harmless incidents (s.inbound host frame).2

/-- How many stray frames of a run are counted as malformed. -/
def rejections : List (Incident W) → Station W → Nat
  | [], _ => 0
  | .proper t :: incidents, s => rejections incidents (s.turn host t)
  | .stray frame :: incidents, s =>
    (if s.rejects frame then 1 else 0) + rejections incidents (s.inbound host frame).2

/-- What the turns of the run proper answer in the midst of the stray frames. -/
def properOutcomes : List (Incident W) → Station W → List Outcome
  | [], _ => []
  | .proper t :: incidents, s =>
    ((s.meanwhile t.before).perform host t.call).1 :: properOutcomes incidents (s.turn host t)
  | .stray frame :: incidents, s => properOutcomes incidents (s.inbound host frame).2

private theorem inbound_eq_passThrough_iff (frame : Bytes) (s : Station W) :
    (s.inbound host frame).1 = .passThrough ↔ Frame.hasDiscriminator frame = false := by
  unfold inbound
  cases Frame.hasDiscriminator frame <;> simp

/-- The second station is the first one after some more malformed frames, and perhaps with other
remarks. -/
structure Strayed (n : Nat) (s t : Station W) : Prop where
  engine : t.engine = s.engine.addMalformed n
  world : t.world = s.world
  calls : History.calls t.history = History.calls s.history

variable {host} {s t : Station W} {n : Nat}

theorem Strayed.refl (s : Station W) : Strayed 0 s s := ⟨rfl, rfl, rfl⟩

theorem Strayed.trans {m : Nat} {u : Station W} (h : Strayed n s t) (h' : Strayed m t u) :
    Strayed (n + m) s u := by
  refine ⟨?_, h'.world.trans h.world, h'.calls.trans h.calls⟩
  rw [h'.engine, h.engine, Engine.addMalformed_add]

theorem Strayed.meanwhile (h : Strayed n s t) (change : W → W) :
    Strayed n (s.meanwhile change) (t.meanwhile change) :=
  ⟨h.engine, congrArg change h.world, h.calls⟩

theorem Strayed.bare_eq (h : Strayed n s t) : t.bare = s.bare := by
  obtain ⟨engine, world, history⟩ := t
  obtain ⟨rfl, rfl, -⟩ := h
  rfl

variable (host) in
theorem Strayed.perform (h : Strayed n s t) (call : Call) :
    (t.perform host call).1 = (s.perform host call).1 ∧
      Strayed n (s.perform host call).2 (t.perform host call).2 := by
  have hs := perform_atop host (s.engine.stats, s.history) call s.bare
  have ht := perform_atop host (t.engine.stats, t.history) call t.bare
  rw [atop_bare] at hs ht
  rw [h.bare_eq] at ht
  rw [hs, ht]
  refine ⟨rfl, ?_, rfl, ?_⟩
  · rw [h.engine]
    simp only [atop, Engine.addMalformed, HAdd.hAdd, Add.add, Engine.mk.injEq, Stats.mk.injEq,
      true_and, and_true]
    exact Nat.add_right_comm _ _ _
  · simp only [atop, History.calls_append, h.calls]

private theorem Disregards.strayed {frame : Bytes} (h : s.Disregards frame) :
    Strayed (if s.rejects frame then 1 else 0) s (s.inbound host frame).2 := by
  have hignored (hrejects : s.rejects frame = false)
      (hsame : (s.inbound host frame).2 = s) :
      Strayed (if s.rejects frame then 1 else 0) s (s.inbound host frame).2 := by
    rw [hrejects, hsame]
    exact .refl s
  cases h with
  | foreign hframe =>
    refine hignored (by simp [rejects, hframe]) (inbound_of_ignored host frame s ?_)
    simp [hframe]
  | idle hidle =>
    refine hignored (by simp [rejects, hidle]) (inbound_of_ignored host frame s ?_)
    simp [hidle]
  | master hrole =>
    refine hignored (by simp [rejects, hrole]) (inbound_of_ignored host frame s ?_)
    simp [hrole]
  | unreadable hstarted hrole hdecode =>
    cases hframe : Frame.hasDiscriminator frame with
    | false =>
      refine hignored (by simp [rejects, hframe]) (inbound_of_ignored host frame s ?_)
      simp [hframe]
    | true =>
      have hrejects : s.rejects frame = true := by
        simp [rejects, hframe, hstarted, hrole, hdecode]
      rw [hrejects, inbound_of_heard host frame s hframe hstarted hrole, receive]
      cases hdecoded : Frame.decode frame s.device.inbound with
      | error cause => exact ⟨rfl, rfl, rfl⟩
      | ok decoded =>
        rw [hdecoded] at hdecode
        cases hdecode

/-- Whatever comes between two entries, the run with the stray frames stays as far from the run
without them as there have been malformed ones among them. -/
theorem strayed_run (incidents : List (Incident W)) (hstrayed : Strayed n s t)
    (h : Harmless host incidents t) :
    properOutcomes host incidents t = outcomes host (incidents.filterMap Incident.proper?) s ∧
      Strayed (n + rejections host incidents t) (s.run host (incidents.filterMap Incident.proper?))
        (t.run host (incidents.map Incident.turn)) := by
  induction incidents generalizing n s t with
  | nil => exact ⟨rfl, hstrayed⟩
  | cons incident incidents ih =>
    cases incident with
    | proper first =>
      obtain ⟨hanswer, hnext⟩ := (hstrayed.meanwhile first.before).perform host first.call
      obtain ⟨hanswers, hrest⟩ := ih hnext h
      exact ⟨List.cons_eq_cons.mpr ⟨hanswer, hanswers⟩, hrest⟩
    | stray frame =>
      obtain ⟨hanswers, hrest⟩ := ih (hstrayed.trans h.1.strayed) h.2
      rw [Nat.add_assoc] at hrest
      exact ⟨hanswers, hrest⟩

/-- A run into which frames have strayed, each of them not of the protocol, or found by an engine
that is not started or by a master, or not readable to a started slave, answers, does and remembers
what the run does without them, except that malformed frames are counted; and in every state a frame
passes on exactly if it is not of the protocol. -/
theorem stray_frames_harmless (incidents : List (Incident W)) (s : Station W)
    (h : Harmless host incidents s) :
    let undisturbed := s.run host (incidents.filterMap Incident.proper?)
    let disturbed := s.run host (incidents.map Incident.turn)
    properOutcomes host incidents s = outcomes host (incidents.filterMap Incident.proper?) s ∧
      History.calls disturbed.history = History.calls undisturbed.history ∧
      disturbed.world = undisturbed.world ∧
      disturbed.engine = undisturbed.engine.addMalformed (rejections host incidents s) ∧
      ∀ (found : Station W) (frame : Bytes),
        (found.inbound host frame).1 = .passThrough ↔ Frame.hasDiscriminator frame = false := by
  intro undisturbed disturbed
  obtain ⟨hanswers, hstrayed⟩ := strayed_run incidents (Strayed.refl s) h
  rw [Nat.zero_add] at hstrayed
  exact ⟨hanswers, hstrayed.calls, hstrayed.world, hstrayed.engine,
    fun found frame => inbound_eq_passThrough_iff host frame found⟩

/-- One packet and one firing, among frames that are not for the engine or cannot be read: a packet
before the start, a frame without the discriminator, one that is too short, and one of the right
length without the trailer. -/
def disturbedPast : List (Incident ScriptedHost) :=
  [.stray (silentFrame 3), .proper ⟨id, .start⟩,
    .stray [0, 1],
    .proper ⟨id, .inbound (silentFrame 9)⟩,
    .stray Frame.linkHeader, .stray (Frame.linkHeader ++ List.replicate 74 0),
    .proper ⟨id, .fire⟩]

def overheard : List (Incident ScriptedHost) :=
  [.proper ⟨id, .start⟩, .stray (silentFrame 3),
    .proper ⟨id, .fire⟩]

theorem stray_frames_harmless_around_packet :
    let s := fresh shortSettings shortWorld
    let disturbed := s.run shortHost (disturbedPast.map Incident.turn)
    let master := fresh masterSettings shortWorld
    Harmless shortHost disturbedPast s ∧ rejections shortHost disturbedPast s = 2 ∧
      properOutcomes shortHost disturbedPast s = outcomes shortHost shortPast s ∧
      disturbed.engine.connected = true ∧ disturbed.engine.stats.malformed = 2 ∧
      disturbed.world = (s.run shortHost shortPast).world ∧
      Harmless shortHost overheard master ∧
      (master.run shortHost (overheard.map Incident.turn)).engine =
        (master.run shortHost [⟨id, .start⟩, ⟨id, .fire⟩]).engine := by
  intro s disturbed master
  have hslave : Harmless shortHost disturbedPast s := by
    refine ⟨.idle rfl, .foreign rfl, ?_, ?_, trivial⟩
    · exact .unreadable (by decide +kernel) (by decide +kernel) (by decide +kernel)
    · exact .unreadable (by decide +kernel) (by decide +kernel) (by decide +kernel)
  have hmaster : Harmless shortHost overheard master := ⟨.master (by decide +kernel), trivial⟩
  have hcount : rejections shortHost disturbedPast s = 2 := by decide +kernel
  have hnone : rejections shortHost overheard master = 0 := by decide +kernel
  have hproper : disturbedPast.filterMap Incident.proper? = shortPast := rfl
  have halone : overheard.filterMap Incident.proper? = [⟨id, .start⟩, ⟨id, .fire⟩] := rfl
  have hconnected : (s.run shortHost shortPast).engine.connected = true := by decide +kernel
  have hmalformed : (s.run shortHost shortPast).engine.stats.malformed = 0 := by decide +kernel
  have hslave' := stray_frames_harmless disturbedPast s hslave
  have hmaster' := stray_frames_harmless overheard master hmaster
  rw [hproper, hcount] at hslave'
  rw [halone, hnone] at hmaster'
  obtain ⟨hanswers, -, hworld, hengine, -⟩ := hslave'
  obtain ⟨-, -, -, hsame, -⟩ := hmaster'
  rw [Engine.addMalformed_zero] at hsame
  refine ⟨hslave, hcount, hanswers, ?_, ?_, hworld, hmaster, hsame⟩
  · rw [hengine, Engine.connected_addMalformed, hconnected]
  · rw [hengine, Engine.malformed_addMalformed, hmalformed]

end Station

end AudioLink
