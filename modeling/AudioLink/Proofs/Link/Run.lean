import AudioLink.Link.ScriptedHost
import AudioLink.Proofs.Link.Effects

/-!
# Runs of one engine

A run is a list of turns. In each turn the surroundings first change on their own, in any way, and
then make one entry; so a property of every run holds whatever the clock, the timer, the link and
the pipeline do between the entries of the engine and answer within them.
-/

namespace AudioLink

/-- A change of the surroundings and the entry that follows it. -/
structure Turn (W : Type) where
  before : W → W
  call : Call

namespace Station

variable {W : Type} (host : Host W)

def fresh (settings : Settings) (world : W) : Station W := ⟨.ofSettings settings, world, []⟩

/-- The surroundings change while the engine does nothing. -/
def meanwhile (change : W → W) (s : Station W) : Station W :=
  ⟨s.engine, change s.world, s.history⟩

def turn (t : Turn W) (s : Station W) : Station W :=
  ((s.meanwhile t.before).perform host t.call).2

def run (turns : List (Turn W)) (s : Station W) : Station W :=
  turns.foldl (fun s t => s.turn host t) s

@[simp] theorem engine_meanwhile (change : W → W) (s : Station W) :
    (s.meanwhile change).engine = s.engine := rfl

@[simp] theorem run_nil (s : Station W) : s.run host [] = s := rfl

@[simp] theorem run_cons (t : Turn W) (turns : List (Turn W)) (s : Station W) :
    s.run host (t :: turns) = (s.turn host t).run host turns := rfl

/-- What every turn keeps holds after every run. -/
theorem run_invariant {P : Station W → Prop} (hturn : ∀ t s, P s → P (s.turn host t))
    (turns : List (Turn W)) (s : Station W) (h : P s) : P (s.run host turns) := by
  induction turns generalizing s with
  | nil => exact h
  | cons t turns ih => exact ih (s.turn host t) (hturn t s h)

@[simp] theorem settings_turn (t : Turn W) (s : Station W) :
    (s.turn host t).engine.settings = s.engine.settings :=
  settings_perform host t.call (s.meanwhile t.before)

theorem settings_run (turns : List (Turn W)) (s : Station W) :
    (s.run host turns).engine.settings = s.engine.settings :=
  run_invariant host (P := fun s' => s'.engine.settings = s.engine.settings)
    (fun t s' h => (settings_turn host t s').trans h) turns s rfl

/-- Only a started slave has a connection to track. -/
def Still (s : Station W) : Prop :=
  s.engine.started = false ∨ s.role = .master → s.engine.tracker = .initial

theorem Still.of_connected {s : Station W} (h : s.Still) (hconnected : s.engine.connected = true) :
    s.engine.started = true ∧ s.role = .slave := by
  have hmoved : ¬(s.engine.started = false ∨ s.role = .master) := by
    intro hidle
    rw [Engine.connected, h hidle] at hconnected
    cases hconnected
  rw [not_or] at hmoved
  refine ⟨by simpa using hmoved.1, ?_⟩
  cases hrole : s.role with
  | master => exact absurd hrole hmoved.2
  | slave => rfl

theorem still_fresh (settings : Settings) (world : W) : (fresh settings world).Still := fun _ => rfl

theorem still_perform (call : Call) (s : Station W) (h : s.Still) :
    (s.perform host call).2.Still := by
  obtain ⟨events, engine, heffect, hengine, -⟩ := perform_effect host call s
  unfold Still
  rw [role_perform, hengine]
  cases heffect with
  | ignored _ => exact h
  | stale _ => exact h
  | malformed _ _ _ _ _ => exact h
  | stopped _ => exact fun _ => rfl
  | packet hstarted hslave _ _ =>
    rintro (hidle | hmaster)
    · rw [show s.engine.started = false from hidle] at hstarted
      cases hstarted
    · rw [hslave] at hmaster
      cases hmaster
  | fired _ hstarted _ _ =>
    rintro (hidle | hmaster)
    · rw [show s.engine.started = false from hidle] at hstarted
      cases hstarted
    · dsimp only
      rw [h (.inr hmaster)]
      rfl
  | start hstart =>
    cases hstart with
    | begun _ _ _ _ =>
      rintro (hidle | hmaster)
      · cases hidle
      · exact h (.inr hmaster)
    | _ => exact h

theorem still_run (turns : List (Turn W)) (s : Station W) (h : s.Still) :
    (s.run host turns).Still :=
  run_invariant host (P := Still) (fun t s h => still_perform host t.call (s.meanwhile t.before) h)
    turns s h

/-- How many entries of a run are of some kind, in the station that they find. -/
def occurrences (kind : Station W → Call → Bool) : List (Turn W) → Station W → Nat
  | [], _ => 0
  | t :: turns, s =>
    (if kind (s.meanwhile t.before) t.call then 1 else 0) +
      occurrences kind turns (s.turn host t)

/-- What every entry keeps, with a count of the entries of some kind, holds after every run. -/
theorem run_counted {P : Nat → Station W → Prop} (kind : Station W → Call → Bool)
    (hmeanwhile : ∀ change n s, P n s → P n (s.meanwhile change))
    (hperform : ∀ call n s, P n s →
      P (n + if kind s call then 1 else 0) (s.perform host call).2)
    (turns : List (Turn W)) (n : Nat) (s : Station W) (h : P n s) :
    P (n + occurrences host kind turns s) (s.run host turns) := by
  induction turns generalizing n s with
  | nil => exact h
  | cons t turns ih =>
    rw [occurrences, ← Nat.add_assoc]
    exact ih _ _ (hperform t.call n _ (hmeanwhile t.before n s h))

/-- A slave that checks every 400 nanoseconds and waits for 1000. -/
def shortSettings : Settings := ⟨.slave, ⟨.broadcast, 1, 1⟩, ⟨4000, 400, 1000⟩⟩

/-- A master that fires every 250 microseconds. -/
def masterSettings : Settings := { shortSettings with role := .master }

def shortHost : Host ScriptedHost := ScriptedHost.operations ⟨true, true, false⟩ true

def shortWorld : ScriptedHost := .ofPipeline ⟨.silent, .counter .initial⟩ 0

def silentFrame (counter : UInt16) : Bytes := Frame.build (.ofCounter counter) (Frame.silence ⟨1⟩)

end Station

end AudioLink
