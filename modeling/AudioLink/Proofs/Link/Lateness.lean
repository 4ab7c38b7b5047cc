import Mathlib.Algebra.Order.Ring.Int
import AudioLink.Proofs.Link.Pacing

/-!
# Lateness

A timer fires somewhat late every time, and a cadence rearms it from the moment of the firing. What
one firing is late goes into the next one only as far as it exceeds the period, so it never adds up:
firings that are late by no more than a period stay as close to the grid as the timer does, and a
stall is made up by one period with every punctual firing that follows it.
-/

namespace AudioLink

namespace Cadence

variable (period begun : Nanos) (late : Nat → Nat)

/-- The time for which the timer is set before its firing `k`, counted from zero, and the cadence at
that moment. The firing comes `late k` nanoseconds after that time. -/
def aim : Nat → Nat × Cadence
  | 0 => (begun.toNat + period.toNat, (ofPeriod period).start begun)
  | k + 1 =>
    let now := (aim k).1 + late k
    let fired := (aim k).2.fire (UInt64.ofNat now)
    (now + fired.1.toNat, fired.2)

/-- The time of the firing `k`, counted from zero. -/
def firing (k : Nat) : Nat := (aim period begun late k).1 + late k

/-- The point of the grid that the firing `k` belongs to. -/
def gridPoint (k : Nat) : Nat := begun.toNat + (k + 1) * period.toNat

/-- How long after its point of the grid the firing `k` comes. -/
def lateness (k : Nat) : Int := firing period begun late k - gridPoint period begun k

private theorem gridPoint_succ (k : Nat) :
    gridPoint period begun (k + 1) = gridPoint period begun k + period.toNat := by
  simp only [gridPoint, Nat.succ_mul]
  omega

private theorem cadence_aim (k : Nat) :
    (aim period begun late k).2 = ⟨period, due period begun (k + 1)⟩ := by
  induction k with
  | zero => exact start_eq_due period begun
  | succ k ih =>
    rw [aim, ih]
    exact advance_due period begun (k + 1)

private theorem toNat_delay_of_late {now : Nanos} {k : Nat}
    (h : gridPoint period begun k ≤ now.toNat) :
    ((⟨period, due period begun (k + 1)⟩ : Cadence).delay now).toNat =
      gridPoint period begun (k + 1) - now.toNat := by
  have hnow := now.toNat_lt
  have hperiod := period.toNat_lt
  have hdue : (due period begun (k + 1)).toNat = gridPoint period begun k := by
    rw [due, Nanos.toNat_saturate]
    exact Nat.min_eq_left (h.trans (Nat.le_of_lt_succ hnow))
  simp only [delay, Nanos.toNat_saturate, hdue, gridPoint_succ, Nanos.greatest]
  omega

variable {period begun late}

private theorem firing_le_succ (k : Nat) :
    firing period begun late k ≤ firing period begun late (k + 1) := by
  simp only [firing, aim]
  omega

private theorem firing_le {k n : Nat} (h : k ≤ n) :
    firing period begun late k ≤ firing period begun late n :=
  monotone_nat_of_le_succ firing_le_succ h

private theorem firing_succ {k : Nat} (hclock : firing period begun late k < 2 ^ 64)
    (h : gridPoint period begun k ≤ firing period begun late k) :
    firing period begun late (k + 1) =
      max (firing period begun late k) (gridPoint period begun (k + 1)) + late (k + 1) := by
  have hnow : (UInt64.ofNat (firing period begun late k)).toNat = firing period begun late k :=
    UInt64.toNat_ofNat_of_lt' hclock
  have hdelay := toNat_delay_of_late period begun (hnow.symm ▸ h)
  rw [hnow] at hdelay
  have hfired : firing period begun late (k + 1) =
      firing period begun late k + ((aim period begun late k).2.fire
        (UInt64.ofNat (firing period begun late k))).1.toNat + late (k + 1) := rfl
  rw [hfired, cadence_aim, fire, hdelay]
  omega

private theorem gridPoint_le_firing {k : Nat} (hclock : firing period begun late k < 2 ^ 64) :
    gridPoint period begun k ≤ firing period begun late k := by
  induction k with
  | zero =>
    simp only [gridPoint, firing, aim]
    omega
  | succ k ih =>
    have hbefore := (firing_le_succ k).trans_lt hclock
    rw [firing_succ hbefore (ih hbefore)]
    omega

private theorem lateness_zero : lateness period begun late 0 = late 0 := by
  simp only [lateness, gridPoint, firing, aim]
  omega

private theorem lateness_succ {k : Nat} (hclock : firing period begun late k < 2 ^ 64) :
    lateness period begun late (k + 1) =
      late (k + 1) + max 0 (lateness period begun late k - period.toNat) := by
  have hnext := firing_succ hclock (gridPoint_le_firing hclock)
  have hpoint := gridPoint_succ period begun k
  simp only [lateness]
  omega

private theorem lateness_le {most n : Nat} (hmost : most ≤ period.toNat)
    (hclock : firing period begun late n < 2 ^ 64) (hlate : ∀ k ≤ n, late k ≤ most) :
    lateness period begun late n ≤ most := by
  induction n with
  | zero =>
    have hfirst := hlate 0 (Nat.le_refl 0)
    rw [lateness_zero]
    omega
  | succ n ih =>
    have hbefore := (firing_le_succ n).trans_lt hclock
    have hkept := ih hbefore fun k hk => hlate k (Nat.le_succ_of_le hk)
    have hlast := hlate (n + 1) (Nat.le_refl _)
    rw [lateness_succ hbefore]
    omega

private theorem lateness_add {k m : Nat} (hclock : firing period begun late (k + m) < 2 ^ 64)
    (hpunctual : ∀ j, k < j → j ≤ k + m → late j = 0) :
    lateness period begun late (k + m) =
      max 0 (lateness period begun late k - m * period.toNat) := by
  induction m with
  | zero =>
    have hpoint := gridPoint_le_firing hclock
    simp only [Nat.add_zero] at hpoint
    simp only [lateness, Nat.add_zero, Nat.cast_zero, Int.zero_mul]
    omega
  | succ m ih =>
    have hbefore : firing period begun late (k + m) < 2 ^ 64 := (firing_le_succ _).trans_lt hclock
    have hkept := ih hbefore fun j hj hm => hpunctual j hj (Nat.le_succ_of_le hm)
    have hnone := hpunctual (k + m + 1) (by omega) (Nat.le_refl _)
    have hperiods : ((m + 1 : Nat) : Int) * period.toNat = m * period.toNat + period.toNat := by
      rw [Nat.cast_succ, Int.add_mul, Int.one_mul]
    rw [← Nat.add_assoc, lateness_succ hbefore, hkept, hnone, hperiods]
    omega

/-- Let a timer be armed with the period `P` at the time `t0`, let its firing `k`, counted from
zero, come `late k` after the time that it was set for, and let it be rearmed with the delay of the
cadence each time. As long as the clock does not run over, no firing comes before its point of the
grid, `t0 + (k + 1) * P`, and its lateness against the grid is that of the timer and what the firing
before it was late beyond a period. So if the timer is never late by more than some time up to a
period, then the firings stay within that time of the grid for ever; and after a stall of any
length, punctual firings make up one period each until they are on the grid again. -/
theorem lateness_never_accumulates (period begun : Nanos) (late : Nat → Nat) (n : Nat)
    (hclock : firing period begun late n < 2 ^ 64) :
    (∀ k ≤ n, gridPoint period begun k ≤ firing period begun late k) ∧
    lateness period begun late 0 = late 0 ∧
    (∀ k < n, lateness period begun late (k + 1) =
      late (k + 1) + max 0 (lateness period begun late k - period.toNat)) ∧
    (∀ most ≤ period.toNat, (∀ k ≤ n, late k ≤ most) → ∀ k ≤ n,
      gridPoint period begun k ≤ firing period begun late k ∧
        firing period begun late k ≤ gridPoint period begun k + most) ∧
    ∀ k m, k + m ≤ n → (∀ j, k < j → j ≤ k + m → late j = 0) →
      lateness period begun late (k + m) =
        max 0 (lateness period begun late k - m * period.toNat) ∧
      (firing period begun late (k + m) = gridPoint period begun (k + m) ↔
        lateness period begun late k ≤ m * period.toNat) := by
  have hbefore {k : Nat} (hk : k ≤ n) : firing period begun late k < 2 ^ 64 :=
    (firing_le hk).trans_lt hclock
  refine ⟨fun k hk => gridPoint_le_firing (hbefore hk), lateness_zero,
    fun k hk => lateness_succ (hbefore hk.le), ?_, ?_⟩
  · intro most hmost hlate k hk
    have hle := lateness_le hmost (hbefore hk) fun j hj => hlate j (hj.trans hk)
    refine ⟨gridPoint_le_firing (hbefore hk), ?_⟩
    rw [lateness] at hle
    omega
  · intro k m hm hpunctual
    have hmade := lateness_add (hbefore hm) hpunctual
    refine ⟨hmade, ?_⟩
    have hgrid : firing period begun late (k + m) = gridPoint period begun (k + m) ↔
        lateness period begun late (k + m) = 0 := by
      rw [lateness]
      omega
    rw [hgrid, hmade]
    omega

/-- The second of these firings comes three and a half periods late, and the others are punctual. -/
def stalled (k : Nat) : Nat := if k = 1 then 3500 else 0

/-- Three firings after the stall have made up three periods, and the fourth one is on the grid. -/
theorem lateness_never_accumulates_after_stall :
    firing 1000 500 stalled 5 < 2 ^ 64 ∧ (∀ j, 1 < j → j ≤ 1 + 4 → stalled j = 0) ∧
      lateness 1000 500 stalled 1 = 3500 ∧ lateness 1000 500 stalled (1 + 3) = 500 ∧
      firing 1000 500 stalled (1 + 4) = gridPoint 1000 500 (1 + 4) := by
  have hclock : firing 1000 500 stalled 5 < 2 ^ 64 := by decide +kernel
  have hpunctual : ∀ j, 1 < j → j ≤ 1 + 4 → stalled j = 0 := fun j hj _ => if_neg (by omega)
  have hstall : lateness 1000 500 stalled 1 = 3500 := by decide +kernel
  obtain ⟨-, -, -, -, hmade⟩ := lateness_never_accumulates 1000 500 stalled 5 hclock
  refine ⟨hclock, hpunctual, hstall, ?_, ?_⟩
  · rw [(hmade 1 3 (by omega) fun j hj hm => hpunctual j hj (by omega)).1, hstall]
    rfl
  · rw [(hmade 1 4 (by omega) hpunctual).2, hstall]
    decide

end Cadence

end AudioLink
