/-!
# Nanoseconds

Points in time and delays are 64-bit counts of nanoseconds. A longer count is either cut to its
low 64 bits or held at the greatest count.
-/

namespace AudioLink

/-- A count of nanoseconds. -/
abbrev Nanos := UInt64

namespace Nanos

def greatest : Nat := 18446744073709551615

/-- Holds long counts at the greatest one. -/
def saturate (n : Nat) : Nanos := UInt64.ofNat (min n greatest)

@[simp] theorem toNat_saturate (n : Nat) : (saturate n).toNat = min n greatest := by
  rw [saturate, UInt64.toNat_ofNat']
  exact Nat.mod_eq_of_lt (by simp only [greatest]; omega)

end Nanos

end AudioLink
