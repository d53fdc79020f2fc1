import Mathlib.Algebra.Order.Floor.Div

/-!
# Checked arithmetic on machine words

Sums and products that say so if they do not fit, and a quotient that tells in advance whether a
product would. What comes out right is said of the numbers that the words stand for.
-/

namespace Checked

variable {w : Nat} {x y : BitVec w}

/-- `x.checked_mul(y)` -/
def mul (x y : BitVec w) : Option (BitVec w) := if x.umulOverflow y then none else some (x * y)

/-- `x.checked_add(y)` -/
def add (x y : BitVec w) : Option (BitVec w) := if x.uaddOverflow y then none else some (x + y)

theorem mul_of_lt (h : x.toNat * y.toNat < 2 ^ w) : mul x y = some (x * y) := by
  unfold mul BitVec.umulOverflow
  rw [if_neg]
  simpa using h

theorem mul_of_ge (h : 2 ^ w ≤ x.toNat * y.toNat) : mul x y = none := by
  unfold mul BitVec.umulOverflow
  rw [if_pos]
  simpa using h

theorem add_of_lt (h : x.toNat + y.toNat < 2 ^ w) : add x y = some (x + y) := by
  unfold add BitVec.uaddOverflow
  rw [if_neg]
  simpa using h

theorem add_of_ge (h : 2 ^ w ≤ x.toNat + y.toNat) : add x y = none := by
  unfold add BitVec.uaddOverflow
  rw [if_pos]
  simpa using h

/-- The largest word divided by a factor is the largest factor that goes with it. -/
theorem allOnes_div_lt_iff (hy : 0 < y.toNat) :
    BitVec.allOnes w / y < x ↔ 2 ^ w ≤ x.toNat * y.toNat := by
  have hpos : 0 < 2 ^ w := Nat.two_pow_pos w
  rw [BitVec.lt_def, BitVec.toNat_udiv, BitVec.toNat_allOnes, Nat.div_lt_iff_lt_mul hy]
  omega

/-- Rounding up by looking at the remainder. -/
theorem ceilDiv_eq (n : Nat) {d : Nat} (hd : 0 < d) :
    n ⌈/⌉ d = if 0 < n % d then n / d + 1 else n / d := by
  have hsplit : d * (n / d) + n % d = n := Nat.div_add_mod n d
  have hlt : n % d < d := Nat.mod_lt n hd
  rw [Nat.ceilDiv_eq_add_pred_div]
  split
  · refine Nat.div_eq_of_lt_le ?_ ?_
    · rw [Nat.add_mul, Nat.mul_comm]
      omega
    · rw [Nat.add_mul, Nat.add_mul, Nat.mul_comm]
      omega
  · refine Nat.div_eq_of_lt_le ?_ ?_
    · rw [Nat.mul_comm]
      omega
    · rw [Nat.add_mul, Nat.mul_comm]
      omega

end Checked
