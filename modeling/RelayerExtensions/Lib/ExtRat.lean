import Mathlib.Algebra.Order.Field.Rat
import Mathlib.Algebra.Order.Ring.Abs

/-!
# Exact numbers with the special values of floating point

Programs that compute with doubles can run into infinities and `NaN`: by dividing by zero,
and by computing on from there. Whether they do is a question about the kinds of their
operands and not about rounding. `ExtRat` keeps the kinds and drops the rounding: a finite
value is a rational number, the rest is as the standard says, except that there is only one
zero.

Comparisons with `NaN` are false. Away from `NaN` the order is total (`le_of_not_lt`).
-/

inductive ExtRat where
  | fin (q : ℚ)
  | inf (neg : Bool)
  | nan
  deriving DecidableEq

namespace ExtRat

def isFinite : ExtRat → Bool
  | .fin _ => true
  | _ => false

def sub : ExtRat → ExtRat → ExtRat
  | .fin a, .fin b => .fin (a - b)
  | .fin _, .inf t => .inf !t
  | .inf s, .fin _ => .inf s
  | .inf s, .inf t => if s = t then .nan else .inf s
  | .nan, _ | _, .nan => .nan

/-- Dividing by zero gives an infinity with the sign of the numerator. -/
def div : ExtRat → ExtRat → ExtRat
  | .fin a, .fin b =>
      if b = 0 then (if a = 0 then .nan else .inf (decide (a < 0))) else .fin (a / b)
  | .fin _, .inf _ => .fin 0
  | .inf s, .fin b => .inf (s != decide (b < 0))
  | .inf _, .inf _ => .nan
  | .nan, _ | _, .nan => .nan

def mul : ExtRat → ExtRat → ExtRat
  | .fin a, .fin b => .fin (a * b)
  | .fin a, .inf t => if a = 0 then .nan else .inf (t != decide (a < 0))
  | .inf s, .fin b => if b = 0 then .nan else .inf (s != decide (b < 0))
  | .inf s, .inf t => .inf (s != t)
  | .nan, _ | _, .nan => .nan

/-- Toward zero, and no further than the bound: a cast to an unsigned integer. -/
def toNat (bound : Nat) : ExtRat → Nat
  | .fin a => min a.floor.toNat bound
  | .inf s => if s then 0 else bound
  | .nan => 0

def abs : ExtRat → ExtRat
  | .fin a => .fin |a|
  | .inf _ => .inf false
  | .nan => .nan

def lt : ExtRat → ExtRat → Bool
  | .fin a, .fin b => decide (a < b)
  | .fin _, .inf t => !t
  | .inf s, .fin _ => s
  | .inf s, .inf t => s && !t
  | .nan, _ | _, .nan => false

def le : ExtRat → ExtRat → Bool
  | .fin a, .fin b => decide (a ≤ b)
  | .fin _, .inf t => !t
  | .inf s, .fin _ => s
  | .inf s, .inf t => s || !t
  | .nan, _ | _, .nan => false

theorem div_fin {a b : ℚ} (hb : b ≠ 0) : div (.fin a) (.fin b) = .fin (a / b) := if_neg hb

@[simp] theorem lt_fin (a b : ℚ) : lt (.fin a) (.fin b) = decide (a < b) := rfl
@[simp] theorem le_fin (a b : ℚ) : le (.fin a) (.fin b) = decide (a ≤ b) := rfl

/-- A quotient is a number only if the divisor is not zero. -/
theorem eq_of_div_fin {a b q : ℚ} (h : div (.fin a) (.fin b) = .fin q) : b ≠ 0 ∧ a = q * b := by
  by_cases hb : b = 0
  · have hspecial : div (.fin a) (.fin b) = if a = 0 then .nan else .inf (decide (a < 0)) :=
      if_pos hb
    rw [hspecial] at h
    split at h <;> cases h
  · rw [div_fin hb] at h
    cases h
    exact ⟨hb, (div_mul_cancel₀ a hb).symm⟩

theorem toNat_fin_le {a : ℚ} (ha : 0 ≤ a) (bound : Nat) : (toNat bound (.fin a) : ℚ) ≤ a := by
  have hfloor : (a.floor.toNat : ℚ) ≤ a := by
    have hnonneg : 0 ≤ a.floor := Rat.le_floor_iff.mpr (by exact_mod_cast ha)
    have hcast : ((a.floor.toNat : ℤ) : ℚ) ≤ a := by
      rw [Int.toNat_of_nonneg hnonneg]
      exact Rat.floor_le a
    exact_mod_cast hcast
  have hmin : toNat bound (.fin a) ≤ a.floor.toNat := Nat.min_le_left _ _
  exact le_trans (by exact_mod_cast hmin) hfloor

theorem toNat_le (a : ExtRat) (bound : Nat) : toNat bound a ≤ bound := by
  cases a with
  | fin q => exact Nat.min_le_right _ _
  | inf s => cases s <;> simp [toNat]
  | nan => exact Nat.zero_le _

theorem lt_irrefl (a : ExtRat) : lt a a = false := by
  cases a with
  | fin q => simp
  | inf s => cases s <;> rfl
  | nan => rfl

theorem lt_trans {a b c : ExtRat} (hab : lt a b = true) (hbc : lt b c = true) : lt a c = true := by
  cases a <;> cases b <;> cases c <;> simp_all [lt]
  exact hab.trans hbc

theorem le_of_not_lt {a b : ExtRat} (ha : a ≠ .nan) (hb : b ≠ .nan) (h : lt b a = false) :
    le a b = true := by
  cases a <;> cases b <;> simp_all [lt, le]
  rename_i s t
  cases t <;> simp_all

/-- A quotient by a number is finite only if the number is not zero and what is divided is a
number too. -/
theorem abs_div_finite {d : ExtRat} {r : ℚ} (h : (abs (div d (.fin r))).isFinite = true) :
    ∃ a, d = .fin a ∧ r ≠ 0 ∧ abs (div d (.fin r)) = .fin |a / r| := by
  cases d with
  | fin a =>
      by_cases hr : r = 0
      · by_cases ha : a = 0 <;> simp [div, hr, ha, abs, isFinite] at h
      · exact ⟨a, rfl, hr, by simp [div, hr, abs]⟩
  | inf s | nan => cases h

/-- **A relative difference is finite only between numbers**, whichever way round it is taken. -/
theorem relative_finite {p d : ExtRat} {r : ℚ} (hd : d = sub (.fin r) p ∨ d = sub p (.fin r))
    (h : (abs (div d (.fin r))).isFinite = true) :
    ∃ q, p = .fin q ∧ r ≠ 0 ∧ abs (div d (.fin r)) = .fin |(q - r) / r| := by
  obtain ⟨a, ha, hr, habs⟩ := abs_div_finite h
  rw [ha] at hd
  cases p with
  | fin q =>
      refine ⟨q, rfl, hr, habs.trans ?_⟩
      rcases hd with hd | hd <;> injection hd with hd <;> subst hd
      · rw [← neg_sub q r, neg_div, abs_neg]
      · rfl
  | inf s | nan => rcases hd with hd | hd <;> cases hd

end ExtRat
