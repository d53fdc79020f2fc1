import Mathlib.Logic.Function.Basic
import Mathlib.Algebra.Order.Ring.Rat
import Mathlib.Order.Compare
import Mathlib.Tactic.NormNum
import Mathlib.Tactic.Ring

/-!
# What makes a float finite, or positive

IEEE doubles by kind: not a number, infinite, zero or another finite number. Where a sum or
a quotient is not of the last kind, the kinds of its operands decide, and no rounding is
involved. So a quotient that is a positive finite number has finite operands
(`isFinite_of_div`), and a sum is finite only if both its terms are.

Comparing needs no rounding either: positive finite floats are ordered as the rational numbers
they stand for (`IsGood.lt_iff`, `IsGood.beq_iff`).
-/

namespace Float

open Model

/-- A positive number, neither infinite nor `NaN`. -/
def IsGood (x : Float) : Prop := x.isFinite = true ∧ 0.0 < x

instance (x : Float) : Decidable x.IsGood := inferInstanceAs (Decidable (_ ∧ _))

/-- The number a finite float stands for. -/
def value (x : Float) : ℚ :=
  match x.toModel.unpack with
  | .finite .positive m e _ => m * 2 ^ e
  | .finite .negative m e _ => -(m * 2 ^ e)
  | _ => 0

/-! ## By kind -/

section Unpacked

variable {u v : UnpackedFloat}

theorem isFinite_unpacked_add (h : u.isFinite = false ∨ v.isFinite = false) :
    (UnpackedFloat.add Format.binary64 u v).isFinite = false := by
  cases u with
  | notANumber => cases v <;> rfl
  | infinity s =>
      cases v with
      | infinity s' => cases s <;> cases s' <;> rfl
      | notANumber | zero s' | finite s' m e hm => rfl
  | zero s | finite s m e hm =>
      cases v with
      | notANumber | infinity s' => rfl
      | zero s' | finite s' m' e' hm' => rcases h with h | h <;> cases h

theorem isFinite_unpacked_div_left (h : u.isFinite = false) :
    (UnpackedFloat.div Format.binary64 u v).isFinite = false := by
  cases u with
  | notANumber | infinity s => cases v <;> rfl
  | zero s | finite s m e hm => cases h

/-- Nothing divided by an infinity or by `NaN` is a number other than zero. -/
theorem isFinite_unpacked_div_right (h : v.isFinite = false) :
    (UnpackedFloat.div Format.binary64 u v).isFinite = false ∨
      ∃ s, UnpackedFloat.div Format.binary64 u v = .zero s := by
  cases v with
  | notANumber => exact .inl (by cases u <;> rfl)
  | infinity s =>
      cases u with
      | notANumber | infinity s' => exact .inl rfl
      | zero s' | finite s' m e hm => exact .inr ⟨_, rfl⟩
  | zero s | finite s m e hm => cases h

/-! ## Packing keeps the kind -/

theorem unpack_pack_zero (s : UnpackedFloat.Sign) : (pack (.zero s)).unpack = .zero s := by
  cases s <;> rfl

theorem isFinite_unpack_pack (h : u.isFinite = false) : (pack u).unpack.isFinite = false := by
  cases u with
  | notANumber => rfl
  | infinity s => cases s <;> rfl
  | zero s | finite s m e hm => cases h

end Unpacked

variable {a b x : Float}

theorem unpack_zero : (0.0 : Float).toModel.unpack = .zero .positive := rfl

theorem beq_zero_iff : (x == 0.0) = true ↔ ∃ s, x.toModel.unpack = .zero s := by
  show x.toModel.unpack.beq (0.0 : Float).toModel.unpack = true ↔ _
  rw [unpack_zero]
  constructor
  · intro h
    cases hx : x.toModel.unpack with
    | zero s => exact ⟨s, rfl⟩
    | notANumber => rw [hx] at h; cases h
    | infinity s | finite s m e hm => rw [hx] at h; cases s <;> cases h
  · rintro ⟨s, hs⟩
    rw [hs]
    rfl

/-- What is finite and not at most zero is positive. -/
theorem IsGood.of_not_le (hfin : x.isFinite = true) (hle : ¬ x ≤ 0.0) : x.IsGood := by
  refine ⟨hfin, ?_⟩
  have hle : ¬ x.toModel.unpack.le (.zero .positive) = true := fun h => hle (decide_eq_true h)
  have hlt : (UnpackedFloat.zero .positive).lt x.toModel.unpack = true := by
    change x.toModel.unpack.isFinite = true at hfin
    cases hx : x.toModel.unpack with
    | notANumber | infinity s => rw [hx] at hfin; cases hfin
    | zero s => rw [hx] at hle; exact absurd rfl hle
    | finite s m e hm =>
        cases s with
        | positive => rfl
        | negative => rw [hx] at hle; exact absurd rfl hle
  exact decide_eq_true hlt

theorem IsGood.not_zero (h : x.IsGood) : (x == 0.0) = false := by
  rw [Bool.eq_false_iff]
  intro hz
  obtain ⟨s, hs⟩ := beq_zero_iff.mp hz
  have hlt : (UnpackedFloat.zero .positive).lt x.toModel.unpack = true := of_decide_eq_true h.2
  rw [hs] at hlt
  cases hlt

theorem IsGood.exists_unpack (h : x.IsGood) :
    ∃ m e hm, x.toModel.unpack = .finite .positive m e hm := by
  have hfin : x.toModel.unpack.isFinite = true := h.1
  have hlt : (UnpackedFloat.zero .positive).lt x.toModel.unpack = true := of_decide_eq_true h.2
  cases hx : x.toModel.unpack with
  | notANumber | infinity s => rw [hx] at hfin; cases hfin
  | zero s => rw [hx] at hlt; cases hlt
  | finite s m e hm =>
      cases s with
      | positive => exact ⟨m, e, hm, rfl⟩
      | negative => rw [hx] at hlt; cases hlt

theorem IsGood.value_pos (h : x.IsGood) : 0 < x.value := by
  obtain ⟨m, e, hm, hx⟩ := h.exists_unpack
  have hcast : (0 : ℚ) < m := by exact_mod_cast hm
  unfold value
  rw [hx]
  exact mul_pos hcast (zpow_pos (by norm_num) e)

/-! ## Order -/

/-- The mantissa has 53 bits, and all of them are used unless the exponent is the least. -/
def Normal (m : Nat) (e : Int) : Prop := m < 2 ^ 53 ∧ -1074 ≤ e ∧ (e = -1074 ∨ 2 ^ 52 ≤ m)

theorem unpack_normal {bits : BitVec Format.binary64.numBits} {s : UnpackedFloat.Sign} {m : Nat}
    {e : Int} {hm : 0 < m} (h : UnpackedFloat.unpack .binary64 bits = .finite s m e hm) :
    Normal m e := by
  have hmantissa : (UnpackedFloat.unpackMantissa bits).toNat < 2 ^ 52 :=
    (UnpackedFloat.unpackMantissa bits).isLt
  have hbias : ((Format.binary64.exponentBias : Nat) : Int) +
      ((Format.binary64.mantissaBitsWithoutImplicit : Nat) : Int) = 1075 := rfl
  delta UnpackedFloat.unpack at h
  dsimp only at h
  by_cases hspecial : UnpackedFloat.unpackExponent bits = -1#_
  · -- infinite, or not a number
    rw [if_pos hspecial] at h
    by_cases hinf : UnpackedFloat.unpackMantissa bits = 0#_
    · rw [if_pos hinf] at h
      cases h
    · rw [if_neg hinf] at h
      cases h
  · rw [if_neg hspecial] at h
    by_cases hzero : UnpackedFloat.unpackExponent bits = 0#_
    · -- zero, or subnormal: the exponent is the least one
      rw [if_pos hzero] at h
      by_cases hnone : UnpackedFloat.unpackMantissa bits = 0#_
      · rw [dif_pos hnone] at h
        cases h
      · rw [dif_neg hnone] at h
        injection h with _ hm he
        rw [hzero, hbias] at he
        have he : e = -1074 := he.symm
        exact ⟨by omega, by omega, .inl he⟩
    · -- the leading bit of the mantissa is not stored
      rw [if_neg hzero] at h
      have hpos : (UnpackedFloat.unpackExponent bits).toNat ≠ 0 := fun h0 =>
        hzero (BitVec.eq_of_toNat_eq h0)
      have hall : (1#1 ++ UnpackedFloat.unpackMantissa bits).toNat =
          2 ^ 52 + (UnpackedFloat.unpackMantissa bits).toNat := by
        rw [BitVec.toNat_append]
        exact (Nat.shiftLeft_add_eq_or_of_lt hmantissa 1).symm
      injection h with _ hm he
      rw [hall] at hm
      rw [hbias] at he
      exact ⟨by omega, by omega, .inr (by omega)⟩

/-- A larger exponent decides, as its mantissa is not a short one. -/
theorem scaled_lt {m n : Nat} {e f : Int} (hm : m < 2 ^ 53) (hn : 2 ^ 52 ≤ n) (h : e < f) :
    (m : ℚ) * 2 ^ e < n * 2 ^ f := by
  have htwo : (0 : ℚ) < 2 ^ e := zpow_pos (by norm_num) e
  calc (m : ℚ) * 2 ^ e < 2 ^ 53 * 2 ^ e := mul_lt_mul_of_pos_right (by exact_mod_cast hm) htwo
    _ = 2 ^ 52 * 2 ^ (e + 1) := by rw [zpow_add₀ (by norm_num)]; ring
    _ ≤ 2 ^ 52 * 2 ^ f := by
        exact mul_le_mul_of_nonneg_left (zpow_le_zpow_right₀ (by norm_num) h) (by norm_num)
    _ ≤ n * 2 ^ f :=
        mul_le_mul_of_nonneg_right (by exact_mod_cast hn) (zpow_pos (by norm_num) f).le

/-- The order of exponents, then of mantissas, is that of the numbers. -/
theorem compare_scaled {m n : Nat} {e f : Int} (hm : Normal m e) (hn : Normal n f) :
    (compare e f).then (compare m n) = compare ((m : ℚ) * 2 ^ e) (n * 2 ^ f) := by
  rcases lt_trichotomy e f with h | rfl | h
  · -- the larger exponent is not the least one
    have hle := hm.2.1
    have hlt := scaled_lt hm.1 (hn.2.2.resolve_left (by omega)) h
    rw [compare_lt_iff_lt.mpr h, compare_lt_iff_lt.mpr hlt]
    rfl
  · have htwo : (0 : ℚ) < 2 ^ e := zpow_pos (by norm_num) e
    rw [compare_eq_iff_eq.mpr rfl]
    rcases lt_trichotomy m n with h | rfl | h
    · have hlt := mul_lt_mul_of_pos_right (Nat.cast_lt.mpr h : (m : ℚ) < n) htwo
      rw [compare_lt_iff_lt.mpr h, compare_lt_iff_lt.mpr hlt]
      rfl
    · rw [compare_eq_iff_eq.mpr rfl, compare_eq_iff_eq.mpr rfl]
      rfl
    · have hlt := mul_lt_mul_of_pos_right (Nat.cast_lt.mpr h : (n : ℚ) < m) htwo
      rw [compare_gt_iff_gt.mpr h, compare_gt_iff_gt.mpr hlt]
      rfl
  · have hle := hn.2.1
    have hlt := scaled_lt hn.1 (hm.2.2.resolve_left (by omega)) h
    rw [compare_gt_iff_gt.mpr h, compare_gt_iff_gt.mpr hlt]
    rfl

/-- Positive finite floats compare as the numbers they stand for. -/
theorem IsGood.compare_eq (ha : a.IsGood) (hb : b.IsGood) :
    a.toModel.unpack.compare b.toModel.unpack = some (compare a.value b.value) := by
  obtain ⟨m, e, hm, ha⟩ := ha.exists_unpack
  obtain ⟨n, f, hn, hb⟩ := hb.exists_unpack
  unfold value
  rw [ha, hb]
  exact congrArg some (compare_scaled (unpack_normal ha) (unpack_normal hb))

theorem IsGood.lt_iff (ha : a.IsGood) (hb : b.IsGood) : a < b ↔ a.value < b.value := by
  have hlt : a < b ↔ (a.toModel.unpack.compare b.toModel.unpack == some .lt) = true :=
    decide_eq_true_iff
  rw [hlt, ha.compare_eq hb, ← compare_lt_iff_lt]
  simp

theorem isGood_iff_value_pos : x.IsGood ↔ 0 < x.value := by
  refine ⟨IsGood.value_pos, fun h => ?_⟩
  unfold value at h
  cases hx : x.toModel.unpack with
  | finite s m e hm =>
      rw [hx] at h
      have hscaled : (0 : ℚ) < m * 2 ^ e :=
        mul_pos (by exact_mod_cast hm) (zpow_pos (by norm_num) e)
      cases s with
      | negative => exact absurd h (not_lt.mpr (neg_nonpos.mpr hscaled.le))
      | positive =>
          have hfin : x.toModel.unpack.isFinite = true := by rw [hx]; rfl
          have hlt : (UnpackedFloat.zero .positive).lt x.toModel.unpack = true := by rw [hx]; rfl
          exact ⟨hfin, decide_eq_true hlt⟩
  | notANumber | infinity s | zero s =>
      rw [hx] at h
      exact absurd h (lt_irrefl 0)

/-- A positive finite float equals no float of another value. -/
theorem IsGood.beq_iff (ha : a.IsGood) : (a == b) = true ↔ a.value = b.value := by
  by_cases hb : b.IsGood
  · have heq : (a == b) = (a.toModel.unpack.compare b.toModel.unpack == some .eq) := rfl
    rw [heq, ha.compare_eq hb, ← compare_eq_iff_eq]
    simp
  · have hne : a.value ≠ b.value := fun h =>
      hb (isGood_iff_value_pos.mpr (h ▸ ha.value_pos))
    refine ⟨fun h => ?_, fun h => absurd h hne⟩
    obtain ⟨m, e, hm, ha⟩ := ha.exists_unpack
    have heq : (a.toModel.unpack.compare b.toModel.unpack == some .eq) = true := h
    rw [ha] at heq
    cases hx : b.toModel.unpack with
    | notANumber | zero s => rw [hx] at heq; cases heq
    | infinity s => rw [hx] at heq; cases s <;> cases heq
    | finite s n f hn =>
        cases s with
        | negative => rw [hx] at heq; cases heq
        | positive =>
            refine absurd (isGood_iff_value_pos.mpr ?_) hb
            unfold value
            rw [hx]
            exact mul_pos (by exact_mod_cast hn) (zpow_pos (by norm_num) f)

theorem not_isGood_iff : (x.isFinite = false ∨ x ≤ 0.0) ↔ ¬ x.IsGood := by
  refine ⟨fun h hgood => ?_, fun h => ?_⟩
  · rcases h with h | h
    · exact Bool.false_ne_true (h.symm.trans hgood.1)
    · obtain ⟨m, e, hm, hx⟩ := hgood.exists_unpack
      have hle : x.toModel.unpack.le (.zero .positive) = true := of_decide_eq_true h
      rw [hx] at hle
      cases hle
  · by_contra hno
    obtain ⟨hfin, hle⟩ := not_or.mp hno
    exact h (.of_not_le (eq_true_of_ne_false hfin) hle)

/-! ## Sums -/

theorem isFinite_add_left (h : a.isFinite = false) : (a + b).isFinite = false :=
  isFinite_unpack_pack (isFinite_unpacked_add (.inl h))

theorem isFinite_add_right (h : b.isFinite = false) : (a + b).isFinite = false :=
  isFinite_unpack_pack (isFinite_unpacked_add (.inr h))

theorem add_zeros (ha : (a == 0.0) = true) (hb : (b == 0.0) = true) : (a + b == 0.0) = true := by
  obtain ⟨s, ha⟩ := beq_zero_iff.mp ha
  obtain ⟨s', hb⟩ := beq_zero_iff.mp hb
  rw [beq_zero_iff]
  show ∃ s, (pack (UnpackedFloat.add _ a.toModel.unpack b.toModel.unpack)).unpack = .zero s
  rw [ha, hb]
  cases s <;> cases s' <;> exact ⟨_, unpack_pack_zero _⟩

/-! ## Quotients -/

theorem isFinite_div_left (h : a.isFinite = false) : (a / b).isFinite = false :=
  isFinite_unpack_pack (isFinite_unpacked_div_left h)

/-- **Only finite numbers have a positive finite quotient.** -/
theorem isFinite_of_div (h : (a / b).IsGood) : a.isFinite = true ∧ b.isFinite = true := by
  constructor
  · by_contra ha
    have hfin := isFinite_div_left (b := b) (Bool.eq_false_iff.mpr ha)
    exact Bool.false_ne_true (hfin.symm.trans h.1)
  · by_contra hb
    have hb : b.toModel.unpack.isFinite = false := Bool.eq_false_iff.mpr hb
    rcases isFinite_unpacked_div_right (u := a.toModel.unpack) hb with hdiv | ⟨s, hdiv⟩
    · exact Bool.false_ne_true ((isFinite_unpack_pack hdiv).symm.trans h.1)
    · have hz : (a / b == 0.0) = true := by
        rw [beq_zero_iff]
        show ∃ s, (pack (UnpackedFloat.div _ a.toModel.unpack b.toModel.unpack)).unpack = .zero s
        exact ⟨s, by rw [hdiv, unpack_pack_zero]⟩
      exact Bool.false_ne_true (h.not_zero.symm.trans hz)

theorem div_two_zero (h : (x == 0.0) = true) : (x / 2.0 == 0.0) = true := by
  obtain ⟨s, hx⟩ := beq_zero_iff.mp h
  rw [beq_zero_iff]
  show ∃ s, (pack (UnpackedFloat.div _ x.toModel.unpack (2.0 : Float).toModel.unpack)).unpack =
    .zero s
  rw [hx]
  exact ⟨_, unpack_pack_zero _⟩

end Float
