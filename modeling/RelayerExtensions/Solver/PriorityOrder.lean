import RelayerExtensions.Lib.Checked

/-!
# Priority orders: scaling by the priority fee

A UniswapX priority order gives its swapper more the higher the priority fee is that the filler
pays: each wei of it takes some thousandths of a basis point (`mps`) off the input, or adds them
to the output. The solver computes the scaled amounts as the contract does, on 256-bit words and
with solmate's fixed-point functions (`uniswapx/fixed_point/mod.rs`,
`uniswapx/abis/priority_order.rs`).

`scale_exact` says which amounts come out and when there is an error instead. The error is not
tied to the formula but to what is computed: an input that is not scaled comes back as it is, and
so does an output with rate zero, also if their product with `MPS` would not fit
(`unscaled_amounts_of_any_size`).
-/

namespace RelayerExtensions.Solver

abbrev U256 := BitVec 256

abbrev Address := BitVec 160

inductive FixedPointMathError where
  | divisionByZero
  | overflow
deriving DecidableEq

abbrev FixedPointResult := Except FixedPointMathError U256

/-! ## Fixed-point math -/

/-- `some` if the result is known already. -/
def validateDivision (x y denominator : U256) : Except FixedPointMathError (Option U256) :=
  if denominator = 0 then .error .divisionByZero
  else if y = 0 then .ok (some 0)
  else
    let maxX := BitVec.allOnes 256 / y
    if maxX < x then .error .overflow else .ok none

def mulDivDown (x y denominator : U256) : FixedPointResult := do
  match ← validateDivision x y denominator with
  | some earlyResult => return earlyResult
  | none => return x * y / denominator

def mulDivUp (x y denominator : U256) : FixedPointResult := do
  match ← validateDivision x y denominator with
  | some earlyResult => return earlyResult
  | none =>
      let product := x * y
      let quotient := product / denominator
      let remainder := product % denominator
      if 0 < remainder then (Checked.add quotient 1).elim (.error .overflow) .ok
      else return quotient

section FixedPoint

variable {x y d : U256}

theorem validateDivision_of_lt (hd : d ≠ 0) (hy : 0 < y.toNat)
    (h : x.toNat * y.toNat < 2 ^ 256) : validateDivision x y d = .ok none := by
  have hy0 : y ≠ 0 := BitVec.toNat_ne_iff_ne.mp (Nat.ne_of_gt hy)
  have hfits : ¬ BitVec.allOnes 256 / y < x := by
    rw [Checked.allOnes_div_lt_iff hy]
    exact Nat.not_le_of_lt h
  unfold validateDivision
  rw [if_neg hd, if_neg hy0]
  exact if_neg hfits

theorem validateDivision_of_ge (hd : d ≠ 0) (hy : 0 < y.toNat)
    (h : 2 ^ 256 ≤ x.toNat * y.toNat) : validateDivision x y d = .error .overflow := by
  have hy0 : y ≠ 0 := BitVec.toNat_ne_iff_ne.mp (Nat.ne_of_gt hy)
  unfold validateDivision
  rw [if_neg hd, if_neg hy0]
  exact if_pos ((Checked.allOnes_div_lt_iff hy).mpr h)

theorem mulDivDown_of_lt (hd : d ≠ 0) (hy : 0 < y.toNat) (h : x.toNat * y.toNat < 2 ^ 256) :
    ∃ v, mulDivDown x y d = .ok v ∧ v.toNat = x.toNat * y.toNat / d.toNat := by
  refine ⟨x * y / d, ?_, ?_⟩
  · unfold mulDivDown
    rw [validateDivision_of_lt hd hy h]
    rfl
  · rw [BitVec.toNat_udiv, BitVec.toNat_mul_of_lt h]

theorem mulDivDown_of_ge (hd : d ≠ 0) (hy : 0 < y.toNat) (h : 2 ^ 256 ≤ x.toNat * y.toNat) :
    mulDivDown x y d = .error .overflow := by
  unfold mulDivDown
  rw [validateDivision_of_ge hd hy h]
  rfl

/-- The addition that rounds up always fits: where there is a remainder, the quotient is at most
half a product. -/
theorem mulDivUp_of_lt (hd : d ≠ 0) (hy : 0 < y.toNat) (h : x.toNat * y.toNat < 2 ^ 256) :
    ∃ v, mulDivUp x y d = .ok v ∧ v.toNat = (x.toNat * y.toNat) ⌈/⌉ d.toNat := by
  have hpos : 0 < d.toNat := by
    refine Nat.pos_of_ne_zero fun h0 => hd ?_
    exact BitVec.eq_of_toNat_eq h0
  have hquotient : (x * y / d).toNat = x.toNat * y.toNat / d.toNat := by
    rw [BitVec.toNat_udiv, BitVec.toNat_mul_of_lt h]
  have hremainder : (0 < x * y % d) = (0 < x.toNat * y.toNat % d.toNat) := by
    rw [BitVec.lt_def, BitVec.toNat_umod, BitVec.toNat_mul_of_lt h]
    rfl
  rw [Checked.ceilDiv_eq _ hpos]
  unfold mulDivUp
  rw [validateDivision_of_lt hd hy h]
  simp only [bind, Except.bind, pure, Except.pure, hremainder]
  split
  · next hrem =>
      have htwo : 2 ≤ d.toNat := by
        have hlt := Nat.mod_lt (x.toNat * y.toNat) hpos
        omega
      have hhalf : x.toNat * y.toNat / d.toNat ≤ x.toNat * y.toNat / 2 :=
        Nat.div_le_div_left htwo (by decide)
      have hone : (1 : U256).toNat = 1 := rfl
      have hfits : (x * y / d).toNat + (1 : U256).toNat < 2 ^ 256 := by
        rw [hquotient, hone]
        omega
      refine ⟨x * y / d + 1, ?_, ?_⟩
      · rw [Checked.add_of_lt hfits]
        rfl
      · rw [BitVec.toNat_add_of_lt hfits, hquotient, hone]
  · exact ⟨_, rfl, hquotient⟩

theorem mulDivUp_of_ge (hd : d ≠ 0) (hy : 0 < y.toNat) (h : 2 ^ 256 ≤ x.toNat * y.toNat) :
    mulDivUp x y d = .error .overflow := by
  unfold mulDivUp
  rw [validateDivision_of_ge hd hy h]
  rfl

end FixedPoint

/-! ## Scaling -/

/-- A hundred percent, in thousandths of a basis point. -/
def mps : Nat := 10_000_000

def mpsU256 : U256 := BitVec.ofNat 256 mps

structure PriorityInput where
  token : Address
  amount : U256
  mpsPerPriorityFeeWei : U256
deriving DecidableEq

structure PriorityOutput where
  token : Address
  amount : U256
  mpsPerPriorityFeeWei : U256
deriving DecidableEq

/-- `ok_or(FixedPointMathError::Overflow)` -/
def orOverflow (x : Option U256) : FixedPointResult := x.elim (.error .overflow) .ok

namespace PriorityInput

def scale (input : PriorityInput) (priorityFeeWei : U256) : FixedPointResult := do
  let discountScalingFactor ← orOverflow (Checked.mul priorityFeeWei input.mpsPerPriorityFeeWei)
  if mpsU256 ≤ discountScalingFactor then return 0
  else if discountScalingFactor = 0 then return input.amount
  else
    let scalingNumerator := mpsU256 - discountScalingFactor
    mulDivDown input.amount scalingNumerator mpsU256

/-- The fee times the rate, not as a word. -/
def discount (input : PriorityInput) (fee : U256) : Nat :=
  fee.toNat * input.mpsPerPriorityFeeWei.toNat

/-- The amount less the discount, rounded down. -/
def scaled (input : PriorityInput) (fee : U256) : Nat :=
  input.amount.toNat * (mps - min (input.discount fee) mps) / mps

/-- What `scale` computes fits. -/
def Fits (input : PriorityInput) (fee : U256) : Prop :=
  input.discount fee < 2 ^ 256 ∧
    (0 < input.discount fee → input.discount fee < mps →
      input.amount.toNat * (mps - input.discount fee) < 2 ^ 256)

end PriorityInput

namespace PriorityOutput

def scale (output : PriorityOutput) (priorityFeeWei : U256) : FixedPointResult := do
  if output.mpsPerPriorityFeeWei = 0 then return output.amount
  else
    let scalingFactor ← orOverflow (Checked.mul priorityFeeWei output.mpsPerPriorityFeeWei)
    let scalingNumerator ← orOverflow (Checked.add mpsU256 scalingFactor)
    mulDivUp output.amount scalingNumerator mpsU256

def bonus (output : PriorityOutput) (fee : U256) : Nat :=
  fee.toNat * output.mpsPerPriorityFeeWei.toNat

/-- The amount and the bonus, rounded up. -/
def scaled (output : PriorityOutput) (fee : U256) : Nat :=
  (output.amount.toNat * (mps + output.bonus fee)) ⌈/⌉ mps

def Fits (output : PriorityOutput) (fee : U256) : Prop :=
  output.mpsPerPriorityFeeWei ≠ 0 →
    mps + output.bonus fee < 2 ^ 256 ∧
      output.amount.toNat * (mps + output.bonus fee) < 2 ^ 256

end PriorityOutput

section Amounts

variable {input : PriorityInput} {output : PriorityOutput} {fee fee' : U256}

theorem toNat_mpsU256 : mpsU256.toNat = mps := rfl

theorem mpsU256_ne_zero : mpsU256 ≠ 0 := by decide

theorem PriorityInput.scale_of_ge (h : 2 ^ 256 ≤ input.discount fee) :
    input.scale fee = .error .overflow := by
  unfold scale
  rw [Checked.mul_of_ge h]
  rfl

/-- Past the multiplication, which fits. -/
theorem PriorityInput.scale_of_lt (h : input.discount fee < 2 ^ 256) :
    input.scale fee =
      if mps ≤ input.discount fee then .ok 0
      else if input.discount fee = 0 then .ok input.amount
      else mulDivDown input.amount (mpsU256 - fee * input.mpsPerPriorityFeeWei) mpsU256 := by
  have hfactor : (fee * input.mpsPerPriorityFeeWei).toNat = input.discount fee :=
    BitVec.toNat_mul_of_lt h
  have hzero : (fee * input.mpsPerPriorityFeeWei = 0) = (input.discount fee = 0) := by
    rw [← hfactor]
    exact propext BitVec.toNat_eq
  unfold scale
  rw [Checked.mul_of_lt h]
  simp only [orOverflow, Option.elim_some, bind, Except.bind, pure, Except.pure, BitVec.le_def,
    toNat_mpsU256, hfactor, hzero]

theorem PriorityInput.scale_computes_of_lt (h : input.discount fee < 2 ^ 256)
    (hpos : 0 < input.discount fee) (hlt : input.discount fee < mps) :
    input.scale fee =
        mulDivDown input.amount (mpsU256 - fee * input.mpsPerPriorityFeeWei) mpsU256 ∧
      (mpsU256 - fee * input.mpsPerPriorityFeeWei).toNat = mps - input.discount fee := by
  have hfactor : (fee * input.mpsPerPriorityFeeWei).toNat = input.discount fee :=
    BitVec.toNat_mul_of_lt h
  constructor
  · rw [scale_of_lt h, if_neg (Nat.not_le_of_lt hlt), if_neg (Nat.ne_of_gt hpos)]
  · rw [BitVec.toNat_sub_of_le, hfactor, toNat_mpsU256]
    rw [BitVec.le_def, hfactor, toNat_mpsU256]
    exact Nat.le_of_lt hlt

theorem PriorityInput.scale_of_fits (h : input.Fits fee) :
    ∃ v, input.scale fee = .ok v ∧ v.toNat = input.scaled fee := by
  obtain ⟨hfactor, hproduct⟩ := h
  by_cases hge : mps ≤ input.discount fee
  · refine ⟨0, ?_, ?_⟩
    · rw [scale_of_lt hfactor, if_pos hge]
    · unfold scaled
      rw [Nat.min_eq_right hge, Nat.sub_self, Nat.mul_zero]
      rfl
  have hlt := Nat.lt_of_not_le hge
  by_cases hzero : input.discount fee = 0
  · refine ⟨input.amount, ?_, ?_⟩
    · rw [scale_of_lt hfactor, if_neg hge, if_pos hzero]
    · unfold scaled
      rw [hzero, Nat.zero_min, Nat.sub_zero, Nat.mul_div_cancel _ (by decide)]
  have hpos := Nat.pos_of_ne_zero hzero
  obtain ⟨hscale, hnumerator⟩ := scale_computes_of_lt hfactor hpos hlt
  have hfits := hproduct hpos hlt
  rw [← hnumerator] at hfits
  have hnumerator_pos : 0 < (mpsU256 - fee * input.mpsPerPriorityFeeWei).toNat := by omega
  obtain ⟨v, hv, hvalue⟩ := mulDivDown_of_lt mpsU256_ne_zero hnumerator_pos hfits
  refine ⟨v, hscale.trans hv, ?_⟩
  rw [hvalue, hnumerator, toNat_mpsU256]
  unfold scaled
  rw [Nat.min_eq_left (Nat.le_of_lt hlt)]

theorem PriorityInput.scale_of_not_fits (h : ¬ input.Fits fee) :
    input.scale fee = .error .overflow := by
  by_cases hfactor : input.discount fee < 2 ^ 256
  · by_cases hall : 0 < input.discount fee ∧ input.discount fee < mps
    · obtain ⟨hpos, hlt⟩ := hall
      obtain ⟨hscale, hnumerator⟩ := scale_computes_of_lt hfactor hpos hlt
      have hbig : 2 ^ 256 ≤
          input.amount.toNat * (mpsU256 - fee * input.mpsPerPriorityFeeWei).toNat := by
        rw [hnumerator]
        refine Nat.le_of_not_lt fun hfits => h ⟨hfactor, fun _ _ => hfits⟩
      have hnumerator_pos : 0 < (mpsU256 - fee * input.mpsPerPriorityFeeWei).toNat := by omega
      exact hscale.trans (mulDivDown_of_ge mpsU256_ne_zero hnumerator_pos hbig)
    · exact absurd ⟨hfactor, fun hpos hlt => absurd ⟨hpos, hlt⟩ hall⟩ h
  · exact scale_of_ge (Nat.le_of_not_lt hfactor)

theorem PriorityOutput.scale_of_lt (hrate : output.mpsPerPriorityFeeWei ≠ 0)
    (h : mps + output.bonus fee < 2 ^ 256) :
    output.scale fee =
        mulDivUp output.amount (mpsU256 + fee * output.mpsPerPriorityFeeWei) mpsU256 ∧
      (mpsU256 + fee * output.mpsPerPriorityFeeWei).toNat = mps + output.bonus fee := by
  have hbonus : output.bonus fee < 2 ^ 256 := by omega
  have hfactor : (fee * output.mpsPerPriorityFeeWei).toNat = output.bonus fee :=
    BitVec.toNat_mul_of_lt hbonus
  have hsum : mpsU256.toNat + (fee * output.mpsPerPriorityFeeWei).toNat < 2 ^ 256 := by
    rw [hfactor]
    exact h
  constructor
  · unfold scale
    rw [if_neg hrate, Checked.mul_of_lt hbonus]
    simp only [orOverflow, Option.elim_some, bind, Except.bind, Checked.add_of_lt hsum]
  · rw [BitVec.toNat_add_of_lt hsum, hfactor, toNat_mpsU256]

theorem PriorityOutput.scale_of_ge (hrate : output.mpsPerPriorityFeeWei ≠ 0)
    (h : 2 ^ 256 ≤ mps + output.bonus fee) : output.scale fee = .error .overflow := by
  unfold scale
  rw [if_neg hrate]
  by_cases hbonus : output.bonus fee < 2 ^ 256
  · have hfactor : (fee * output.mpsPerPriorityFeeWei).toNat = output.bonus fee :=
      BitVec.toNat_mul_of_lt hbonus
    have hsum : 2 ^ 256 ≤ mpsU256.toNat + (fee * output.mpsPerPriorityFeeWei).toNat := by
      rw [hfactor]
      exact h
    rw [Checked.mul_of_lt hbonus]
    simp only [orOverflow, Option.elim_some, bind, Except.bind, Checked.add_of_ge hsum,
      Option.elim_none]
  · rw [Checked.mul_of_ge (Nat.le_of_not_lt hbonus)]
    rfl

theorem PriorityOutput.scale_of_fits (h : output.Fits fee) :
    ∃ v, output.scale fee = .ok v ∧ v.toNat = output.scaled fee := by
  by_cases hrate : output.mpsPerPriorityFeeWei = 0
  · have hbonus : output.bonus fee = 0 := by
      unfold bonus
      rw [hrate]
      rfl
    refine ⟨output.amount, ?_, ?_⟩
    · unfold scale
      rw [if_pos hrate]
      rfl
    · unfold scaled
      rw [hbonus, Nat.add_zero, Nat.mul_comm]
      exact (smul_ceilDiv (by decide : 0 < mps) output.amount.toNat).symm
  · obtain ⟨hsum, hfits⟩ := h hrate
    obtain ⟨hscale, hnumerator⟩ := scale_of_lt hrate hsum
    rw [← hnumerator] at hfits
    have hpos : 0 < (mpsU256 + fee * output.mpsPerPriorityFeeWei).toNat := by
      rw [hnumerator]
      exact Nat.add_pos_left (by decide) _
    obtain ⟨v, hv, hvalue⟩ := mulDivUp_of_lt mpsU256_ne_zero hpos hfits
    refine ⟨v, hscale.trans hv, ?_⟩
    rw [hvalue, hnumerator, toNat_mpsU256]
    rfl

theorem PriorityOutput.scale_of_not_fits (h : ¬ output.Fits fee) :
    output.scale fee = .error .overflow := by
  have hrate : output.mpsPerPriorityFeeWei ≠ 0 := fun hzero => h fun hrate => absurd hzero hrate
  by_cases hsum : mps + output.bonus fee < 2 ^ 256
  · obtain ⟨hscale, hnumerator⟩ := scale_of_lt hrate hsum
    have hbig : 2 ^ 256 ≤
        output.amount.toNat * (mpsU256 + fee * output.mpsPerPriorityFeeWei).toNat := by
      rw [hnumerator]
      exact Nat.le_of_not_lt fun hfits => h fun _ => ⟨hsum, hfits⟩
    have hpos : 0 < (mpsU256 + fee * output.mpsPerPriorityFeeWei).toNat := by
      rw [hnumerator]
      exact Nat.add_pos_left (by decide) _
    exact hscale.trans (mulDivUp_of_ge mpsU256_ne_zero hpos hbig)
  · exact scale_of_ge hrate (Nat.le_of_not_lt hsum)

/-- A result is this number if everything fits, and an overflow otherwise. -/
def Computes (r : FixedPointResult) (fits : Prop) (n : Nat) : Prop :=
  (∀ v, r = .ok v ↔ fits ∧ v.toNat = n) ∧ ∀ e, r = .error e ↔ ¬ fits ∧ e = .overflow

theorem computes_of {r : FixedPointResult} {fits : Prop} {n : Nat}
    (hok : fits → ∃ v, r = .ok v ∧ v.toNat = n) (herr : ¬ fits → r = .error .overflow) :
    Computes r fits n := by
  by_cases hfits : fits
  · obtain ⟨v, rfl, hv⟩ := hok hfits
    refine ⟨fun v' => ⟨fun h => ?_, fun h => ?_⟩, fun e => ⟨fun h => ?_, fun h => ?_⟩⟩
    · cases h
      exact ⟨hfits, hv⟩
    · rw [BitVec.eq_of_toNat_eq (hv.trans h.2.symm)]
    · cases h
    · exact absurd hfits h.1
  · obtain rfl := herr hfits
    refine ⟨fun v' => ⟨fun h => ?_, fun h => ?_⟩, fun e => ⟨fun h => ?_, fun h => ?_⟩⟩
    · cases h
    · exact absurd h.1 hfits
    · cases h
      exact ⟨hfits, rfl⟩
    · rw [h.2]

theorem PriorityInput.scale_computes (input : PriorityInput) (fee : U256) :
    Computes (input.scale fee) (input.Fits fee) (input.scaled fee) :=
  computes_of scale_of_fits scale_of_not_fits

theorem PriorityOutput.scale_computes (output : PriorityOutput) (fee : U256) :
    Computes (output.scale fee) (output.Fits fee) (output.scaled fee) :=
  computes_of scale_of_fits scale_of_not_fits

theorem PriorityInput.toNat_of_scale {v : U256} (h : input.scale fee = .ok v) :
    v.toNat = input.scaled fee :=
  (((input.scale_computes fee).1 v).mp h).2

theorem PriorityOutput.toNat_of_scale {v : U256} (h : output.scale fee = .ok v) :
    v.toNat = output.scaled fee :=
  (((output.scale_computes fee).1 v).mp h).2

theorem PriorityInput.scaled_le (input : PriorityInput) (fee : U256) :
    input.scaled fee ≤ input.amount.toNat := by
  refine Nat.div_le_of_le_mul ?_
  rw [Nat.mul_comm]
  exact Nat.mul_le_mul_right _ (Nat.sub_le _ _)

theorem PriorityOutput.le_scaled (output : PriorityOutput) (fee : U256) :
    output.amount.toNat ≤ output.scaled fee := by
  have hpos : 0 < mps := by decide
  have hle := le_smul_ceilDiv (b := output.amount.toNat * (mps + output.bonus fee)) hpos
  refine Nat.le_of_mul_le_mul_left (Nat.le_trans ?_ hle) hpos
  rw [Nat.mul_comm]
  exact Nat.mul_le_mul_left _ (Nat.le_add_right _ _)

theorem PriorityInput.scaled_anti (h : fee ≤ fee') : input.scaled fee' ≤ input.scaled fee := by
  have hdiscount : input.discount fee ≤ input.discount fee' :=
    Nat.mul_le_mul_right _ (BitVec.le_def.mp h)
  refine Nat.div_le_div_right (Nat.mul_le_mul_left _ ?_)
  omega

theorem PriorityOutput.scaled_mono (h : fee ≤ fee') : output.scaled fee ≤ output.scaled fee' := by
  have hbonus : output.bonus fee ≤ output.bonus fee' :=
    Nat.mul_le_mul_right _ (BitVec.le_def.mp h)
  have hpos : 0 < mps := by decide
  refine (gc_mul_ceilDiv hpos).monotone_l ?_
  exact Nat.mul_le_mul_left _ (Nat.add_le_add_left hbonus _)

/--
**What scaling computes.** The formulas, rounded down for inputs and up for outputs, unless
something on the way does not fit. Scaling never increases an input and never decreases an output,
and a higher fee takes it further.
-/
theorem scale_exact (input : PriorityInput) (output : PriorityOutput) (fee : U256) :
    Computes (input.scale fee) (input.Fits fee)
        (input.amount.toNat * (mps - min (input.discount fee) mps) / mps) ∧
      Computes (output.scale fee) (output.Fits fee)
        ((output.amount.toNat * (mps + output.bonus fee)) ⌈/⌉ mps) ∧
      (∀ v, input.scale fee = .ok v → v ≤ input.amount ∧
        ∀ fee' v', fee ≤ fee' → input.scale fee' = .ok v' → v' ≤ v) ∧
      ∀ v, output.scale fee = .ok v → output.amount ≤ v ∧
        ∀ fee' v', fee ≤ fee' → output.scale fee' = .ok v' → v ≤ v' := by
  refine ⟨input.scale_computes fee, output.scale_computes fee, fun v hv => ⟨?_, ?_⟩,
    fun v hv => ⟨?_, ?_⟩⟩
  · rw [BitVec.le_def, PriorityInput.toNat_of_scale hv]
    exact input.scaled_le fee
  · intro fee' v' hfee hv'
    rw [BitVec.le_def, PriorityInput.toNat_of_scale hv, PriorityInput.toNat_of_scale hv']
    exact PriorityInput.scaled_anti hfee
  · rw [BitVec.le_def, PriorityOutput.toNat_of_scale hv]
    exact output.le_scaled fee
  · intro fee' v' hfee hv'
    rw [BitVec.le_def, PriorityOutput.toNat_of_scale hv, PriorityOutput.toNat_of_scale hv']
    exact PriorityOutput.scaled_mono hfee

/--
The largest amount, with rates zero: its product with `MPS` does not fit, and both amounts come
back without an error.
-/
theorem unscaled_amounts_of_any_size :
    2 ^ 256 ≤ (BitVec.allOnes 256).toNat * mps ∧
      PriorityInput.scale ⟨0, BitVec.allOnes 256, 0⟩ 1 = .ok (BitVec.allOnes 256) ∧
      PriorityOutput.scale ⟨0, BitVec.allOnes 256, 0⟩ 1 = .ok (BitVec.allOnes 256) :=
  ⟨by decide +kernel, rfl, rfl⟩

end Amounts

end RelayerExtensions.Solver
