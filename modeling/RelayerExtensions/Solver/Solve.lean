import Mathlib.Tactic.Linarith
import Mathlib.Tactic.Positivity
import Mathlib.Tactic.Ring
import RelayerExtensions.Lib.Effect
import RelayerExtensions.Lib.ExtRat
import RelayerExtensions.Solver.PriorityOrder

/-!
# Solving priority orders: the priority fee

The solver (`renegade-solver/src/uniswapx/solve.rs`, `priority_fee.rs`) takes the price of an
order, asks for Renegade's, and bids a priority fee that stands for the improvement it can offer:
the relative difference of the prices, in thousandths of a basis point. With that fee it scales
the order and asks Renegade for a match of the scaled input.

What the fee should do is bring the order to Renegade's price. Prices are quote for base, so a
relative difference of the prices is one of the quote amounts: it may be added to the output of a
sell order and taken off the input of a buy order. Added to the output of a buy order it falls
short of Renegade's price, which is no loss to the solver. Taken off the input of a sell order it
goes beyond it, the more the larger the improvement: from 1000 to 1100 is ten percent, but ten
percent less base for the same quote is a price above 1111. So the scaled order is no worse than
Renegade's price unless it is a sell order with a scaled input, and then only if the improvement
or the order is so small that one unit makes up for the difference (`scaled_price_no_worse_iff`,
`sell_input_overscaled`).

Floats are exact here, with their special values (`ExtRat`).
-/

namespace RelayerExtensions.Solver

inductive SolverError where
  | invalidU256 (u256 : U256)
  | priceReporter (message : String)
  | fixedPoint (e : FixedPointMathError)
  | inputOutputScaling
deriving DecidableEq

/-- `output` is `outputs[0]`: an order without outputs is not serviceable. -/
structure PriorityOrder where
  input : PriorityInput
  output : PriorityOutput
  moreOutputs : List PriorityOutput

/-- The token registry: `Token::usdc()` and the decimals of each token. -/
structure Tokens where
  usdc : Address
  decimals : Address → Nat

/-- `convert_to_decimal` -/
def Tokens.convertToDecimal (tokens : Tokens) (token : Address) (amount : Nat) : ExtRat :=
  .fin (amount / 10 ^ tokens.decimals token)

def u256ToU128 (u256 : U256) : Except SolverError Nat :=
  if u256.toNat < 2 ^ 128 then .ok u256.toNat else .error (.invalidU256 u256)

theorem u256ToU128_ok {x : U256} {n : Nat} (h : u256ToU128 x = .ok n) : n = x.toNat := by
  unfold u256ToU128 at h
  split at h
  · cases h
    rfl
  · cases h

namespace PriorityOrder

def isSell (order : PriorityOrder) (tokens : Tokens) : Bool := order.output.token == tokens.usdc

def quoteToken (order : PriorityOrder) (tokens : Tokens) : Address :=
  if order.isSell tokens then order.output.token else order.input.token

def quoteAmount (order : PriorityOrder) (tokens : Tokens) : U256 :=
  if order.isSell tokens then order.output.amount else order.input.amount

def quoteAmtDecimalCorrected (order : PriorityOrder) (tokens : Tokens) :
    Except SolverError ExtRat := do
  let amount ← u256ToU128 (order.quoteAmount tokens)
  return tokens.convertToDecimal (order.quoteToken tokens) amount

def baseToken (order : PriorityOrder) (tokens : Tokens) : Address :=
  if order.isSell tokens then order.input.token else order.output.token

def baseAmount (order : PriorityOrder) (tokens : Tokens) : U256 :=
  if order.isSell tokens then order.input.amount else order.output.amount

def baseAmtDecimalCorrected (order : PriorityOrder) (tokens : Tokens) :
    Except SolverError ExtRat := do
  let amount ← u256ToU128 (order.baseAmount tokens)
  return tokens.convertToDecimal (order.baseToken tokens) amount

def getPrice (order : PriorityOrder) (tokens : Tokens) : Except SolverError ExtRat := do
  let quoteDecimalCorrectedAmt ← order.quoteAmtDecimalCorrected tokens
  let baseDecimalCorrectedAmt ← order.baseAmtDecimalCorrected tokens
  return quoteDecimalCorrectedAmt.div baseDecimalCorrectedAmt

end PriorityOrder

def computePriorityFee (priorityOrderPrice renegadePrice : ExtRat) (isSell : Bool) : U256 :=
  let improvement :=
    if isSell then priorityOrderPrice.le renegadePrice else renegadePrice.le priorityOrderPrice
  if !improvement then 0
  else
    let absDiff := (renegadePrice.sub priorityOrderPrice).abs
    let improvementPercent := absDiff.div priorityOrderPrice
    let priorityFeeMps := improvementPercent.mul (.fin mps)
    BitVec.ofNat 256 (priorityFeeMps.toNat (2 ^ 128 - 1))

/-! ## The order that is sent -/

inductive OrderSide where
  | buy
  | sell
deriving DecidableEq

structure ExternalOrder where
  baseMint : Address
  quoteMint : Address
  side : OrderSide
  baseAmount : Nat
  quoteAmount : Nat
deriving DecidableEq

/-- The tokens that the Renegade API supports, with the address of the one that it calls USDC. -/
structure UniswapXSolver where
  tokens : Tokens
  supportedTokens : Address → Bool
  usdcAddress : Address

namespace UniswapXSolver

def isUsdc (solver : UniswapXSolver) (token : Address) : Bool := token == solver.usdcAddress

def buildOrder (solver : UniswapXSolver) (inputToken outputToken : Address) (inputAmount : Nat) :
    ExternalOrder :=
  if solver.isUsdc inputToken then
    { baseMint := outputToken, quoteMint := inputToken, side := .buy
      baseAmount := 0, quoteAmount := inputAmount }
  else
    { baseMint := inputToken, quoteMint := outputToken, side := .sell
      baseAmount := inputAmount, quoteAmount := 0 }

def isPairServiceable (solver : UniswapXSolver) (inputToken outputToken : Address) : Bool :=
  let inputKnownNotUsdc := solver.supportedTokens inputToken && !solver.isUsdc inputToken
  let outputKnownNotUsdc := solver.supportedTokens outputToken && !solver.isUsdc outputToken
  inputKnownNotUsdc || outputKnownNotUsdc

def isOrderServiceable (solver : UniswapXSolver) (order : PriorityOrder) : Bool :=
  (order.output :: order.moreOutputs).any fun output =>
    solver.isPairServiceable order.input.token output.token

def temporaryOrderFilter (solver : UniswapXSolver) (order : PriorityOrder) : Bool :=
  if !order.moreOutputs.isEmpty then false
  else
    let isOneUsdc := solver.isUsdc order.input.token || solver.isUsdc order.output.token
    let bothSupported :=
      solver.supportedTokens order.input.token && solver.supportedTokens order.output.token
    isOneUsdc && bothSupported

def buildScaledOrder (solver : UniswapXSolver) (order : PriorityOrder) (priorityFee : U256) :
    Except SolverError ExternalOrder := do
  let scaledInput ← (order.input.scale priorityFee).mapError .fixedPoint
  let scaledOutput ← (order.output.scale priorityFee).mapError .fixedPoint
  if scaledInput ≠ order.input.amount ∧ scaledOutput ≠ order.output.amount then
    throw .inputOutputScaling
  let inputU128 ← u256ToU128 scaledInput
  return solver.buildOrder order.input.token order.output.token inputU128

/-- What `solve_order` requests a match for, if it gets there. -/
def solveOrder (solver : UniswapXSolver) (renegadePrice : Except String ExtRat)
    (order : PriorityOrder) : Except SolverError (Option ExternalOrder) := do
  if !solver.isOrderServiceable order || !solver.temporaryOrderFilter order then
    return none
  let priorityOrderPrice ← order.getPrice solver.tokens
  let renegadePrice ← renegadePrice.mapError .priceReporter
  let priorityFeeWei :=
    computePriorityFee priorityOrderPrice renegadePrice (order.isSell solver.tokens)
  let scaledInput ← (order.input.scale priorityFeeWei).mapError .fixedPoint
  let scaledOutput ← (order.output.scale priorityFeeWei).mapError .fixedPoint
  -- the log lines show the amounts as floats
  let _ ← u256ToU128 scaledInput
  let _ ← u256ToU128 order.input.amount
  let _ ← u256ToU128 scaledOutput
  let _ ← u256ToU128 order.output.amount
  return some (← solver.buildScaledOrder order priorityFeeWei)

section Requests

variable {solver : UniswapXSolver} {order : PriorityOrder} {x : ExternalOrder} {fee : U256}

theorem buildScaledOrder_ok (h : solver.buildScaledOrder order fee = .ok x) :
    ∃ i o, order.input.scale fee = .ok i ∧ order.output.scale fee = .ok o ∧
      (i = order.input.amount ∨ o = order.output.amount) ∧
      x = solver.buildOrder order.input.token order.output.token i.toNat := by
  unfold buildScaledOrder at h
  obtain ⟨i, hi, h⟩ := Effect.bind_ok.mp h
  obtain ⟨o, ho, h⟩ := Effect.bind_ok.mp h
  refine ⟨i, o, Effect.mapError_ok.mp hi, Effect.mapError_ok.mp ho, ?_⟩
  by_cases hboth : i ≠ order.input.amount ∧ o ≠ order.output.amount
  · rw [if_pos hboth] at h
    cases h
  · rw [if_neg hboth] at h
    obtain ⟨n, hn, h⟩ := Effect.bind_ok.mp h
    cases h
    rw [u256ToU128_ok hn]
    exact ⟨by tauto, rfl⟩

/--
**What is requested is the scaled input** of an order with a single output, of which one side at
most was scaled.
-/
theorem solveOrder_requests {renegadePrice : Except String ExtRat}
    (h : solver.solveOrder renegadePrice order = .ok (some x)) :
    order.moreOutputs = [] ∧ ∃ p r i o, order.getPrice solver.tokens = .ok p ∧
      renegadePrice = .ok r ∧
      order.input.scale (computePriorityFee p r (order.isSell solver.tokens)) = .ok i ∧
      order.output.scale (computePriorityFee p r (order.isSell solver.tokens)) = .ok o ∧
      (i = order.input.amount ∨ o = order.output.amount) ∧
      x = solver.buildOrder order.input.token order.output.token i.toNat := by
  unfold solveOrder at h
  split at h
  · cases h
  · next hserviceable =>
      have hsingle : order.moreOutputs = [] := by
        by_contra hmore
        refine hserviceable ?_
        simp [temporaryOrderFilter, hmore]
      refine ⟨hsingle, ?_⟩
      obtain ⟨p, hp, h⟩ := Effect.bind_ok.mp h
      obtain ⟨r, hr, h⟩ := Effect.bind_ok.mp h
      obtain ⟨i, hi, h⟩ := Effect.bind_ok.mp h
      obtain ⟨o, ho, h⟩ := Effect.bind_ok.mp h
      obtain ⟨-, -, h⟩ := Effect.bind_ok.mp h
      obtain ⟨-, -, h⟩ := Effect.bind_ok.mp h
      obtain ⟨-, -, h⟩ := Effect.bind_ok.mp h
      obtain ⟨-, -, h⟩ := Effect.bind_ok.mp h
      obtain ⟨y, hy, h⟩ := Effect.bind_ok.mp h
      cases h
      obtain ⟨i', o', hi', ho', hone, hx⟩ := buildScaledOrder_ok hy
      exact ⟨p, r, i', o', hp, Effect.mapError_ok.mp hr, hi', ho', hone, hx⟩

end Requests

end UniswapXSolver

/-! ## The price of the scaled order -/

section Prices

variable {tokens : Tokens} {order : PriorityOrder} {p r : ℚ} {fee : U256}

/-- A token amount in the unit that prices are in. -/
def Tokens.units (tokens : Tokens) (token : Address) (amount : ℚ) : ℚ :=
  amount / 10 ^ tokens.decimals token

/-- Input for output is no worse for whoever fills the order than quote for base at this price. -/
def NoWorse (tokens : Tokens) (order : PriorityOrder) (price input output : ℚ) : Prop :=
  if order.isSell tokens then
    tokens.units order.output.token output ≤ price * tokens.units order.input.token input
  else price * tokens.units order.output.token output ≤ tokens.units order.input.token input

/-- With one unit more of an input that is scaled, or one unit less of an output. -/
def NoWorseUpToOne (tokens : Tokens) (order : PriorityOrder) (price : ℚ) (input output : U256) :
    Prop :=
  NoWorse tokens order price
    (if order.input.mpsPerPriorityFeeWei = 0 then input.toNat else input.toNat + 1)
    (if order.output.mpsPerPriorityFeeWei = 0 then output.toNat else output.toNat - 1)

/-- There is an improvement over the price of the order. -/
def Improves (isSell : Bool) (p r : ℚ) : Prop := if isSell then p ≤ r else r ≤ p

theorem units_mul (token : Address) (a k : ℚ) :
    tokens.units token (a * k) = tokens.units token a * k := mul_div_right_comm a k _

theorem units_mono (token : Address) {a b : ℚ} (h : a ≤ b) :
    tokens.units token a ≤ tokens.units token b :=
  div_le_div_of_nonneg_right h (by positivity)

theorem units_nonneg (tokens : Tokens) (token : Address) (n : Nat) : 0 ≤ tokens.units token n :=
  div_nonneg (Nat.cast_nonneg n) (by positivity)

/-- The price of an order is quote for base. -/
theorem quote_eq_of_getPrice (h : order.getPrice tokens = .ok (.fin p)) :
    tokens.units (order.quoteToken tokens) (order.quoteAmount tokens).toNat =
      p * tokens.units (order.baseToken tokens) (order.baseAmount tokens).toNat := by
  unfold PriorityOrder.getPrice PriorityOrder.quoteAmtDecimalCorrected
    PriorityOrder.baseAmtDecimalCorrected at h
  cases hq : u256ToU128 (order.quoteAmount tokens) with
  | error e =>
      rw [hq] at h
      cases h
  | ok q =>
      cases hb : u256ToU128 (order.baseAmount tokens) with
      | error e =>
          rw [hq, hb] at h
          cases h
      | ok b =>
          rw [hq, hb] at h
          injection h with hdiv
          rw [u256ToU128_ok hq, u256ToU128_ok hb] at hdiv
          exact (ExtRat.eq_of_div_fin hdiv).2

theorem sell_price_eq (hsell : order.isSell tokens = true)
    (h : order.getPrice tokens = .ok (.fin p)) :
    tokens.units order.output.token order.output.amount.toNat =
      p * tokens.units order.input.token order.input.amount.toNat := by
  have heq := quote_eq_of_getPrice h
  unfold PriorityOrder.quoteToken PriorityOrder.quoteAmount PriorityOrder.baseToken
    PriorityOrder.baseAmount at heq
  rwa [if_pos hsell, if_pos hsell, if_pos hsell, if_pos hsell] at heq

theorem buy_price_eq (hbuy : ¬ order.isSell tokens = true)
    (h : order.getPrice tokens = .ok (.fin p)) :
    tokens.units order.input.token order.input.amount.toNat =
      p * tokens.units order.output.token order.output.amount.toNat := by
  have heq := quote_eq_of_getPrice h
  unfold PriorityOrder.quoteToken PriorityOrder.quoteAmount PriorityOrder.baseToken
    PriorityOrder.baseAmount at heq
  rwa [if_neg hbuy, if_neg hbuy, if_neg hbuy, if_neg hbuy] at heq

/-- The fee is the relative difference, cut off. -/
theorem toNat_computePriorityFee {isSell : Bool} (hp : 0 < p) (himproves : Improves isSell p r) :
    (computePriorityFee (.fin p) (.fin r) isSell).toNat =
      ExtRat.toNat (2 ^ 128 - 1) (.fin (|r - p| / p * mps)) := by
  have hfound : (if isSell then ExtRat.le (.fin p) (.fin r) else ExtRat.le (.fin r) (.fin p)) =
      true := by
    unfold Improves at himproves
    cases isSell with
    | true | false => simpa using himproves
  unfold computePriorityFee
  rw [hfound]
  simp only [Bool.not_true, Bool.false_eq_true, if_false, ExtRat.sub, ExtRat.abs,
    ExtRat.div_fin hp.ne', ExtRat.mul]
  have hbound := ExtRat.toNat_le (.fin (|r - p| / p * mps)) (2 ^ 128 - 1)
  rw [BitVec.toNat_ofNat, Nat.mod_eq_of_lt (by omega)]

theorem fee_mul_le {isSell : Bool} (hp : 0 < p) (himproves : Improves isSell p r) :
    ((computePriorityFee (.fin p) (.fin r) isSell).toNat : ℚ) * p ≤ |r - p| * mps := by
  have hnonneg : 0 ≤ |r - p| / p * mps := by positivity
  rw [toNat_computePriorityFee hp himproves]
  calc _ ≤ |r - p| / p * mps * p :=
        mul_le_mul_of_nonneg_right (ExtRat.toNat_fin_le hnonneg _) hp.le
    _ = |r - p| * mps := by rw [mul_right_comm, div_mul_cancel₀ _ hp.ne']

/-! How far the scaled amounts are from the exact ones. -/

theorem input_of_rate_zero {input : PriorityInput} {i : U256}
    (hrate : input.mpsPerPriorityFeeWei = 0) (h : input.scale fee = .ok i) : i = input.amount := by
  have hzero : input.discount fee = 0 := by
    unfold PriorityInput.discount
    rw [hrate]
    rfl
  apply BitVec.eq_of_toNat_eq
  rw [PriorityInput.toNat_of_scale h, PriorityInput.scaled, hzero, Nat.zero_min, Nat.sub_zero,
    Nat.mul_div_cancel _ (by decide)]

theorem output_of_rate_zero {output : PriorityOutput} {o : U256}
    (hrate : output.mpsPerPriorityFeeWei = 0) (h : output.scale fee = .ok o) :
    o = output.amount := by
  unfold PriorityOutput.scale at h
  rw [if_pos hrate] at h
  cases h
  rfl

theorem input_of_rate_one {input : PriorityInput} {i : U256}
    (hrate : input.mpsPerPriorityFeeWei = 1) (h : input.scale fee = .ok i) :
    i.toNat = input.amount.toNat * (mps - fee.toNat) / mps := by
  have hdiscount : input.discount fee = fee.toNat := by
    unfold PriorityInput.discount
    rw [hrate]
    exact Nat.mul_one _
  rw [PriorityInput.toNat_of_scale h, PriorityInput.scaled, hdiscount,
    show mps - min fee.toNat mps = mps - fee.toNat by omega]

theorem input_bound_of_rate_one {input : PriorityInput} {i : U256}
    (hrate : input.mpsPerPriorityFeeWei = 1) (h : input.scale fee = .ok i) :
    (input.amount.toNat : ℚ) * (mps - fee.toNat : Nat) ≤ (i.toNat + 1) * mps := by
  have hhigh := Nat.lt_mul_div_succ (input.amount.toNat * (mps - fee.toNat)) (by decide : 0 < mps)
  rw [← input_of_rate_one hrate h, Nat.mul_comm mps] at hhigh
  exact_mod_cast hhigh.le

theorem output_bound_of_rate_one {output : PriorityOutput} {o : U256}
    (hrate : output.mpsPerPriorityFeeWei = 1) (h : output.scale fee = .ok o) :
    ((o.toNat : ℚ) - 1) * mps ≤ output.amount.toNat * (mps + fee.toNat) := by
  have hbonus : output.bonus fee = fee.toNat := by
    unfold PriorityOutput.bonus
    rw [hrate]
    exact Nat.mul_one _
  have hscaled : o.toNat = (output.amount.toNat * (mps + fee.toNat) + mps - 1) / mps := by
    rw [PriorityOutput.toNat_of_scale h, PriorityOutput.scaled, hbonus,
      Nat.ceilDiv_eq_add_pred_div]
  have hlow := Nat.div_mul_le_self (output.amount.toNat * (mps + fee.toNat) + mps - 1) mps
  rw [← hscaled] at hlow
  have hmul : o.toNat * mps ≤ output.amount.toNat * (mps + fee.toNat) + mps := by omega
  have hcast : (o.toNat : ℚ) * mps ≤ output.amount.toNat * (mps + fee.toNat) + mps := by
    exact_mod_cast hmul
  linarith

/-! The four cases. -/

theorem mps_pos : (0 : ℚ) < mps := by
  have hpos : 0 < mps := by decide
  exact_mod_cast hpos

/-- What is added to the output of a sell order stays within Renegade's price. -/
theorem sell_output_no_worse {o : U256} (hsell : order.isSell tokens = true)
    (hprice : order.getPrice tokens = .ok (.fin p)) (hle : p ≤ r)
    (hfee : (fee.toNat : ℚ) * p ≤ |r - p| * mps) (hrate : order.output.mpsPerPriorityFeeWei = 1)
    (ho : order.output.scale fee = .ok o) :
    tokens.units order.output.token ((o.toNat : ℚ) - 1) ≤
      r * tokens.units order.input.token order.input.amount.toNat := by
  rw [abs_of_nonneg (sub_nonneg.mpr hle)] at hfee
  have hbase := units_nonneg tokens order.input.token order.input.amount.toNat
  refine le_of_mul_le_mul_right ?_ mps_pos
  calc tokens.units order.output.token ((o.toNat : ℚ) - 1) * mps
      = tokens.units order.output.token (((o.toNat : ℚ) - 1) * mps) := (units_mul ..).symm
    _ ≤ tokens.units order.output.token (order.output.amount.toNat * (mps + fee.toNat)) :=
        units_mono _ (output_bound_of_rate_one hrate ho)
    _ = tokens.units order.input.token order.input.amount.toNat * (p * mps + fee.toNat * p) := by
        rw [units_mul, sell_price_eq hsell hprice]
        ring
    _ ≤ tokens.units order.input.token order.input.amount.toNat * (p * mps + (r - p) * mps) :=
        mul_le_mul_of_nonneg_left (by linarith) hbase
    _ = r * tokens.units order.input.token order.input.amount.toNat * mps := by ring

/-- What is taken off the input of a buy order stays within Renegade's price. -/
theorem buy_input_no_worse {i : U256} (hbuy : ¬ order.isSell tokens = true)
    (hprice : order.getPrice tokens = .ok (.fin p)) (hle : r ≤ p)
    (hfee : (fee.toNat : ℚ) * p ≤ |r - p| * mps) (hrate : order.input.mpsPerPriorityFeeWei = 1)
    (hi : order.input.scale fee = .ok i) :
    r * tokens.units order.output.token order.output.amount.toNat ≤
      tokens.units order.input.token ((i.toNat : ℚ) + 1) := by
  rw [abs_of_nonpos (sub_nonpos.mpr hle), neg_sub] at hfee
  have hbase := units_nonneg tokens order.output.token order.output.amount.toNat
  have hquote := units_nonneg tokens order.input.token order.input.amount.toNat
  have hsub : (mps : ℚ) - fee.toNat ≤ (mps - fee.toNat : Nat) := by
    rw [sub_le_iff_le_add]
    exact_mod_cast (by omega : mps ≤ mps - fee.toNat + fee.toNat)
  refine le_of_mul_le_mul_right ?_ mps_pos
  calc r * tokens.units order.output.token order.output.amount.toNat * mps
      = tokens.units order.output.token order.output.amount.toNat * (p * mps - (p - r) * mps) := by
        ring
    _ ≤ tokens.units order.output.token order.output.amount.toNat * (p * mps - fee.toNat * p) :=
        mul_le_mul_of_nonneg_left (by linarith) hbase
    _ = tokens.units order.input.token order.input.amount.toNat * (mps - fee.toNat) := by
        rw [buy_price_eq hbuy hprice]
        ring
    _ ≤ tokens.units order.input.token order.input.amount.toNat * (mps - fee.toNat : Nat) :=
        mul_le_mul_of_nonneg_left hsub hquote
    _ = tokens.units order.input.token (order.input.amount.toNat * (mps - fee.toNat : Nat)) :=
        (units_mul ..).symm
    _ ≤ tokens.units order.input.token (((i.toNat : ℚ) + 1) * mps) :=
        units_mono _ (input_bound_of_rate_one hrate hi)
    _ = tokens.units order.input.token ((i.toNat : ℚ) + 1) * mps := units_mul ..

/-- What is added to the output of a buy order falls short of Renegade's price. -/
theorem buy_output_no_worse {o : U256} (hbuy : ¬ order.isSell tokens = true)
    (hprice : order.getPrice tokens = .ok (.fin p)) (hr : 0 < r) (hle : r ≤ p)
    (hfee : (fee.toNat : ℚ) * p ≤ |r - p| * mps) (hrate : order.output.mpsPerPriorityFeeWei = 1)
    (ho : order.output.scale fee = .ok o) :
    r * tokens.units order.output.token ((o.toNat : ℚ) - 1) ≤
      tokens.units order.input.token order.input.amount.toNat := by
  rw [abs_of_nonpos (sub_nonpos.mpr hle), neg_sub] at hfee
  have hbase := units_nonneg tokens order.output.token order.output.amount.toNat
  have hnonneg : (0 : ℚ) ≤ fee.toNat := Nat.cast_nonneg _
  -- the fee is a share of the order's price, and is taken of Renegade's, which is lower
  have hshare : r * (mps + fee.toNat) ≤ p * mps := by
    have hless : (fee.toNat : ℚ) * r ≤ fee.toNat * p := mul_le_mul_of_nonneg_left hle hnonneg
    linarith
  refine le_of_mul_le_mul_right ?_ mps_pos
  calc r * tokens.units order.output.token ((o.toNat : ℚ) - 1) * mps
      = r * tokens.units order.output.token (((o.toNat : ℚ) - 1) * mps) := by
        rw [units_mul, mul_assoc]
    _ ≤ r * tokens.units order.output.token (order.output.amount.toNat * (mps + fee.toNat)) :=
        mul_le_mul_of_nonneg_left (units_mono _ (output_bound_of_rate_one hrate ho)) hr.le
    _ = tokens.units order.output.token order.output.amount.toNat * (r * (mps + fee.toNat)) := by
        rw [units_mul]
        ring
    _ ≤ tokens.units order.output.token order.output.amount.toNat * (p * mps) :=
        mul_le_mul_of_nonneg_left hshare hbase
    _ = tokens.units order.input.token order.input.amount.toNat * mps := by
        rw [buy_price_eq hbuy hprice]
        ring

/-- What is left of a base amount after a discount of the relative improvement, in whole
thousandths of a basis point and whole units. -/
def leftOver (p r : ℚ) (amount : Nat) : Nat :=
  amount * (mps - ((r - p) / p * mps).floor.toNat) / mps

/-- What is left of the input of a sell order. -/
theorem leftOver_of_scale {i : U256} (hp : 0 < p) (hle : p ≤ r)
    (hrate : order.input.mpsPerPriorityFeeWei = 1)
    (hi : order.input.scale (computePriorityFee (.fin p) (.fin r) true) = .ok i) :
    i.toNat = leftOver p r order.input.amount.toNat := by
  have hfee := toNat_computePriorityFee hp (show Improves true p r from hle)
  rw [abs_of_nonneg (sub_nonneg.mpr hle), ExtRat.toNat] at hfee
  -- a fee that is cut off to 128 bits takes everything
  have hcut : mps - min ((r - p) / p * mps).floor.toNat (2 ^ 128 - 1) =
      mps - ((r - p) / p * mps).floor.toNat := by
    have hmps : mps ≤ 2 ^ 128 - 1 := by decide
    omega
  rw [input_of_rate_one hrate hi, hfee, hcut, leftOver]

/-- The price of a sell order with so much input, against Renegade's. -/
theorem sell_input_iff {n : Nat} (hsell : order.isSell tokens = true)
    (hprice : order.getPrice tokens = .ok (.fin p)) :
    tokens.units order.output.token order.output.amount.toNat ≤
        r * tokens.units order.input.token (n + 1) ↔
      p * order.input.amount.toNat ≤ r * (n + 1) := by
  have hpow : (0 : ℚ) < 10 ^ tokens.decimals order.input.token := by positivity
  rw [sell_price_eq hsell hprice]
  unfold Tokens.units
  rw [← mul_div_assoc, ← mul_div_assoc, div_le_div_iff_of_pos_right hpow]

theorem noWorse_of_sell {price input output : ℚ} (hsell : order.isSell tokens = true) :
    NoWorse tokens order price input output ↔
      tokens.units order.output.token output ≤ price * tokens.units order.input.token input := by
  unfold NoWorse
  rw [if_pos hsell]

theorem noWorse_of_buy {price input output : ℚ} (hbuy : ¬ order.isSell tokens = true) :
    NoWorse tokens order price input output ↔
      price * tokens.units order.output.token output ≤ tokens.units order.input.token input := by
  unfold NoWorse
  rw [if_neg hbuy]

theorem noWorseUpToOne_of_input {i o : U256} (hinput : order.input.mpsPerPriorityFeeWei = 1)
    (houtput : order.output.mpsPerPriorityFeeWei = 0) :
    NoWorseUpToOne tokens order r i o ↔ NoWorse tokens order r (i.toNat + 1) o.toNat := by
  have hne : order.input.mpsPerPriorityFeeWei ≠ 0 := by
    rw [hinput]
    decide
  unfold NoWorseUpToOne
  rw [if_neg hne, if_pos houtput]

theorem noWorseUpToOne_of_output {i o : U256} (hinput : order.input.mpsPerPriorityFeeWei = 0)
    (houtput : order.output.mpsPerPriorityFeeWei = 1) :
    NoWorseUpToOne tokens order r i o ↔ NoWorse tokens order r i.toNat (o.toNat - 1) := by
  have hne : order.output.mpsPerPriorityFeeWei ≠ 0 := by
    rw [houtput]
    decide
  unfold NoWorseUpToOne
  rw [if_pos hinput, if_neg hne]

/-- The fee that the solver bids at these prices. -/
def PriorityOrder.bid (order : PriorityOrder) (tokens : Tokens) (p r : ℚ) : U256 :=
  computePriorityFee (.fin p) (.fin r) (order.isSell tokens)

/-- If it is the base amount of a sell order that gets the discount, then what is left of it, and
one unit, are worth as much at Renegade's price as all of it at the order's. -/
def KeepsPrice (tokens : Tokens) (order : PriorityOrder) (p r : ℚ) : Prop :=
  order.isSell tokens = true → order.input.mpsPerPriorityFeeWei = 1 →
    p * order.input.amount.toNat ≤ r * (leftOver p r order.input.amount.toNat + 1)

/-- An order at a price, and its amounts scaled by the fee for an improvement. -/
structure ScaledFor (tokens : Tokens) (order : PriorityOrder) (p r : ℚ) (i o : U256) : Prop where
  pos : 0 < p
  renegade_pos : 0 < r
  price : order.getPrice tokens = .ok (.fin p)
  improves : Improves (order.isSell tokens) p r
  rates : order.input.mpsPerPriorityFeeWei = 1 ∧ order.output.mpsPerPriorityFeeWei = 0 ∨
    order.input.mpsPerPriorityFeeWei = 0 ∧ order.output.mpsPerPriorityFeeWei = 1
  input : order.input.scale (order.bid tokens p r) = .ok i
  output : order.output.scale (order.bid tokens p r) = .ok o

/--
**When the scaled order is no worse than Renegade's price**, up to one unit of the scaled amount:
always, but for a sell order whose input is scaled, and for that exactly if what is left of the
input is worth enough.
-/
theorem scaled_price_no_worse_iff (tokens : Tokens) (order : PriorityOrder) (p r : ℚ) (i o : U256)
    (h : ScaledFor tokens order p r i o) :
    NoWorseUpToOne tokens order r i o ↔ KeepsPrice tokens order p r := by
  have hfee := fee_mul_le h.pos h.improves
  have himproves := h.improves
  unfold Improves at himproves
  by_cases hsell : order.isSell tokens = true
  · rw [if_pos hsell] at himproves
    rcases h.rates with ⟨hinput, houtput⟩ | ⟨hinput, houtput⟩
    · -- the base amount is scaled: here the condition decides
      have hi := h.input
      rw [PriorityOrder.bid, hsell] at hi
      rw [noWorseUpToOne_of_input hinput houtput, noWorse_of_sell hsell,
        output_of_rate_zero houtput h.output, sell_input_iff hsell h.price,
        leftOver_of_scale h.pos himproves hinput hi]
      exact ⟨fun hle _ _ => hle, fun hle => hle hsell hinput⟩
    · rw [noWorseUpToOne_of_output hinput houtput, noWorse_of_sell hsell,
        input_of_rate_zero hinput h.input]
      refine iff_of_true (sell_output_no_worse hsell h.price himproves hfee houtput h.output) ?_
      intro _ hone
      cases hinput.symm.trans hone
  · rw [if_neg hsell] at himproves
    have hbuy : KeepsPrice tokens order p r := fun h => absurd h hsell
    rcases h.rates with ⟨hinput, houtput⟩ | ⟨hinput, houtput⟩
    · rw [noWorseUpToOne_of_input hinput houtput, noWorse_of_buy hsell,
        output_of_rate_zero houtput h.output]
      exact iff_of_true (buy_input_no_worse hsell h.price himproves hfee hinput h.input) hbuy
    · rw [noWorseUpToOne_of_output hinput houtput, noWorse_of_buy hsell,
        input_of_rate_zero hinput h.input]
      exact iff_of_true
        (buy_output_no_worse hsell h.price h.renegade_pos himproves hfee houtput h.output) hbuy

/-- What `solve_order` requests a match for is an order that has been scaled that way. -/
theorem requested_scaledFor {solver : UniswapXSolver} {x : ExternalOrder}
    (h : solver.solveOrder (.ok (.fin r)) order = .ok (some x)) (hp : 0 < p) (hr : 0 < r)
    (hprice : order.getPrice solver.tokens = .ok (.fin p))
    (himproves : Improves (order.isSell solver.tokens) p r)
    (hrates : order.input.mpsPerPriorityFeeWei = 1 ∧ order.output.mpsPerPriorityFeeWei = 0 ∨
      order.input.mpsPerPriorityFeeWei = 0 ∧ order.output.mpsPerPriorityFeeWei = 1) :
    ∃ i o, ScaledFor solver.tokens order p r i o ∧
      x = solver.buildOrder order.input.token order.output.token i.toNat := by
  obtain ⟨-, p', r', i, o, hp', hr', hi, ho, -, hx⟩ := UniswapXSolver.solveOrder_requests h
  rw [hprice] at hp'
  cases hp'
  cases hr'
  exact ⟨i, o, ⟨hp, hr, hprice, himproves, hrates, hi, ho⟩, hx⟩

/-- The price of an order of ordinary amounts. -/
theorem getPrice_of_lt (hquote : (order.quoteAmount tokens).toNat < 2 ^ 128)
    (hbase : (order.baseAmount tokens).toNat < 2 ^ 128)
    (hpos : tokens.units (order.baseToken tokens) (order.baseAmount tokens).toNat ≠ 0) :
    order.getPrice tokens =
      .ok (.fin (tokens.units (order.quoteToken tokens) (order.quoteAmount tokens).toNat /
        tokens.units (order.baseToken tokens) (order.baseAmount tokens).toNat)) := by
  unfold PriorityOrder.getPrice PriorityOrder.quoteAmtDecimalCorrected
    PriorityOrder.baseAmtDecimalCorrected u256ToU128
  rw [if_pos hquote, if_pos hbase]
  exact congrArg Except.ok (ExtRat.div_fin hpos)

/-- USDC with six decimals, bitcoin with eight, and tokens with eighteen. -/
def someTokens : Tokens := ⟨1, fun token => if token = 1 then 6 else if token = 3 then 8 else 18⟩

/-- A sell order whose input is scaled. -/
def sellOrder (token : Address) (amount quote : U256) : PriorityOrder :=
  ⟨⟨token, amount, 1⟩, ⟨1, quote, 0⟩, []⟩

theorem sellOrder_price {token : Address} {amount quote : U256} (hamount : amount.toNat < 2 ^ 128)
    (hquote : quote.toNat < 2 ^ 128)
    (hp : someTokens.units 1 quote.toNat / someTokens.units token amount.toNat = p)
    (hpos : 0 < p) : (sellOrder token amount quote).getPrice someTokens = .ok (.fin p) := by
  rw [← hp]
  refine getPrice_of_lt hquote hamount fun hzero => ?_
  have hzero : someTokens.units token amount.toNat = 0 := hzero
  rw [hzero, div_zero] at hp
  exact absurd hp hpos.ne

/-- A bitcoin for 100000 USDC, at an improvement of one basis point: the one unit makes up for
what is taken off too much. -/
theorem bitcoin_scaled :
    ScaledFor someTokens (sellOrder 3 100_000_000 100_000_000_000) 100000 100010 99_990_000
        100_000_000_000 ∧
      NoWorseUpToOne someTokens (sellOrder 3 100_000_000 100_000_000_000) 100010 99_990_000
        100_000_000_000 := by
  have hbid : (sellOrder 3 100_000_000 100_000_000_000).bid someTokens 100000 100010 = 1000 := by
    show computePriorityFee (.fin 100000) (.fin 100010) true = 1000
    decide +kernel
  have hscaled : ScaledFor someTokens (sellOrder 3 100_000_000 100_000_000_000) 100000 100010
      99_990_000 100_000_000_000 :=
    { pos := by decide +kernel
      renegade_pos := by decide +kernel
      price := sellOrder_price (by decide) (by decide) (by decide +kernel) (by decide +kernel)
      improves := by
        show (100000 : ℚ) ≤ 100010
        decide +kernel
      rates := .inl ⟨rfl, rfl⟩
      input := by
        rw [hbid]
        rfl
      output := by
        rw [hbid]
        rfl }
  refine ⟨hscaled, (scaled_price_no_worse_iff _ _ _ _ _ _ hscaled).mpr fun _ _ => ?_⟩
  decide +kernel

/--
A token for 1000 USDC, and ten percent less of it: the scaled order pays 1111 where Renegade has
1100.
-/
theorem sell_input_overscaled :
    ScaledFor someTokens (sellOrder 2 1_000_000_000_000_000_000 1_000_000_000) 1000 1100
        900_000_000_000_000_000 1_000_000_000 ∧
      someTokens.units 1 1_000_000_000 / someTokens.units 2 900_000_000_000_000_000 = 10000 / 9 ∧
      ¬ NoWorseUpToOne someTokens (sellOrder 2 1_000_000_000_000_000_000 1_000_000_000) 1100
        900_000_000_000_000_000 1_000_000_000 := by
  have hbid : (sellOrder 2 1_000_000_000_000_000_000 1_000_000_000).bid someTokens 1000 1100 =
      1_000_000 := by
    show computePriorityFee (.fin 1000) (.fin 1100) true = 1_000_000
    decide +kernel
  refine ⟨?_, by decide +kernel, ?_⟩
  · exact
      { pos := by decide +kernel
        renegade_pos := by decide +kernel
        price := sellOrder_price (by decide) (by decide) (by decide +kernel) (by decide +kernel)
        improves := by
          show (1000 : ℚ) ≤ 1100
          decide +kernel
        rates := .inl ⟨rfl, rfl⟩
        input := by
          rw [hbid]
          rfl
        output := by
          rw [hbid]
          rfl }
  · rw [noWorseUpToOne_of_input rfl rfl, noWorse_of_sell rfl]
    decide +kernel

end Prices

end RelayerExtensions.Solver
