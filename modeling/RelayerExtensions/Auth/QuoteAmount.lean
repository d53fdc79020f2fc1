import Mathlib.Algebra.Order.Floor.Semifield
import Mathlib.Tactic.Linarith
import Mathlib.Tactic.Positivity
import RelayerExtensions.Auth.FixedPoint
import RelayerExtensions.Auth.Rfqt

/-!
# What an order is worth

An order names an amount on one of its sides: of the base token, or of USDC. What it is worth in
USDC decides whether its gas is sponsored. For an amount of the base token that takes a price, and
the price reporter's is in whole USDC per whole token, while amounts are in atoms; so a factor of
`10 ^ (6 - decimals)` is due, which `get_decimal_adjusted_price` of the price client would include.
`get_quote_amount` asks for the price without it.

So the amount it returns is right for orders that name an amount of USDC, and for base tokens with
as many decimals as USDC (`quote_amount_iff`). For other base tokens it is too large or too small
by that factor, unless the order is worth nothing either way.
-/

namespace RelayerExtensions.Auth

open Effect

/-! ## The value of an order -/

/-- The amount an order names, in atoms. -/
inductive NamedAmount where
  | base (amount : Amount)
  | quote (amount : Amount)

/-- A price with so many fractional bits, rounded down. -/
def truncatedPrice (precision : Nat) (price : ℚ) : ℚ := ⌊price * 2 ^ precision⌋₊ / 2 ^ precision

/-- Atoms of USDC per atom of a token, for each whole USDC per whole token. -/
def decimalFactor (decimals : Nat) : ℚ := 10 ^ ((6 : ℤ) - decimals)

namespace NamedAmount

/-- The value in atoms of USDC, of a base token with these decimals at a price in whole USDC per
whole token. -/
def usdcValue (precision decimals : Nat) (price : ℚ) : NamedAmount → Nat
  | .base amount => ⌊amount.toNat * truncatedPrice precision price * decimalFactor decimals⌋₊
  | .quote amount => amount.toNat

/-- An amount of the base token is worth less than one atom of USDC, with the factor for the
decimals and without; or that factor is one. -/
def Unscaled (precision decimals : Nat) (price : ℚ) : NamedAmount → Prop
  | .base amount => decimals = 6 ∨ amount.toNat * truncatedPrice precision price < 1 ∧
      amount.toNat * truncatedPrice precision price * decimalFactor decimals < 1
  | .quote _ => True

/-- The amount at its price can be held in a `u128`. -/
def Fits (price : ℚ) : NamedAmount → Prop
  | .base amount => price < 2 ^ 128 ∧ amount.toNat * price < 2 ^ 128
  | .quote _ => True

end NamedAmount

/-! ## Scaling and rounding down -/

/-- A number that is scaled up keeps its integer part only if it stays below one. -/
theorem floor_mul_eq_iff {x s : ℚ} (hx : 0 ≤ x) (hs : 2 ≤ s) : ⌊x⌋₊ = ⌊x * s⌋₊ ↔ x * s < 1 := by
  have hle : x ≤ x * s := le_mul_of_one_le_right hx (by linarith)
  constructor
  · intro heq
    by_contra hge
    -- the integer part is at least one, so doubling adds at least one to it
    have hone : 1 ≤ ⌊x⌋₊ := by
      rw [heq]
      exact Nat.le_floor (by simpa using hge)
    have hxone : (1 : ℚ) ≤ x := by
      have := Nat.floor_le hx
      have hcast : (1 : ℚ) ≤ ⌊x⌋₊ := by exact_mod_cast hone
      linarith
    have hstep : ⌊x⌋₊ + 1 ≤ ⌊x * s⌋₊ := by
      rw [← Nat.floor_add_one hx]
      exact Nat.floor_le_floor (by nlinarith)
    omega
  · intro hlt
    rw [Nat.floor_eq_zero.mpr hlt, Nat.floor_eq_zero.mpr (lt_of_le_of_lt hle hlt)]

theorem decimalFactor_pos (decimals : Nat) : 0 < decimalFactor decimals :=
  zpow_pos (by norm_num) _

theorem two_le_ten_zpow {n : ℤ} (h : 0 < n) : (2 : ℚ) ≤ 10 ^ n := by
  obtain ⟨k, rfl⟩ := Int.eq_ofNat_of_zero_le h.le
  have hk : k ≠ 0 := by
    rintro rfl
    exact absurd h (lt_irrefl _)
  have hten : (10 : ℚ) ^ 1 ≤ 10 ^ k :=
    pow_le_pow_right₀ (by norm_num) (Nat.one_le_iff_ne_zero.mpr hk)
  rw [zpow_natCast]
  linarith

/-- **Leaving the decimals out** is right only where they make no difference. -/
theorem floor_decimalFactor_iff {x : ℚ} (hx : 0 ≤ x) (decimals : Nat) :
    ⌊x⌋₊ = ⌊x * decimalFactor decimals⌋₊ ↔
      decimals = 6 ∨ x < 1 ∧ x * decimalFactor decimals < 1 := by
  have hpos := decimalFactor_pos decimals
  rcases lt_trichotomy decimals 6 with hlt | rfl | hgt
  · -- fewer decimals than USDC: the value is larger
    have htwo : 2 ≤ decimalFactor decimals := two_le_ten_zpow (by omega)
    rw [floor_mul_eq_iff hx htwo]
    constructor
    · intro h
      exact .inr ⟨lt_of_le_of_lt (le_mul_of_one_le_right hx (by linarith)) h, h⟩
    · rintro (rfl | ⟨-, h⟩)
      · exact absurd hlt (lt_irrefl _)
      · exact h
  · have hone : decimalFactor 6 = 1 := by norm_num [decimalFactor]
    simp [hone]
  · -- more decimals: it is smaller, and the amount is the one that is scaled up
    have hinv : 2 ≤ (decimalFactor decimals)⁻¹ := by
      rw [decimalFactor, ← zpow_neg]
      exact two_le_ten_zpow (by omega)
    have hback : x * decimalFactor decimals * (decimalFactor decimals)⁻¹ = x :=
      mul_inv_cancel_right₀ hpos.ne' x
    have hiff := floor_mul_eq_iff (mul_nonneg hx hpos.le) hinv
    rw [hback] at hiff
    rw [eq_comm, hiff]
    constructor
    · intro h
      refine .inr ⟨h, lt_of_le_of_lt ?_ h⟩
      calc x * decimalFactor decimals
          ≤ x * decimalFactor decimals * (decimalFactor decimals)⁻¹ :=
            le_mul_of_one_le_right (mul_nonneg hx hpos.le) (by linarith)
        _ = x := hback
    · rintro (rfl | ⟨h, -⟩)
      · exact absurd hgt (lt_irrefl _)
      · exact h

/-! ## What the code returns -/

namespace Server

variable (self : Server)

/-- The amount an order names: that of the base token if it is set, on either side, and else that
of USDC. What is received exactly is before fees. -/
def namedAmount (order : ExternalOrder) (relayerFee : FixedPoint) :
    Except AuthServerError NamedAmount := do
  let (baseMint, quoteMint) ← self.pickBaseAndQuoteMints order.inputMint order.outputMint
  if baseMint = order.inputMint ∧ order.inputAmount ≠ 0 then
    return .base order.inputAmount
  else if baseMint = order.outputMint ∧ order.outputAmount ≠ 0 then
    .base <$> self.feeAdjustedOutputAmount order relayerFee
  else if quoteMint = order.inputMint ∧ order.inputAmount ≠ 0 then
    return .quote order.inputAmount
  else
    .quote <$> self.feeAdjustedOutputAmount order relayerFee

variable {self} {price : Float} {n : NamedAmount}

/-- The quote amount at a price, as the code computes it. -/
def quotedAmount (self : Server) (priceFp : FixedPoint) : NamedAmount → Amount
  | .base amount => self.fp.mulFloor priceFp amount
  | .quote amount => amount

theorem getBaseAndQuoteAmountWithPrice_eq {order : ExternalOrder} {relayerFee : FixedPoint}
    (hn : self.namedAmount order relayerFee = .ok n)
    (hprice : self.fp.fromF64RoundDown price ≠ self.fp.zero) :
    ∃ baseAmount, self.getBaseAndQuoteAmountWithPrice order relayerFee price =
      .ok (baseAmount, self.quotedAmount (self.fp.fromF64RoundDown price) n) := by
  obtain ⟨⟨baseMint, quoteMint⟩, hmints, hn⟩ := bind_ok.mp hn
  unfold getBaseAndQuoteAmountWithPrice
  dsimp only at hn ⊢
  rw [if_neg hprice, hmints]
  change ∃ baseAmount, (if baseMint = order.inputMint ∧ order.inputAmount ≠ 0 then _
    else if baseMint = order.outputMint ∧ order.outputAmount ≠ 0 then _
    else if quoteMint = order.inputMint ∧ order.inputAmount ≠ 0 then _ else _) = _
  by_cases hbaseIn : baseMint = order.inputMint ∧ order.inputAmount ≠ 0
  · rw [if_pos hbaseIn] at hn ⊢
    cases hn
    exact ⟨_, rfl⟩
  rw [if_neg hbaseIn] at hn ⊢
  by_cases hbaseOut : baseMint = order.outputMint ∧ order.outputAmount ≠ 0
  · rw [if_pos hbaseOut] at hn ⊢
    obtain ⟨amount, hamount, rfl⟩ := map_ok.mp hn
    rw [hamount]
    exact ⟨_, rfl⟩
  rw [if_neg hbaseOut] at hn ⊢
  by_cases hquoteIn : quoteMint = order.inputMint ∧ order.inputAmount ≠ 0
  · rw [if_pos hquoteIn] at hn ⊢
    cases hn
    exact ⟨_, rfl⟩
  rw [if_neg hquoteIn] at hn ⊢
  obtain ⟨amount, hamount, rfl⟩ := map_ok.mp hn
  rw [hamount]
  exact ⟨_, rfl⟩

/-- What `get_quote_amount` returns when the price reporter answers. -/
theorem exec_getQuoteAmount {order : ExternalOrder} {relayerFee : FixedPoint}
    {mints : Address × Address} {w : ServerState}
    (hmints : self.pickBaseAndQuoteMints order.inputMint order.outputMint = .ok mints)
    (hprice : self.getPrice w.clock (self.tokens.addressToHexString mints.1) = .ok price)
    (hn : self.namedAmount order relayerFee = .ok n) :
    exec (self.getQuoteAmount order relayerFee) w =
      (.ok (if self.fp.fromF64RoundDown price = self.fp.zero then .error (.custom errPriceZero)
        else .ok (self.quotedAmount (self.fp.fromF64RoundDown price) n)),
        { w with clock := w.clock + 1 }) := by
  unfold getQuoteAmount
  rw [exec_ask_bind, hmints]
  obtain ⟨baseMint, quoteMint⟩ := mints
  simp only [exec_pure]
  congr 2
  change ((self.getPrice w.clock (self.tokens.addressToHexString baseMint)).mapError
    AuthServerError.priceReporter >>= _) = _
  rw [hprice]
  change (self.getBaseAndQuoteAmountWithPrice order relayerFee price >>= _) = _
  by_cases hzero : self.fp.fromF64RoundDown price = self.fp.zero
  · rw [if_pos hzero]
    unfold getBaseAndQuoteAmountWithPrice
    dsimp only
    rw [if_pos hzero]
    rfl
  · rw [if_neg hzero]
    obtain ⟨baseAmount, heq⟩ := getBaseAndQuoteAmountWithPrice_eq hn hzero
    rw [heq]
    rfl

theorem mulFloor_truncated {precision modulus : Nat} (hfp : self.fp.Lawful precision modulus)
    (hgood : price.IsGood) {amount : Amount} (hprice : price.value < 2 ^ 128)
    (hfits : amount.toNat * price.value < 2 ^ 128) :
    (self.fp.mulFloor (self.fp.fromF64RoundDown price) amount).toNat =
      ⌊amount.toNat * truncatedPrice precision price.value⌋₊ := by
  have hrepr := hfp.fromF64RoundDown price hgood hprice
  have hle : ((self.fp.fromF64RoundDown price).repr : ℚ) ≤ price.value * 2 ^ precision := by
    rw [hrepr]
    exact Nat.floor_le (mul_nonneg hgood.value_pos.le (by positivity))
  have hlt : (self.fp.fromF64RoundDown price).repr * amount.toNat / 2 ^ precision < 2 ^ 128 := by
    refine Nat.div_lt_of_lt_mul ?_
    have hcast : ((self.fp.fromF64RoundDown price).repr * amount.toNat : ℚ) <
        2 ^ precision * 2 ^ 128 :=
      calc ((self.fp.fromF64RoundDown price).repr * amount.toNat : ℚ)
          ≤ price.value * 2 ^ precision * amount.toNat :=
            mul_le_mul_of_nonneg_right hle (Nat.cast_nonneg _)
        _ = 2 ^ precision * (amount.toNat * price.value) := by ring
        _ < 2 ^ precision * 2 ^ 128 := mul_lt_mul_of_pos_left hfits (by positivity)
    exact_mod_cast hcast
  rw [hfp.mulFloor _ _ hlt, ← Nat.floor_div_eq_div (K := ℚ)]
  congr 1
  push_cast
  rw [truncatedPrice, hrepr]
  ring

/-- **The code's amount is the value** exactly if leaving the decimals out makes no difference. -/
theorem quotedAmount_eq_iff {precision modulus : Nat} (hfp : self.fp.Lawful precision modulus)
    (hgood : price.IsGood) (hfits : n.Fits price.value) (decimals : Nat) :
    (self.quotedAmount (self.fp.fromF64RoundDown price) n).toNat =
        n.usdcValue precision decimals price.value ↔
      n.Unscaled precision decimals price.value := by
  cases n with
  | quote amount => exact ⟨fun _ => trivial, fun _ => rfl⟩
  | base amount =>
      have hnonneg : 0 ≤ amount.toNat * truncatedPrice precision price.value := by
        unfold truncatedPrice
        positivity
      change (self.fp.mulFloor _ _).toNat = _ ↔ _
      rw [mulFloor_truncated hfp hgood hfits.1 hfits.2]
      exact floor_decimalFactor_iff hnonneg decimals

/-- The rest of `generate_sponsorship_info`, for an order that is sponsored. -/
def sponsorOrder (self : Server) (order : ExternalOrder) (queryParams : GasSponsorshipQueryParams) :
    ServerM GasSponsorshipInfo := do
  let refundAmount ←
    self.computeRefundAmountForOrder order (queryParams.refundNativeEth.getD false)
  lift ((GasSponsorshipInfo.new self.refundTooLarge refundAmount
    (queryParams.refundNativeEth.getD false) queryParams.getRefundAddress).mapError
      .gasSponsorship)

/-- The order is found too small exactly if this amount is below the threshold. -/
def DecidesBy (self : Server) (order : ExternalOrder) (price : Float) (baseMint : Address)
    (amount : Amount) : Prop :=
  ∀ keyDesc queryParams within (w : ServerState),
    self.checkGasSponsorshipRateLimit w.clock keyDesc = .ok within →
    self.getPrice (w.clock + 1) (self.tokens.addressToHexString baseMint) = .ok price →
    exec (self.generateSponsorshipInfo keyDesc order queryParams) w =
      if !within || queryParams.getOrDefault.1 ||
        decide (self.tokens.usdcToDecimal amount < self.minSponsoredOrderQuoteAmount) then
        (.ok .zero, { w with clock := w.clock + 2 })
      else exec (self.sponsorOrder order queryParams) { w with clock := w.clock + 2 }

theorem decidesBy {order : ExternalOrder} {mints : Address × Address}
    (hmints : self.pickBaseAndQuoteMints order.inputMint order.outputMint = .ok mints)
    (hn : self.namedAmount order self.fp.zero = .ok n)
    (hzero : self.fp.fromF64RoundDown price ≠ self.fp.zero) :
    self.DecidesBy order price mints.1
      (self.quotedAmount (self.fp.fromF64RoundDown price) n) := by
  intro keyDesc queryParams within w hwithin hprice
  have hquote := exec_getQuoteAmount (w := { w with clock := w.clock + 1 }) hmints hprice hn
  rw [if_neg hzero] at hquote
  unfold generateSponsorshipInfo
  rw [exec_ask_bind, hwithin, exec_bind, exec_lift]
  dsimp only [orAbort, Except.mapError]
  rw [exec_bind, hquote]
  dsimp only
  split <;> rfl

/-- **The quote amount of an order.** At a price in whole USDC per whole token, the amount returned
is the value in atoms of USDC exactly if the price does not round to zero and the order names an
amount of USDC, or its base token has six decimals, or it is worth less than an atom either way.
And where that is so, orders are found too small exactly if their value is below the threshold. -/
theorem quote_amount_iff (self : Server) {precision modulus : Nat}
    (hfp : self.fp.Lawful precision modulus) (decimals : Nat) (price : Float) (hgood : price.IsGood)
    (order : ExternalOrder) (relayerFee : FixedPoint) (mints : Address × Address)
    (hmints : self.pickBaseAndQuoteMints order.inputMint order.outputMint = .ok mints)
    (n : NamedAmount) (hn : self.namedAmount order relayerFee = .ok n) (hfits : n.Fits price.value)
    (w : ServerState)
    (hprice : self.getPrice w.clock (self.tokens.addressToHexString mints.1) = .ok price) :
    ((∃ amount, (exec (self.getQuoteAmount order relayerFee) w).1 = .ok (.ok amount) ∧
        amount.toNat = n.usdcValue precision decimals price.value) ↔
      1 ≤ price.value * 2 ^ precision ∧ n.Unscaled precision decimals price.value) ∧
    (1 ≤ price.value * 2 ^ precision ∧ n.Unscaled precision decimals price.value →
      relayerFee = self.fp.zero → self.DecidesBy order price mints.1
        (BitVec.ofNat 128 (n.usdcValue precision decimals price.value))) := by
  have hvalue := quotedAmount_eq_iff hfp hgood hfits decimals
  have hround : self.fp.fromF64RoundDown price ≠ self.fp.zero ↔
      1 ≤ price.value * 2 ^ precision := by
    rw [Ne, hfp.fromF64RoundDown_eq_zero price hgood, not_lt]
  rw [exec_getQuoteAmount hmints hprice hn, ← hround, ← hvalue]
  constructor
  · by_cases hzero : self.fp.fromF64RoundDown price = self.fp.zero
    · -- a price that rounds down to nothing is refused
      rw [if_pos hzero]
      constructor
      · rintro ⟨amount, hamount, -⟩
        cases hamount
      · rintro ⟨hne, -⟩
        exact absurd hzero hne
    · rw [if_neg hzero]
      constructor
      · rintro ⟨amount, hamount, hval⟩
        cases hamount
        exact ⟨hzero, hval⟩
      · rintro ⟨-, hval⟩
        exact ⟨_, rfl, hval⟩
  · rintro ⟨hne, hval⟩ rfl
    rw [← hval, BitVec.ofNat_toNat, BitVec.setWidth_eq]
    exact decidesBy hmints hn hne

/-! ## An order for three cents -/

/-- Amounts of USDC are millionths, and orders below ten dollars are not sponsored. -/
def pricedServer (price : Float) : Server :=
  { plainServer with
    fp := fieldFixedPoint (2 ^ 254)
    getPrice := fun _ _ => .ok price
    tokens := { plainServer.tokens with usdcToDecimal := fun a => u128AsF64 a / 1000000 }
    minSponsoredOrderQuoteAmount := 10 }

/-- An order to sell this much of token 1 for USDC. -/
def sellOrder (amount : Amount) : ExternalOrder where
  inputMint := 1
  outputMint := 2
  inputAmount := amount
  outputAmount := 0
  useExactOutputAmount := false
  minFillSize := 0

/-- Twenty of a token with six decimals, at two dollars. -/
theorem quote_amount_six_decimals :
    ∃ amount, (exec ((pricedServer 2).getQuoteAmount (sellOrder 20000000) ⟨0⟩) plainState).1 =
        .ok (.ok amount) ∧
      amount.toNat = (NamedAmount.base 20000000).usdcValue 63 6 (2.0 : Float).value := by
  refine (quote_amount_iff (pricedServer 2) (fieldFixedPoint_lawful (2 ^ 254)) 6 2.0
    (by decide +kernel) (sellOrder 20000000) ⟨0⟩ (1, 2) (by decide +kernel) (.base 20000000) rfl
    ⟨by decide +kernel, by decide +kernel⟩ plainState rfl).1.mpr ⟨by decide +kernel, .inl rfl⟩

/-- A hundred-thousandth of a token with eighteen decimals, at 3000 dollars, is worth three cents.
It counts as thirty billion dollars, and its gas is sponsored. -/
theorem three_cents_sponsored :
    (NamedAmount.base 10000000000000).usdcValue 63 18 (3000.0 : Float).value = 30000 ∧
      (pricedServer 3000).tokens.usdcToDecimal 30000 <
        (pricedServer 3000).minSponsoredOrderQuoteAmount ∧
      (exec ((pricedServer 3000).getQuoteAmount (sellOrder 10000000000000) ⟨0⟩) plainState).1 =
        .ok (.ok 30000000000000000) ∧
      (exec ((pricedServer 3000).generateSponsorshipInfo "desk" (sellOrder 10000000000000)
        ⟨none, none, none, some true⟩) plainState).1 =
          .ok ⟨3, true, none⟩ := by
  obtain ⟨amount, hquote, hamount⟩ := exec_of_observe
    (show observe Except.toOption ((pricedServer 3000).getQuoteAmount (sellOrder 10000000000000)
      ⟨0⟩) plainState = some 30000000000000000 by decide +kernel)
  obtain ⟨g, hgenerate, hg⟩ := exec_of_observe
    (show observe some ((pricedServer 3000).generateSponsorshipInfo "desk"
      (sellOrder 10000000000000) ⟨none, none, none, some true⟩) plainState =
        some ⟨3, true, none⟩ by decide +kernel)
  cases hg
  refine ⟨by decide +kernel, by decide +kernel, ?_, congrArg Prod.fst hgenerate⟩
  cases amount with
  | error e => cases hamount
  | ok amount =>
      cases hamount
      exact congrArg Prod.fst hquote

end Server

end RelayerExtensions.Auth
