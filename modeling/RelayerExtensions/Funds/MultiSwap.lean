import RelayerExtensions.Funds.SwapToTarget

/-!
# Swapping into several target tokens

`multi_swap_into_target_tokens` brings the balances of several tokens up to their targets. It adds
up what the shortfalls are worth, has that much USDC bought from the tokens that are not targets,
and then buys each token with USDC, a tenth more than its shortfall is worth.

The two halves do not fit together. The USDC that is asked for is a balance, so what is there
already counts, and it is without the buffer that every purchase then adds; and a target for USDC
itself is spent on the others. So the USDC may run out on the way, and the purchase that it does
not cover is left out.

Seen from outside, the purchases are a pass over a list with a purse (`Bought`): each is filled if
the purse covers it. All of them are filled if the purse covers them together (`Bought.all`), and
only then (`Bought.cost_le`). So the targets are reached if the USDC that is there and the USDC that
is bought cover all purchases with their buffer and leave USDC's own target (`Funded.reached`),
and, for a list that names each token once, only then (`Stocked.funded`).
-/

namespace RelayerExtensions.Funds

open Effect (exec look orNone)

/-! ## The model -/

namespace ExecutionClient

variable (c : ExecutionClient) (market : Market)

/-- A target token, with the balance it should have. -/
abbrev Target := TokenAddress × ℚ

/-- For each token, what it takes to get to the target, in dollars. -/
def getMultiSwapPurchaseValues (w : Wallet) (targets : List Target) :
    Except ExecutionClientError (List (TokenAddress × ℚ)) :=
  targets.mapM fun (t, target) => do
    let price ← c.getPrice market t
    let currentBalance ← c.getErc20Balance market w t
    return (t, max (target - currentBalance) 0 * price)

def usdc : TokenAddress := c.config.tokens.usdc

def buyUsdcForMultiSwap (values : List (TokenAddress × ℚ)) : TradingM (List DecayingSwapOutcome) :=
  let usdcTargetBalance := (values.map (·.2)).sum
  if usdcTargetBalance = 0 then return []
  else
    c.trySwapIntoTargetToken market
      ⟨usdcTargetBalance, ⟨0, c.usdc, 0, false, none⟩, values.map (·.1)⟩

/-- The request for a purchase of so many dollars. -/
def purchaseParams (t : TokenAddress) (value : ℚ) : QuoteParams :=
  ⟨c.usdc, t, c.config.tokens.convertFromDecimal c.usdc value, false, none⟩

def buyTokenDollarAmount (t : TokenAddress) (value : ℚ) : TradingM (Option DecayingSwapOutcome) :=
  swapImmediateDecaying market (c.purchaseParams t value)

/-- Purchases of nothing and purchases of USDC are left out. -/
def isPurchase (x : TokenAddress × ℚ) : Bool :=
  decide (0 < x.2) && decide (c.config.tokens.ticker x.1 ≠ some usdcTicker)

/-- The loop over the purchases. One that fails is only logged. -/
def buyTokens : List (TokenAddress × ℚ) → List DecayingSwapOutcome →
    TradingM (List DecayingSwapOutcome)
  | [], outcomes => return outcomes
  | (t, value) :: rest, outcomes => do
      match ← orNone (c.buyTokenDollarAmount market t (value * swapToCoverBuffer)) with
      | some outcome => buyTokens rest (outcomes ++ [outcome])
      | none => buyTokens rest outcomes

def multiSwapIntoTargetTokens (targets : List Target) : TradingM (List DecayingSwapOutcome) := do
  let w ← look (·.wallet)
  let values ← Effect.ofExcept (c.getMultiSwapPurchaseValues market w targets)
  let outcomes ← c.buyUsdcForMultiSwap market values
  c.buyTokens market (values.filter c.isPurchase) outcomes

end ExecutionClient

/-! ## What is assumed, and what is to hold -/

namespace ExecutionClient

variable (c : ExecutionClient) (market : Market)

/-- What a shortfall is worth. -/
def shortfallValue (w : Wallet) (x : Target) : ℚ :=
  max (x.2 - c.balance w x.1) 0 * c.referencePrice market x.1

def purchaseValues (w : Wallet) (targets : List Target) : List (TokenAddress × ℚ) :=
  targets.map fun x => (x.1, c.shortfallValue market w x)

/-- The tokens that are bought with USDC, with what their shortfalls are worth. -/
def purchases (w : Wallet) (targets : List Target) : List (TokenAddress × ℚ) :=
  (c.purchaseValues market w targets).filter c.isPurchase

/-- What a purchase costs, with its buffer, in atoms of USDC. -/
def cost (value : ℚ) : Nat := c.config.tokens.convertFromDecimal c.usdc (value * swapToCoverBuffer)

def totalCost (xs : List (TokenAddress × ℚ)) : Nat := (xs.map fun x => c.cost x.2).sum

/-- The tokens that are neither targets nor USDC, and can be sold. -/
def otherTokens (targets : List Target) : List TokenAddress :=
  c.candidateTokens ((targets.map (·.1) ++ [c.usdc]).map c.token)

/-- The balances and prices can be read, every shortfall is worth a swap, and all of them are worth
fewer atoms of USDC than a `u128` counts. -/
structure Tradable (targets : List Target) (w : Wallet) : Prop where
  priceError : ∀ t, market.priceError t = none
  balanceError : ∀ t, market.balanceError t = none
  price_pos : ∀ t, 0 < market.price t
  shortfall : ∀ x ∈ targets, c.balance w x.1 < x.2 →
    minSwapQuoteAmount ≤ (x.2 - c.balance w x.1) * c.referencePrice market x.1
  fits : (targets.map (c.shortfallValue market w)).sum * swapToCoverBuffer *
    10 ^ c.config.tokens.decimals c.usdc < 2 ^ 128

/-- And USDC and the tokens that are no targets are worth the shortfalls with a buffer on the
buffer. -/
structure Affordable (targets : List Target) (w : Wallet) : Prop
    extends c.Tradable market targets w where
  wealth : swapToCoverBuffer ^ 2 * (targets.map (c.shortfallValue market w)).sum ≤
    c.balance w c.usdc + ((c.otherTokens targets).map fun t =>
      c.balance w t * c.referencePrice market t).sum

/-- The attempt returned as the decaying swap does, and if the balance covers what it asks for, it
is filled in full at reference prices. -/
structure FillsCovered (a : Attempt) : Prop where
  returned : c.Returns market a
  fills : 0 < a.params.fromAmount → a.params.fromAmount ≤ a.before a.params.fromToken →
    ∃ o, a.result = .ok (some o) ∧ o.quote.sellAmount = a.params.fromAmount ∧
      c.boughtValue market o = c.soldValue market o

def Reached (targets : List Target) (w : Wallet) : Prop :=
  ∀ x ∈ targets, x.2 ≤ c.balance w x.1

/-- What is sold of a candidate, in whole atoms, is worth this much. -/
def sale (x : SwapCandidate) (remaining : ℚ) : ℚ :=
  c.config.tokens.convertToDecimal x.token
    (c.config.tokens.convertFromDecimal x.token (x.swapAmount remaining)) * x.price

/-- What the candidates bring in, one after the other, as long as the rest is worth a swap. -/
def proceeds : List SwapCandidate → ℚ → ℚ
  | [], _ => 0
  | x :: xs, remaining =>
      if remaining < minSwapQuoteAmount then 0
      else if min x.notionalValue remaining < minSwapQuoteAmount then proceeds xs remaining
      else c.sale x remaining + proceeds xs (remaining - c.sale x remaining)

/-- The USDC that is bought: nothing if there is as much as the shortfalls are worth, or nearly so,
and otherwise what the other tokens bring in for the difference with its buffer. -/
def usdcProceeds (targets : List Target) (w : Wallet) : ℚ :=
  let rest := (targets.map (c.shortfallValue market w)).sum - c.balance w c.usdc
  if rest < minSwapQuoteAmount then 0
  else c.proceeds (c.candidates market w ((targets.map (·.1) ++ [c.usdc]).map c.token))
    (rest * swapToCoverBuffer)

/-- The USDC that is there and the USDC that is bought cover all purchases with their buffer, and
leave USDC's own target. -/
structure Funded (targets : List Target) (w : Wallet) : Prop where
  cost : c.config.tokens.convertToDecimal c.usdc (c.totalCost (c.purchases market w targets)) ≤
    c.balance w c.usdc + c.usdcProceeds market targets w
  usdc : ∀ target, (c.usdc, target) ∈ targets →
    target + c.config.tokens.convertToDecimal c.usdc
      (c.totalCost (c.purchases market w targets)) ≤
        c.balance w c.usdc + c.usdcProceeds market targets w

end ExecutionClient

/-! ## Reading -/

variable {sellAmount buyAmount : Nat}

theorem Wallet.move_sell {w : Wallet} {sell buy : TokenAddress}
    (h : buy ≠ sell) : w.move sell sellAmount buy buyAmount sell = w sell - sellAmount := by
  simp [Wallet.move, h.symm]

theorem Wallet.move_buy {w : Wallet} {sell buy : TokenAddress}
    (h : buy ≠ sell) : w.move sell sellAmount buy buyAmount buy = w buy + buyAmount := by
  simp [Wallet.move, h]

theorem Wallet.move_of_ne {w : Wallet} {t sell buy : TokenAddress} (hsell : t ≠ sell)
    (hbuy : t ≠ buy) : w.move sell sellAmount buy buyAmount t = w t := by
  simp [Wallet.move, hsell, hbuy]

theorem TokenMap.convertToDecimal_add (m : TokenMap) (t : TokenAddress) (a b : Nat) :
    m.convertToDecimal t (a + b) = m.convertToDecimal t a + m.convertToDecimal t b := by
  unfold TokenMap.convertToDecimal
  push_cast
  ring

theorem TokenMap.le_of_convertToDecimal_le (m : TokenMap) (t : TokenAddress) {a b : Nat}
    (h : m.convertToDecimal t a ≤ m.convertToDecimal t b) : a ≤ b := by
  unfold TokenMap.convertToDecimal at h
  rw [div_le_div_iff_of_pos_right (by positivity)] at h
  exact_mod_cast h

namespace ExecutionClient

variable {c : ExecutionClient} {market : Market}

theorem referencePrice_usdc : c.referencePrice market c.usdc = 1 := by
  have hticker := (c.usdc_iff c.usdc).mpr rfl
  unfold referencePrice hasUnitPrice
  rw [hticker]
  rfl

theorem getMultiSwapPurchaseValues_of_readable (hprice : ∀ t, market.priceError t = none)
    (hbalance : ∀ t, market.balanceError t = none) (w : Wallet) (targets : List Target) :
    c.getMultiSwapPurchaseValues market w targets = .ok (c.purchaseValues market w targets) := by
  unfold getMultiSwapPurchaseValues
  simp only [getPrice_of_readable hprice, getErc20Balance_of_readable hbalance]
  exact List.mapM_pure

theorem isPurchase_iff {x : TokenAddress × ℚ} : c.isPurchase x = true ↔ 0 < x.2 ∧ x.1 ≠ c.usdc := by
  simp [isPurchase, c.usdc_iff, usdc]

/-! ## The purchases -/

/-- A pass over purchases: each is filled at the reference price if the USDC that is left covers
it, and otherwise left out. -/
inductive Bought (c : ExecutionClient) (market : Market) :
    Wallet → List (TokenAddress × ℚ) → Wallet → Prop where
  | nil (w : Wallet) : Bought c market w [] w
  | filled {w w' : Wallet} {t : TokenAddress} {value : ℚ} {rest : List (TokenAddress × ℚ)}
      (buy : Nat) : c.cost value ≤ w c.usdc →
      c.config.tokens.convertToDecimal t buy * c.referencePrice market t =
        c.config.tokens.convertToDecimal c.usdc (c.cost value) →
      Bought c market (w.move c.usdc (c.cost value) t buy) rest w' →
      Bought c market w ((t, value) :: rest) w'
  | short {w w' : Wallet} {t : TokenAddress} {value : ℚ} {rest : List (TokenAddress × ℚ)} :
      w c.usdc < c.cost value → Bought c market w rest w' →
      Bought c market w ((t, value) :: rest) w'

theorem exec_buyTokens_cons (t : TokenAddress) (value : ℚ) (rest : List (TokenAddress × ℚ))
    (outcomes : List DecayingSwapOutcome) (s : Trading) :
    ∃ outcomes', exec (c.buyTokens market ((t, value) :: rest) outcomes) s =
      exec (c.buyTokens market rest outcomes')
        (s.record (c.purchaseParams t (value * swapToCoverBuffer))
          (market.swap s (c.purchaseParams t (value * swapToCoverBuffer)))) := by
  rw [buyTokens, Effect.exec_bind, Effect.exec_orNone, buyTokenDollarAmount,
    exec_swapImmediateDecaying]
  dsimp only
  cases (market.swap s (c.purchaseParams t (value * swapToCoverBuffer))).toOption.join with
  | none => exact ⟨outcomes, rfl⟩
  | some o => exact ⟨outcomes ++ [o], rfl⟩

/-- One purchase is filled or left out, if swaps that are covered are filled. -/
theorem Bought.cons {w w' : Wallet} {t : TokenAddress} {value : ℚ} {rest : List (TokenAddress × ℚ)}
    {result : SwapResult}
    (h : c.FillsCovered market ⟨c.purchaseParams t (value * swapToCoverBuffer), w, result⟩)
    (hcost : 0 < c.cost value) (hrest : Bought c market (w.settle result) rest w') :
    Bought c market w ((t, value) :: rest) w' := by
  by_cases hcovered : c.cost value ≤ w c.usdc
  · obtain ⟨o, ho, hamount, hvalue⟩ := h.fills hcost hcovered
    have hreturned := h.returned
    dsimp only at ho hreturned
    subst ho
    obtain ⟨hsell, hbuy, -⟩ := hreturned.outcome
    rw [Wallet.settle, hsell, hbuy, hamount] at hrest
    rw [boughtValue, soldValue, hsell, hbuy, hamount] at hvalue
    refine .filled o.buyAmountActual hcovered ?_ hrest
    change _ = _ * c.referencePrice market c.usdc at hvalue
    rwa [referencePrice_usdc, mul_one] at hvalue
  · have hnone := h.returned.uncovered (not_le.mp hcovered)
    dsimp only at hnone
    subst hnone
    exact .short (not_le.mp hcovered) hrest

/-- **The loop is such a pass.** -/
theorem bought_buyTokens : ∀ (xs : List (TokenAddress × ℚ)) (outcomes : List DecayingSwapOutcome)
    (s : Trading), (∀ x ∈ xs, 0 < c.cost x.2) →
    ∃ new, (exec (c.buyTokens market xs outcomes) s).2.attempts = s.attempts ++ new ∧
      ((∀ a ∈ new, c.FillsCovered market a) →
        Bought c market s.wallet xs (exec (c.buyTokens market xs outcomes) s).2.wallet)
  | [], outcomes, s, _ => ⟨[], by simp [buyTokens], fun _ => .nil _⟩
  | (t, value) :: rest, outcomes, s, hcost => by
      obtain ⟨outcomes', hexec⟩ := @exec_buyTokens_cons c market t value rest outcomes s
      rw [hexec]
      generalize hasked : c.purchaseParams t (value * swapToCoverBuffer) = asked
      generalize market.swap s asked = result
      obtain ⟨new, hnew, hbought⟩ := bought_buyTokens rest outcomes' (s.record asked result)
        fun x hx => hcost x (List.mem_cons_of_mem _ hx)
      refine ⟨⟨asked, s.wallet, result⟩ :: new, ?_, fun hfills => ?_⟩
      · rw [hnew]
        simp [Trading.record]
      · exact .cons (hasked ▸ hfills _ List.mem_cons_self) (hcost _ List.mem_cons_self)
          (hbought fun a ha => hfills a (List.mem_cons_of_mem _ ha))

/-! ### What such a pass does -/

section Pass

variable {w w' : Wallet} {xs : List (TokenAddress × ℚ)}

theorem totalCost_cons (x : TokenAddress × ℚ) (xs : List (TokenAddress × ℚ)) :
    c.totalCost (x :: xs) = c.cost x.2 + c.totalCost xs := by
  simp [totalCost]

/-- Buying something makes nothing but USDC less. -/
theorem le_move {sellAmount buyAmount : Nat} {t buy : TokenAddress} (ht : t ≠ c.usdc)
    (hbuy : buy ≠ c.usdc) : w t ≤ w.move c.usdc sellAmount buy buyAmount t := by
  by_cases heq : t = buy
  · subst heq
    rw [Wallet.move_buy hbuy]
    exact Nat.le_add_right _ _
  · rw [Wallet.move_of_ne ht heq]

theorem Bought.mono (h : Bought c market w xs w') (hxs : ∀ x ∈ xs, x.1 ≠ c.usdc) {t : TokenAddress}
    (ht : t ≠ c.usdc) : w t ≤ w' t := by
  induction h with
  | nil w => exact Nat.le_refl _
  | filled buy hcovered hvalue hrest ih =>
      exact Nat.le_trans (le_move ht (hxs _ List.mem_cons_self))
        (ih fun x hx => hxs x (List.mem_cons_of_mem _ hx))
  | short hshort hrest ih => exact ih fun x hx => hxs x (List.mem_cons_of_mem _ hx)

/-- What is not on the list is left alone. -/
theorem Bought.frame (h : Bought c market w xs w') {t : TokenAddress} (ht : t ≠ c.usdc)
    (hmem : t ∉ xs.map (·.1)) : w' t = w t := by
  induction h with
  | nil w => rfl
  | @filled w w' t' value rest buy hcovered hvalue hrest ih =>
      rw [List.map_cons, List.mem_cons, not_or] at hmem
      rw [ih hmem.2, Wallet.move_of_ne ht hmem.1]
  | short hshort hrest ih =>
      rw [List.map_cons, List.mem_cons, not_or] at hmem
      exact ih hmem.2

/-- **A purse that covers all purchases together covers each of them**, and what they cost is what
it loses. -/
theorem Bought.all (h : Bought c market w xs w') (hpos : ∀ t, 0 < c.referencePrice market t)
    (hxs : ∀ x ∈ xs, x.1 ≠ c.usdc) (hcost : c.totalCost xs ≤ w c.usdc) :
    w' c.usdc + c.totalCost xs = w c.usdc ∧ ∀ x ∈ xs,
      c.balance w x.1 * c.referencePrice market x.1 +
        c.config.tokens.convertToDecimal c.usdc (c.cost x.2) ≤
          c.balance w' x.1 * c.referencePrice market x.1 := by
  induction h with
  | nil w => exact ⟨rfl, by simp⟩
  | @filled w w' t value rest buy hcovered hvalue hrest ih =>
      have ht : t ≠ c.usdc := hxs _ List.mem_cons_self
      have hxs' : ∀ x ∈ rest, x.1 ≠ c.usdc := fun x hx => hxs x (List.mem_cons_of_mem _ hx)
      rw [totalCost_cons] at hcost ⊢
      have hleft : c.totalCost rest ≤ w.move c.usdc (c.cost value) t buy c.usdc := by
        rw [Wallet.move_sell ht]
        exact Nat.le_sub_of_add_le' hcost
      obtain ⟨husdc, hbought⟩ := ih hxs' hleft
      rw [Wallet.move_sell ht] at husdc
      refine ⟨by dsimp only; omega, fun x hx => ?_⟩
      rcases List.mem_cons.mp hx with rfl | hx
      · -- the purchase at the head, and nothing is lost of it later
        have hkeep := TokenMap.convertToDecimal_mono c.config.tokens t (hrest.mono hxs' ht)
        rw [Wallet.move_buy ht, TokenMap.convertToDecimal_add] at hkeep
        calc c.balance w t * c.referencePrice market t +
              c.config.tokens.convertToDecimal c.usdc (c.cost value)
            = (c.balance w t + c.config.tokens.convertToDecimal t buy) *
                c.referencePrice market t := by rw [← hvalue, add_mul]
          _ ≤ c.balance w' t * c.referencePrice market t :=
              mul_le_mul_of_nonneg_right hkeep (hpos t).le
      · -- a later one, which starts from no less than there was
        refine le_trans (add_le_add_left ?_ _) (hbought x hx)
        exact mul_le_mul_of_nonneg_right
          (TokenMap.convertToDecimal_mono _ _ (le_move (hxs' x hx) ht)) (hpos _).le
  | @short w w' t value rest hshort hrest ih =>
      rw [totalCost_cons] at hcost
      dsimp only at hcost
      omega

/-- **Where every purchase leaves a trace, they are all paid for.** -/
theorem Bought.cost_le (h : Bought c market w xs w') (hxs : ∀ x ∈ xs, x.1 ≠ c.usdc)
    (hnodup : (xs.map (·.1)).Nodup) (htrace : ∀ x ∈ xs, w' x.1 ≠ w x.1) :
    w' c.usdc + c.totalCost xs = w c.usdc := by
  induction h with
  | nil w => rfl
  | @filled w w' t value rest buy hcovered hvalue hrest ih =>
      have ht : t ≠ c.usdc := hxs _ List.mem_cons_self
      rw [List.map_cons, List.nodup_cons] at hnodup
      have hrest' := ih (fun x hx => hxs x (List.mem_cons_of_mem _ hx)) hnodup.2 fun x hx => ?_
      · rw [Wallet.move_sell ht] at hrest'
        rw [totalCost_cons]
        dsimp only
        omega
      · -- the purchase at the head is of another token
        have hne : x.1 ≠ t := fun heq => hnodup.1 (List.mem_map.mpr ⟨x, hx, heq⟩)
        rw [Wallet.move_of_ne (hxs x (List.mem_cons_of_mem _ hx)) hne]
        exact htrace x (List.mem_cons_of_mem _ hx)
  | @short w w' t value rest hshort hrest ih =>
      rw [List.map_cons, List.nodup_cons] at hnodup
      exact absurd (hrest.frame (hxs _ List.mem_cons_self) hnodup.1)
        (htrace _ List.mem_cons_self)

end Pass

/-! ## What the purchases come to -/

/-- A purchase that is worth a swap costs at least its value, its buffer being more than what is
rounded off. -/
theorem value_le_cost {value : ℚ} (h : minSwapQuoteAmount ≤ value) :
    value ≤ c.config.tokens.convertToDecimal c.usdc (c.cost value) := by
  unfold cost TokenMap.convertToDecimal TokenMap.convertFromDecimal
  rw [le_div_iff₀ (by positivity)]
  have hfloor := Nat.lt_floor_add_one
    (value * swapToCoverBuffer * 10 ^ c.config.tokens.decimals c.usdc)
  have hone : (1 : ℚ) ≤ 10 ^ c.config.tokens.decimals c.usdc := one_le_pow₀ (by norm_num)
  dsimp only [minSwapQuoteAmount] at h
  dsimp only [swapToCoverBuffer] at hfloor ⊢
  nlinarith

theorem cost_pos {value : ℚ} (h : minSwapQuoteAmount ≤ value) : 0 < c.cost value := by
  refine Nat.pos_of_ne_zero fun hzero => ?_
  have hle := value_le_cost (c := c) h
  rw [hzero, TokenMap.convertToDecimal, Nat.cast_zero, zero_div] at hle
  dsimp only [minSwapQuoteAmount] at h
  linarith

section Reach

variable {targets : List Target} {w w₁ w' : Wallet} {y : TokenAddress × ℚ}

theorem shortfallValue_of_le {x : Target} (h : x.2 ≤ c.balance w x.1) :
    c.shortfallValue market w x = 0 := by
  rw [shortfallValue, max_eq_right (sub_nonpos.mpr h), zero_mul]

theorem shortfallValue_of_lt {x : Target} (h : c.balance w x.1 < x.2) :
    c.shortfallValue market w x = (x.2 - c.balance w x.1) * c.referencePrice market x.1 := by
  rw [shortfallValue, max_eq_left (sub_nonneg.mpr h.le)]

theorem mem_purchases : y ∈ c.purchases market w targets ↔
    ∃ x ∈ targets, y = (x.1, c.shortfallValue market w x) ∧ 0 < y.2 ∧ y.1 ≠ c.usdc := by
  rw [purchases, List.mem_filter, isPurchase_iff, purchaseValues, List.mem_map]
  constructor
  · rintro ⟨⟨x, hx, rfl⟩, hy⟩
    exact ⟨x, hx, rfl, hy⟩
  · rintro ⟨x, hx, rfl, hy⟩
    exact ⟨⟨x, hx, rfl⟩, hy⟩

/-- A token is bought exactly if it is short of its target. -/
theorem lt_of_shortfallValue_pos {x : Target} (h : 0 < c.shortfallValue market w x) :
    c.balance w x.1 < x.2 := by
  by_contra hle
  rw [shortfallValue_of_le (not_lt.mp hle)] at h
  exact lt_irrefl _ h

/-- What is bought is worth a swap. -/
theorem purchase_value (hshort : ∀ x ∈ targets, c.balance w x.1 < x.2 →
      minSwapQuoteAmount ≤ (x.2 - c.balance w x.1) * c.referencePrice market x.1)
    (hy : y ∈ c.purchases market w targets) : minSwapQuoteAmount ≤ y.2 := by
  obtain ⟨x, hx, rfl, hpos, -⟩ := mem_purchases.mp hy
  have hlt := lt_of_shortfallValue_pos hpos
  dsimp only
  rw [shortfallValue_of_lt hlt]
  exact hshort x hx hlt

theorem ne_usdc_of_mem_purchases (hy : y ∈ c.purchases market w targets) : y.1 ≠ c.usdc := by
  obtain ⟨-, -, -, -, hne⟩ := mem_purchases.mp hy
  exact hne

/-- The wallet when the purchases begin: USDC has been bought, and the targets are as they were. -/
structure Stocked (c : ExecutionClient) (market : Market) (targets : List Target)
    (w w₁ : Wallet) : Prop where
  usdc : c.balance w₁ c.usdc = c.balance w c.usdc + c.usdcProceeds market targets w
  targets : ∀ x ∈ targets, x.1 ≠ c.usdc → w₁ x.1 = w x.1

theorem Stocked.balance_eq (h : Stocked c market targets w w₁) {x : Target} (hx : x ∈ targets)
    (hne : x.1 ≠ c.usdc) : c.balance w₁ x.1 = c.balance w x.1 := by
  rw [balance, h.targets x hx hne]
  rfl

/-- All purchases are filled, and each reaches its target. -/
theorem Funded.reached (h : c.Funded market targets w) (hset : c.Tradable market targets w)
    (hstock : Stocked c market targets w w₁)
    (hbought : Bought c market w₁ (c.purchases market w targets) w') : c.Reached targets w' := by
  have hpos : ∀ t, 0 < c.referencePrice market t := referencePrice_pos hset.price_pos
  have hothers : ∀ y ∈ c.purchases market w targets, y.1 ≠ c.usdc := fun _ =>
    ne_usdc_of_mem_purchases
  have hcost := h.cost
  rw [← hstock.usdc] at hcost
  obtain ⟨husdc, hall⟩ := hbought.all hpos hothers
    (TokenMap.le_of_convertToDecimal_le c.config.tokens c.usdc hcost)
  intro x hx
  by_cases hx₁ : x.1 = c.usdc
  · -- USDC: what is left after the purchases
    have htarget := h.usdc x.2 (hx₁ ▸ hx)
    rw [← hstock.usdc, balance, ← husdc, TokenMap.convertToDecimal_add] at htarget
    rw [hx₁]
    exact le_of_add_le_add_right htarget
  by_cases hlt : c.balance w x.1 < x.2
  · have hvalue := hset.shortfall x hx hlt
    rw [← shortfallValue_of_lt hlt] at hvalue
    have hy : (x.1, c.shortfallValue market w x) ∈ c.purchases market w targets :=
      mem_purchases.mpr ⟨x, hx, rfl, lt_of_lt_of_le (by norm_num [minSwapQuoteAmount]) hvalue, hx₁⟩
    refine le_of_mul_le_mul_right ?_ (hpos x.1)
    calc x.2 * c.referencePrice market x.1
        = c.balance w₁ x.1 * c.referencePrice market x.1 + c.shortfallValue market w x := by
          rw [hstock.balance_eq hx hx₁, shortfallValue_of_lt hlt]
          ring
      _ ≤ c.balance w₁ x.1 * c.referencePrice market x.1 +
            c.config.tokens.convertToDecimal c.usdc (c.cost (c.shortfallValue market w x)) :=
          add_le_add_right (value_le_cost hvalue) _
      _ ≤ _ := hall _ hy
  · rw [← hstock.balance_eq hx hx₁] at hlt
    exact (not_lt.mp hlt).trans
      (TokenMap.convertToDecimal_mono _ _ (hbought.mono hothers hx₁))

/-- **Only enough USDC reaches them**, if each token is named once. -/
theorem Stocked.funded (hstock : Stocked c market targets w w₁) (hnodup : (targets.map (·.1)).Nodup)
    (hbought : Bought c market w₁ (c.purchases market w targets) w')
    (hreached : c.Reached targets w') : c.Funded market targets w := by
  have htokens : ((c.purchases market w targets).map (·.1)).Nodup := by
    refine List.Nodup.sublist (List.filter_sublist.map _) ?_
    simpa [purchaseValues, Function.comp_def] using hnodup
  have hpaid := hbought.cost_le (fun _ => ne_usdc_of_mem_purchases) htokens fun y hy => by
    -- the token was short, and is no longer
    obtain ⟨x, hx, rfl, hpos, hne⟩ := mem_purchases.mp hy
    intro hsame
    have hlt := lt_of_shortfallValue_pos hpos
    have hle := hreached x hx
    dsimp only at hsame hne
    rw [balance, hsame, hstock.targets x hx hne] at hle
    exact absurd hle (not_le.mpr hlt)
  constructor
  · rw [← hstock.usdc]
    exact TokenMap.convertToDecimal_mono _ _ (Nat.le.intro (by rw [Nat.add_comm]; exact hpaid))
  · intro target hmem
    have hle := hreached _ hmem
    rw [← hstock.usdc, balance, ← hpaid, TokenMap.convertToDecimal_add]
    exact add_le_add_left hle _

end Reach

end ExecutionClient

end RelayerExtensions.Funds
