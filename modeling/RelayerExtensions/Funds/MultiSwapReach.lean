import RelayerExtensions.Funds.MultiSwap

/-!
# When several targets are reached

USDC is bought from the tokens that are no targets, one after the other. What is asked for of each
is in the wallet (`fromAmount_le`), so where covered swaps are filled at reference prices, all of
it is sold, and the USDC that comes in is what the sales are worth (`Pass.bought`). The targets are
left alone meanwhile, so it is known with which wallet the purchases begin (`Stocked`).

With the purchases, that decides whether the targets are reached: they are if the USDC that is
there and the USDC that is bought cover all purchases with their buffer and leave USDC's own
target, and for a list that names each token once, they are not otherwise
(`multi_swap_reaches_targets`). The wealth of the wallet does not decide it: a hundred USDC and a
thousand of another token are not enough for a target that is worth a hundred (`usdc_runs_out`).
-/

namespace RelayerExtensions.Funds

open Effect (exec)

theorem TokenMap.convertFromDecimal_convertToDecimal (m : TokenMap) (t : TokenAddress) (n : Nat) :
    m.convertFromDecimal t (m.convertToDecimal t n) = n := by
  unfold TokenMap.convertFromDecimal TokenMap.convertToDecimal
  rw [div_mul_cancel₀ _ (by positivity), Nat.floor_natCast]

theorem TokenMap.convertFromDecimal_mono (m : TokenMap) (t : TokenAddress) {x y : ℚ} (h : x ≤ y) :
    m.convertFromDecimal t x ≤ m.convertFromDecimal t y := by
  unfold TokenMap.convertFromDecimal
  gcongr

namespace ExecutionClient

variable {c : ExecutionClient} {market : Market}

/-! ## The sales -/

section Sales

variable {params : QuoteParams} {x : SwapCandidate} {xs : List SwapCandidate} {remaining : ℚ}
  {w w' : Wallet} {new : List Attempt} {done : Bool} {o : DecayingSwapOutcome}

/-- Candidates as they are in the wallet: none of them USDC, and each once. -/
structure Standing (c : ExecutionClient) (market : Market) (w : Wallet) (xs : List SwapCandidate) :
    Prop where
  candidate : ∀ x ∈ xs, x = c.candidate market w x.token
  ne_usdc : ∀ x ∈ xs, x.token ≠ c.usdc
  nodup : (xs.map (·.token)).Nodup

theorem Standing.tail (h : Standing c market w (x :: xs)) : Standing c market w xs where
  candidate y hy := h.candidate y (List.mem_cons_of_mem _ hy)
  ne_usdc y hy := h.ne_usdc y (List.mem_cons_of_mem _ hy)
  nodup := (List.nodup_cons.mp h.nodup).2

/-- A sale of one of them leaves the others as they are. -/
theorem Standing.settle (h : Standing c market w (x :: xs)) (hsell : o.quote.sellToken = x.token)
    (hbuy : o.quote.buyToken = c.usdc) : Standing c market (w.settle (.ok (some o))) xs where
  candidate y hy := by
    have hne : y.token ≠ x.token := fun heq =>
      (List.nodup_cons.mp h.nodup).1 (List.mem_map.mpr ⟨y, hy, heq⟩)
    have hkeep : w.settle (.ok (some o)) y.token = w y.token :=
      Wallet.move_of_ne (hsell ▸ hne) (hbuy ▸ h.ne_usdc y (List.mem_cons_of_mem _ hy))
    rw [ExecutionClient.candidate, balance, hkeep]
    exact h.candidate y (List.mem_cons_of_mem _ hy)
  ne_usdc := h.tail.ne_usdc
  nodup := h.tail.nodup

/-- **What is asked for of a candidate is there.** -/
theorem fromAmount_le (hx : x = c.candidate market w x.token)
    (hpos : ∀ t, 0 < c.referencePrice market t) (remaining : ℚ) :
    c.config.tokens.convertFromDecimal x.token (x.swapAmount remaining) ≤ w x.token := by
  have hprice : 0 < x.price := by
    rw [hx]
    exact hpos x.token
  have hle : x.swapAmount remaining ≤ x.balance := by
    refine le_of_mul_le_mul_right ?_ hprice
    rw [SwapCandidate.swapAmount_value remaining hprice]
    exact min_le_left _ _
  refine (TokenMap.convertFromDecimal_mono _ _ hle).trans_eq ?_
  rw [hx]
  exact TokenMap.convertFromDecimal_convertToDecimal _ _ _

theorem sale_le (hx : x = c.candidate market w x.token) (hpos : ∀ t, 0 < c.referencePrice market t)
    (hremaining : 0 ≤ remaining) :
    c.sale x remaining ≤ remaining := by
  have hprice : 0 < x.price := by
    rw [hx]
    exact hpos x.token
  have hbalance : 0 ≤ x.balance := by
    rw [hx]
    exact TokenMap.convertToDecimal_nonneg _ _ _
  calc c.sale x remaining
      ≤ x.swapAmount remaining * x.price := mul_le_mul_of_nonneg_right
        (TokenMap.convertToDecimal_convertFromDecimal_le _ _
          (SwapCandidate.swapAmount_nonneg hprice hbalance hremaining)) hprice.le
    _ = min x.notionalValue remaining := SwapCandidate.swapAmount_value remaining hprice
    _ ≤ remaining := min_le_right _ _

/-- A sale that is executed brings in what it is worth. -/
theorem FillsCovered.sale (h : c.FillsCovered market
      ⟨c.candidateParams params c.usdc x remaining, w, .ok (some o)⟩)
    (hx : x = c.candidate market w x.token) (hpos : ∀ t, 0 < c.referencePrice market t) :
    o.quote.sellToken = x.token ∧ o.quote.buyToken = c.usdc ∧
      c.config.tokens.convertToDecimal c.usdc o.buyAmountActual = c.sale x remaining := by
  obtain ⟨hsell, hbuy, hsold, k, hamount⟩ := h.returned.outcome
  have hasked : 0 < c.config.tokens.convertFromDecimal x.token (x.swapAmount remaining) :=
    lt_of_lt_of_le hsold (hamount.trans_le (Nat.div_le_self _ _))
  obtain ⟨o', ho, hfull, hvalue⟩ := h.fills hasked (fromAmount_le hx hpos remaining)
  cases ho
  refine ⟨hsell, hbuy, ?_⟩
  rw [boughtValue, soldValue, hbuy, hsell, hfull] at hvalue
  change _ * c.referencePrice market c.usdc = _ * c.referencePrice market x.token at hvalue
  rw [referencePrice_usdc, mul_one] at hvalue
  have hprice : x.price = c.referencePrice market x.token := by rw [hx]; rfl
  rw [ExecutionClient.sale, hprice]
  exact hvalue

/-- A sale that is not executed was one of nothing. -/
theorem FillsCovered.sale_eq_zero {result : SwapResult}
    (h : c.FillsCovered market ⟨c.candidateParams params c.usdc x remaining, w, result⟩)
    (hx : x = c.candidate market w x.token) (hpos : ∀ t, 0 < c.referencePrice market t)
    (hnone : result.toOption.join = none) : c.sale x remaining = 0 := by
  rcases Nat.eq_zero_or_pos
    (c.config.tokens.convertFromDecimal x.token (x.swapAmount remaining)) with hzero | hasked
  · rw [ExecutionClient.sale, hzero, TokenMap.convertToDecimal, Nat.cast_zero, zero_div, zero_mul]
  · obtain ⟨o, ho, -⟩ := h.fills hasked (fromAmount_le hx hpos remaining)
    dsimp only at ho
    rw [ho] at hnone
    cases hnone

theorem proceeds_of_worth (hprice : 0 < x.price) (h : Worth x remaining) :
    c.proceeds (x :: xs) remaining =
      c.sale x remaining + c.proceeds xs (remaining - c.sale x remaining) := by
  have hamount := h.amount
  rw [SwapCandidate.swapAmount_value remaining hprice] at hamount
  rw [proceeds, if_neg (not_lt.mpr h.needed), if_neg (not_lt.mpr hamount)]

/-- **A pass brings in what its sales are worth**, if covered swaps are filled, and leaves all but
the candidates alone. -/
theorem Pass.bought (h : Pass c params c.usdc xs remaining w new w' done)
    (hxs : Standing c market w xs) (hpos : ∀ t, 0 < c.referencePrice market t)
    (hfits : remaining * 10 ^ c.config.tokens.decimals c.usdc < 2 ^ 128)
    (hfills : ∀ a ∈ new, c.FillsCovered market a) :
    done = true ∧ c.balance w' c.usdc = c.balance w c.usdc + c.proceeds xs remaining ∧
      ∀ t, t ≠ c.usdc → t ∉ xs.map (·.token) → w' t = w t := by
  induction h with
  | nil => exact ⟨rfl, (add_zero _).symm, fun _ _ _ => rfl⟩
  | stopped hsmall =>
      rw [proceeds, if_pos hsmall]
      exact ⟨rfl, (add_zero _).symm, fun _ _ _ => rfl⟩
  | @passedOver x xs remaining w w' new done hneeded hsmall hrest ih =>
      have hprice : 0 < x.price := by
        rw [hxs.candidate x List.mem_cons_self]
        exact hpos x.token
      obtain ⟨hdone, husdc, hframe⟩ := ih hxs.tail hfits hfills
      rw [SwapCandidate.swapAmount_value remaining hprice] at hsmall
      rw [proceeds, if_neg (not_lt.mpr hneeded), if_pos hsmall]
      exact ⟨hdone, husdc, fun t ht hmem => hframe t ht fun h => hmem (List.mem_cons_of_mem _ h)⟩
  | @failed x xs remaining w w' new done result hworth hnone hrest ih =>
      have hx := hxs.candidate x List.mem_cons_self
      have hzero := (hfills _ List.mem_cons_self).sale_eq_zero hx hpos hnone
      obtain ⟨hdone, husdc, hframe⟩ := ih hxs.tail hfits fun a ha =>
        hfills a (List.mem_cons_of_mem _ ha)
      rw [proceeds_of_worth (by rw [hx]; exact hpos x.token) hworth, hzero, zero_add, sub_zero]
      exact ⟨hdone, husdc, fun t ht hmem => hframe t ht fun h => hmem (List.mem_cons_of_mem _ h)⟩
  | @swapped x xs remaining w w' new done o hworth hrest ih =>
      have hx := hxs.candidate x List.mem_cons_self
      have hne := hxs.ne_usdc x List.mem_cons_self
      obtain ⟨hsell, hbuy, hsale⟩ := (hfills _ List.mem_cons_self).sale hx hpos
      have hmove : w.settle (.ok (some o)) =
          w.move x.token o.quote.sellAmount c.usdc o.buyAmountActual := by
        rw [Wallet.settle, hsell, hbuy]
      have hbought : c.balance (w.settle (.ok (some o))) c.usdc =
          c.balance w c.usdc + c.sale x remaining := by
        rw [balance, hmove, Wallet.move_buy hne.symm, TokenMap.convertToDecimal_add, hsale]
        rfl
      have hless : 0 ≤ c.sale x remaining := hsale ▸ TokenMap.convertToDecimal_nonneg _ _ _
      rw [hbuy, hsale] at ih
      obtain ⟨hdone, husdc, hframe⟩ := ih (hxs.settle hsell hbuy)
        (lt_of_le_of_lt (mul_le_mul_of_nonneg_right (sub_le_self _ hless) (by positivity)) hfits)
        fun a ha => hfills a (List.mem_cons_of_mem _ ha)
      rw [proceeds_of_worth (by rw [hx]; exact hpos x.token) hworth]
      refine ⟨hdone, by rw [husdc, hbought, add_assoc], fun t ht hmem => ?_⟩
      rw [List.map_cons, List.mem_cons, not_or] at hmem
      rw [hframe t ht hmem.2, hmove, Wallet.move_of_ne hmem.1 ht]
  | @overflowed x xs remaining w o hworth hlarge =>
      -- what comes in is no more than what remains
      have hx := hxs.candidate x List.mem_cons_self
      obtain ⟨-, -, hsale⟩ := (hfills _ List.mem_cons_self).sale hx hpos
      have hle := sale_le hx hpos hworth.remaining_nonneg
      rw [← hsale, TokenMap.convertToDecimal, div_le_iff₀ (by positivity)] at hle
      have hlarge : (2 ^ 128 : ℚ) ≤ o.buyAmountActual := by exact_mod_cast hlarge
      linarith

end Sales

/-! ## The USDC leg -/

section Leg

variable {targets : List Target} {w : Wallet}

theorem mem_candidateTokens {t : TokenAddress} {excluded : List TokenAddress}
    (h : t ∈ c.candidateTokens (excluded.map c.token)) : t ∉ excluded := by
  obtain ⟨y, hy, rfl⟩ := List.mem_map.mp h
  have hpred := (List.mem_filter.mp hy).2
  simp only [swapCandidatePredicate, Bool.and_eq_true, decide_eq_true_eq, Bool.not_eq_true',
    List.contains_eq_mem, decide_eq_false_iff_not] at hpred
  obtain ⟨⟨hchain, hexcluded⟩, -⟩ := hpred
  exact fun hmem => hexcluded (List.mem_map.mpr ⟨y.addr, hmem, by rw [token, ← hchain]⟩)

theorem nodup_candidateTokens (excluded : List Token) : (c.candidateTokens excluded).Nodup := by
  refine List.Nodup.map_on (fun x hx y hy haddr => ?_) (c.nodup.filter _)
  have hchain : ∀ z ∈ c.allTokens.filter (c.swapCandidatePredicate · excluded),
      z.chain = c.chain := fun z hz => by
    have hpred := (List.mem_filter.mp hz).2
    simp only [swapCandidatePredicate, Bool.and_eq_true, decide_eq_true_eq] at hpred
    exact hpred.1.1
  have hsame : x.chain = y.chain := (hchain x hx).trans (hchain y hy).symm
  cases x
  cases y
  cases haddr
  cases hsame
  rfl

theorem standing_candidates (w : Wallet) (targets : List Target) : Standing c market w
    (c.candidates market w ((targets.map (·.1) ++ [c.usdc]).map c.token)) where
  candidate x hx := (mem_candidates hx).2
  ne_usdc x hx heq := mem_candidateTokens (mem_candidates hx).1
    (List.mem_append_right _ (List.mem_singleton.mpr heq))
  nodup := by
    have hperm := (List.perm_insertionSort (fun a b : SwapCandidate =>
      b.notionalValue ≤ a.notionalValue) ((c.candidateTokens
        ((targets.map (·.1) ++ [c.usdc]).map c.token)).map (c.candidate market w))).map (·.token)
    refine hperm.nodup_iff.mpr ?_
    rw [List.map_map]
    exact (nodup_candidateTokens _).map_on fun x _ y _ h => h

def usdcRequest (c : ExecutionClient) (market : Market) (targets : List Target) (w : Wallet) :
    SwapIntoTargetTokenRequest :=
  ⟨(targets.map (c.shortfallValue market w)).sum, ⟨0, c.usdc, 0, false, none⟩, targets.map (·.1)⟩

theorem buyUsdcForMultiSwap_eq (w : Wallet) (targets : List Target) :
    c.buyUsdcForMultiSwap market (c.purchaseValues market w targets) =
      if (targets.map (c.shortfallValue market w)).sum = 0 then pure []
      else c.trySwapIntoTargetToken market (usdcRequest c market targets w) := by
  unfold buyUsdcForMultiSwap purchaseValues usdcRequest
  rw [List.map_map, List.map_map]
  rfl

theorem exec_buyUsdcForMultiSwap_skipped (hset : c.Tradable market targets w)
    (hsmall : (targets.map (c.shortfallValue market w)).sum - c.balance w c.usdc <
      minSwapQuoteAmount) :
    exec (c.buyUsdcForMultiSwap market (c.purchaseValues market w targets)) ⟨w, []⟩ =
      (.ok [], ⟨w, []⟩) := by
  rw [buyUsdcForMultiSwap_eq]
  split
  · rfl
  · refine exec_trySwapIntoTargetToken_skipped hset.priceError hset.balanceError ?_
    change (_ - _) * c.referencePrice market c.usdc < _
    rw [referencePrice_usdc, mul_one]
    exact hsmall

theorem exec_buyUsdcForMultiSwap (hset : c.Tradable market targets w)
    (hneeded : minSwapQuoteAmount ≤
      (targets.map (c.shortfallValue market w)).sum - c.balance w c.usdc) :
    exec (c.buyUsdcForMultiSwap market (c.purchaseValues market w targets)) ⟨w, []⟩ =
      exec (c.swapCandidates market ⟨0, c.usdc, 0, false, none⟩ c.usdc
        (c.candidates market w ((targets.map (·.1) ++ [c.usdc]).map c.token))
        (((targets.map (c.shortfallValue market w)).sum - c.balance w c.usdc) *
          swapToCoverBuffer) []) ⟨w, []⟩ := by
  have hmin : (0 : ℚ) < minSwapQuoteAmount := by norm_num [minSwapQuoteAmount]
  have husdc : 0 ≤ c.balance w c.usdc := TokenMap.convertToDecimal_nonneg _ _ _
  have hshort : c.balance w c.usdc < (targets.map (c.shortfallValue market w)).sum := by linarith
  have hcover : c.amountToCover market (usdcRequest c market targets w) w =
      ((targets.map (c.shortfallValue market w)).sum - c.balance w c.usdc) *
        swapToCoverBuffer := by
    change (_ - _) * c.referencePrice market c.usdc * _ = _
    rw [referencePrice_usdc, mul_one]
    rfl
  rw [buyUsdcForMultiSwap_eq, if_neg (husdc.trans_lt hshort).ne', ← hcover]
  refine exec_trySwapIntoTargetToken hset.priceError hset.balanceError hshort ?_
  change _ ≤ (_ - _) * c.referencePrice market c.usdc
  rw [referencePrice_usdc, mul_one]
  exact hneeded

/-- **The leg**: where covered swaps are filled, it brings in its proceeds and leaves the targets
alone. -/
theorem stocked_buyUsdc (hset : c.Tradable market targets w)
    (hfills : ∀ a ∈ (exec (c.buyUsdcForMultiSwap market
      (c.purchaseValues market w targets)) ⟨w, []⟩).2.attempts, c.FillsCovered market a) :
    ∃ outcomes s, exec (c.buyUsdcForMultiSwap market (c.purchaseValues market w targets))
      ⟨w, []⟩ = (.ok outcomes, s) ∧ Stocked c market targets w s.wallet := by
  rcases lt_or_ge ((targets.map (c.shortfallValue market w)).sum - c.balance w c.usdc)
    minSwapQuoteAmount with hsmall | hneeded
  · -- nothing is bought: the USDC there is covers the shortfalls, or nearly
    refine ⟨[], ⟨w, []⟩, exec_buyUsdcForMultiSwap_skipped hset hsmall, ?_, fun _ _ _ => rfl⟩
    rw [usdcProceeds, if_pos hsmall, add_zero]
  rw [exec_buyUsdcForMultiSwap hset hneeded] at hfills ⊢
  obtain ⟨new, hnew, hpass⟩ := @pass_swapCandidates c market ⟨0, c.usdc, 0, false, none⟩ c.usdc
    (c.candidates market w ((targets.map (·.1) ++ [c.usdc]).map c.token))
    (((targets.map (c.shortfallValue market w)).sum - c.balance w c.usdc) * swapToCoverBuffer) []
    ⟨w, []⟩
  rw [hnew] at hfills
  -- no amount that is bought can overflow `u128`
  have hless : ((targets.map (c.shortfallValue market w)).sum - c.balance w c.usdc) *
      swapToCoverBuffer * 10 ^ c.config.tokens.decimals c.usdc < 2 ^ 128 := by
    have husdc : 0 ≤ c.balance w c.usdc := TokenMap.convertToDecimal_nonneg _ _ _
    refine lt_of_le_of_lt ?_ hset.fits
    gcongr
    · norm_num [swapToCoverBuffer]
    · linarith
  obtain ⟨hdone, husdc, hframe⟩ := hpass.bought (standing_candidates w targets)
    (referencePrice_pos hset.price_pos) hless hfills
  revert hdone husdc hframe
  rcases exec (c.swapCandidates market ⟨0, c.usdc, 0, false, none⟩ c.usdc
    (c.candidates market w ((targets.map (·.1) ++ [c.usdc]).map c.token))
    (((targets.map (c.shortfallValue market w)).sum - c.balance w c.usdc) * swapToCoverBuffer) [])
    ⟨w, []⟩ with ⟨result, s⟩
  intro hdone husdc hframe
  cases result with
  | error e => cases hdone
  | ok outcomes =>
      refine ⟨outcomes, s, rfl, ?_, fun x hx hne => hframe x.1 hne fun hmem => ?_⟩
      · rw [usdcProceeds, if_neg (not_lt.mpr hneeded)]
        exact husdc
      · -- a target is no candidate
        obtain ⟨y, hy, htoken⟩ := List.mem_map.mp hmem
        exact mem_candidateTokens (mem_candidates hy).1
          (List.mem_append_left _ (List.mem_map.mpr ⟨x, hx, htoken.symm⟩))

/-! ## The whole run -/

theorem exec_multiSwapIntoTargetTokens (hset : c.Tradable market targets w) :
    exec (c.multiSwapIntoTargetTokens market targets) ⟨w, []⟩ =
      match exec (c.buyUsdcForMultiSwap market (c.purchaseValues market w targets)) ⟨w, []⟩ with
      | (.ok outcomes, s) => exec (c.buyTokens market (c.purchases market w targets) outcomes) s
      | (.error e, s) => (.error e, s) := by
  unfold multiSwapIntoTargetTokens
  rw [Effect.exec_look_bind,
    getMultiSwapPurchaseValues_of_readable hset.priceError hset.balanceError,
    Effect.exec_ofExcept_bind]
  dsimp only
  rw [Effect.exec_bind]
  rcases exec (c.buyUsdcForMultiSwap market (c.purchaseValues market w targets)) ⟨w, []⟩ with
    ⟨_ | _, s⟩ <;> rfl

/-- **A run in which covered swaps are filled** is a pass over the purchases, from the wallet that
the leg leaves. -/
theorem bought_multiSwap (hset : c.Tradable market targets w)
    (hfills : ∀ a ∈ (exec (c.multiSwapIntoTargetTokens market targets) ⟨w, []⟩).2.attempts,
      c.FillsCovered market a) :
    ∃ w₁, Stocked c market targets w w₁ ∧ Bought c market w₁ (c.purchases market w targets)
      (exec (c.multiSwapIntoTargetTokens market targets) ⟨w, []⟩).2.wallet := by
  have hcost : ∀ y ∈ c.purchases market w targets, 0 < c.cost y.2 := fun y hy =>
    cost_pos (purchase_value hset.shortfall hy)
  rw [exec_multiSwapIntoTargetTokens hset] at hfills ⊢
  have hleg := @stocked_buyUsdc c market targets w hset
  revert hfills hleg
  rcases exec (c.buyUsdcForMultiSwap market (c.purchaseValues market w targets)) ⟨w, []⟩ with
    ⟨result, s⟩
  intro hfills hleg
  cases result with
  | error e =>
      obtain ⟨outcomes, s', h, -⟩ := hleg hfills
      cases h
  | ok outcomes =>
      obtain ⟨new, hnew, hbought⟩ := bought_buyTokens _ outcomes s hcost
      dsimp only at hfills
      rw [hnew] at hfills
      obtain ⟨_, _, h, hstock⟩ := hleg fun a ha => hfills a (List.mem_append_left _ ha)
      cases h
      exact ⟨s.wallet, hstock, hbought fun a ha => hfills a (List.mem_append_right _ ha)⟩

end Leg

end ExecutionClient

/-- **The targets are reached** if the USDC that is there and the USDC that is bought cover all
purchases with their buffer and leave USDC's own target; and, for a list that names each token once,
exactly if they do. -/
theorem multi_swap_reaches_targets (c : ExecutionClient) (market : Market)
    (targets : List ExecutionClient.Target) (w : Wallet) (hset : c.Tradable market targets w)
    (hfills : ∀ a ∈ (exec (c.multiSwapIntoTargetTokens market targets) ⟨w, []⟩).2.attempts,
      c.FillsCovered market a) :
    (c.Funded market targets w →
      c.Reached targets (exec (c.multiSwapIntoTargetTokens market targets) ⟨w, []⟩).2.wallet) ∧
    ((targets.map (·.1)).Nodup →
      (c.Reached targets (exec (c.multiSwapIntoTargetTokens market targets) ⟨w, []⟩).2.wallet ↔
        c.Funded market targets w)) := by
  obtain ⟨w₁, hstock, hbought⟩ := ExecutionClient.bought_multiSwap hset hfills
  have hreaches := fun h : c.Funded market targets w => h.reached hset hstock hbought
  exact ⟨hreaches, fun hnodup => ⟨hstock.funded hnodup hbought, hreaches⟩⟩

/-- Tokens 1 and 2 are registered, and everything is worth a dollar. -/
def dollarClient : ExecutionClient where
  config := ⟨wholeTokens, [0xda], fun _ => none⟩
  chain := "arbitrum"
  allTokens := [⟨"arbitrum", 1⟩, ⟨"arbitrum", 2⟩]
  nodup := by decide
  usdc_iff := wholeTokens_ticker_iff

/-- What is covered is filled. -/
def dollarMarket : Market where
  price _ := 1
  priceError _ := none
  balanceError _ := none
  swap s params :=
    if params.fromAmount ≤ s.wallet params.fromToken then
      .ok (some (fillOutcome params params.fromAmount))
    else .ok none

/-- So much USDC, and a thousand of token 2. -/
def dollarWallet (usdc : Nat) : Wallet := fun t => if t = 0 then usdc else if t = 2 then 1000 else 0

/-- A hundred of token 1. -/
def dollarTargets : List ExecutionClient.Target := [(1, 100)]

theorem balance_dollar (w : Wallet) (t : TokenAddress) : dollarClient.balance w t = w t :=
  convertToDecimal_whole t (w t)

theorem referencePrice_dollar (t : TokenAddress) :
    dollarClient.referencePrice dollarMarket t = 1 := by
  unfold ExecutionClient.referencePrice
  split <;> rfl

theorem shortfallValue_dollar (usdc : Nat) :
    dollarClient.shortfallValue dollarMarket (dollarWallet usdc) (1, 100) = 100 := by
  have hnone : dollarWallet usdc 1 = 0 := rfl
  rw [ExecutionClient.shortfallValue, balance_dollar, referencePrice_dollar, hnone]
  norm_num

theorem sum_shortfallValue_dollar (usdc : Nat) : (dollarTargets.map
    (dollarClient.shortfallValue dollarMarket (dollarWallet usdc))).sum = 100 := by
  rw [dollarTargets, List.map_singleton, shortfallValue_dollar, List.sum_singleton]

theorem purchases_dollar (usdc : Nat) :
    dollarClient.purchases dollarMarket (dollarWallet usdc) dollarTargets = [(1, 100)] := by
  rw [ExecutionClient.purchases, ExecutionClient.purchaseValues, dollarTargets, List.map_singleton,
    shortfallValue_dollar]
  decide +kernel

theorem affordable_dollar (usdc : Nat) :
    dollarClient.Affordable dollarMarket dollarTargets (dollarWallet usdc) where
  priceError _ := rfl
  balanceError _ := rfl
  price_pos _ := one_pos
  shortfall x hx hlt := by
    obtain rfl := List.mem_singleton.mp hx
    rw [← ExecutionClient.shortfallValue_of_lt hlt, shortfallValue_dollar]
    norm_num [minSwapQuoteAmount]
  fits := by
    rw [sum_shortfallValue_dollar]
    change 100 * swapToCoverBuffer * 10 ^ 0 < 2 ^ 128
    norm_num [swapToCoverBuffer]
  wealth := by
    have hother : dollarClient.otherTokens dollarTargets = [2] := by decide
    have htwo : dollarWallet usdc 2 = 1000 := rfl
    rw [sum_shortfallValue_dollar, hother, List.map_singleton, List.sum_singleton, balance_dollar,
      balance_dollar, referencePrice_dollar, htwo]
    have husdc : (0 : ℚ) ≤ dollarWallet usdc dollarClient.usdc := Nat.cast_nonneg _
    norm_num [swapToCoverBuffer]
    linarith

/-- What is covered is filled amount for amount, which is at the reference price. -/
theorem fillsCovered_dollar {params : QuoteParams} (hvenue : params.venue = none)
    (hmin : 10 ≤ params.fromAmount) (hfits : params.fromAmount < 2 ^ 128) (s : Trading) :
    dollarClient.FillsCovered dollarMarket ⟨params, s.wallet, dollarMarket.swap s params⟩ := by
  by_cases hcovered : params.fromAmount ≤ s.wallet params.fromToken
  · have hswap : dollarMarket.swap s params = .ok (some (fillOutcome params params.fromAmount)) :=
      if_pos hcovered
    have hamount : (params.fromAmount : ℚ) ≠ 0 := by
      rw [Nat.cast_ne_zero]
      omega
    have hquote : (fillQuote params params.fromAmount).quote.getPrice wholeTokens = .fin 1 := by
      simp [ExecutionQuote.getPrice, fillQuote, ExtRat.div, hamount]
    have hworth : getExpectedQuoteAmount dollarClient.config params
        (fillReplies dollarClient.config (dollarClient.referencePrice dollarMarket) params
          (s.wallet params.fromToken) params.fromAmount) = .ok params.fromAmount := by
      refine (if_neg (Nat.not_le_of_lt hfits)).trans ?_
      dsimp only
      split
      · exact congrArg Except.ok (convertToDecimal_whole _ _)
      · change Except.ok (wholeTokens.convertToDecimal params.fromToken params.fromAmount *
          dollarClient.referencePrice dollarMarket params.fromToken) = _
        rw [convertToDecimal_whole, referencePrice_dollar, mul_one]
    have hdev : 0 ≤ maxDeviation dollarClient.config
        (fillQuote params params.fromAmount).quote := by
      change 0 ≤ Option.getD (Option.bind _ fun _ => none) defaultMaxPriceDeviation
      rw [Option.bind_fun_none]
      norm_num [defaultMaxPriceDeviation]
    rw [hswap]
    refine ⟨returned_fill hvenue hcovered hfits hfits (by decide) hworth
      (show (10 : ℚ) ≤ params.fromAmount by exact_mod_cast hmin)
      (hquote.trans (congrArg ExtRat.fin (referencePrice_dollar _).symm))
      (by rw [referencePrice_dollar]; exact one_ne_zero) hdev, fun _ _ => ⟨_, rfl, rfl, ?_⟩⟩
    rw [ExecutionClient.boughtValue, ExecutionClient.soldValue, referencePrice_dollar,
      referencePrice_dollar]
    exact congrArg (· * 1) ((convertToDecimal_whole _ _).trans (convertToDecimal_whole _ _).symm)
  · have hswap : dollarMarket.swap s params = .ok none := if_neg hcovered
    rw [hswap]
    exact ⟨returned_none (not_le.mp hcovered), fun _ h => absurd h hcovered⟩

/-- The purchase: a hundred and ten USDC for token 1. -/
theorem exec_purchase_dollar (outcomes : List DecayingSwapOutcome) (s : Trading) :
    (exec (dollarClient.buyTokens dollarMarket [(1, 100)] outcomes) s).2 =
      s.record ⟨0, 1, 110, false, none⟩ (dollarMarket.swap s ⟨0, 1, 110, false, none⟩) := by
  have hcost : dollarClient.cost 100 = 110 := by decide +kernel
  have hasked : dollarClient.purchaseParams 1 (100 * swapToCoverBuffer) =
      ⟨0, 1, 110, false, none⟩ :=
    congrArg (fun amount => (⟨0, 1, amount, false, none⟩ : QuoteParams)) hcost
  obtain ⟨outcomes', hexec⟩ := @ExecutionClient.exec_buyTokens_cons dollarClient dollarMarket 1 100
    [] outcomes s
  rw [hexec, hasked]
  rfl

/-- If there is no USDC, a hundred and ten of token 2 are sold. -/
theorem exec_leg_dollar :
    exec (dollarClient.buyUsdcForMultiSwap dollarMarket
      (dollarClient.purchaseValues dollarMarket (dollarWallet 0) dollarTargets))
      ⟨dollarWallet 0, []⟩ =
      (.ok [fillOutcome ⟨2, 0, 110, false, none⟩ 110], Trading.record ⟨dollarWallet 0, []⟩
        ⟨2, 0, 110, false, none⟩
        (dollarMarket.swap ⟨dollarWallet 0, []⟩ ⟨2, 0, 110, false, none⟩)) := by
  have hamount : wholeTokens.convertFromDecimal 2
      ((⟨2, 1000, 1⟩ : SwapCandidate).swapAmount 110) = 110 := by decide +kernel
  have hasked : dollarClient.candidateParams ⟨0, 0, 0, false, none⟩ 0 ⟨2, 1000, 1⟩ 110 =
      ⟨2, 0, 110, false, none⟩ :=
    congrArg (fun amount => (⟨2, 0, amount, false, none⟩ : QuoteParams)) hamount
  have hbuffer : (100 - 0) * swapToCoverBuffer = 110 := by norm_num [swapToCoverBuffer]
  have hcandidates : dollarClient.candidates dollarMarket (dollarWallet 0)
      ((dollarTargets.map (·.1) ++ [dollarClient.usdc]).map dollarClient.token) =
        [⟨2, 1000, 1⟩] := by decide +kernel
  have hnone : dollarClient.balance (dollarWallet 0) dollarClient.usdc = 0 :=
    (balance_dollar _ _).trans Nat.cast_zero
  rw [ExecutionClient.exec_buyUsdcForMultiSwap (affordable_dollar 0).toTradable, hcandidates,
    sum_shortfallValue_dollar, hnone]
  · change exec (dollarClient.swapCandidates _ ⟨0, 0, 0, false, none⟩ 0 _ _ _) _ = _
    rw [hbuffer, ExecutionClient.exec_swapCandidates_cons, hasked, if_neg (by decide +kernel),
      if_neg (by decide +kernel)]
    rfl
  · rw [sum_shortfallValue_dollar, hnone]
    norm_num [minSwapQuoteAmount]

/-- No USDC and a thousand of token 2 get to a hundred of token 1. -/
theorem multi_swap_reaches_dollar : dollarClient.Reached dollarTargets
    (exec (dollarClient.multiSwapIntoTargetTokens dollarMarket dollarTargets)
      ⟨dollarWallet 0, []⟩).2.wallet := by
  have hset := (affordable_dollar 0).toTradable
  refine (multi_swap_reaches_targets _ _ _ _ hset fun a ha => ?_).1 ⟨?_, fun target hmem => ?_⟩
  · rw [ExecutionClient.exec_multiSwapIntoTargetTokens hset, exec_leg_dollar,
      purchases_dollar] at ha
    dsimp only at ha
    rw [exec_purchase_dollar] at ha
    rcases List.mem_pair.mp ha with rfl | rfl
    · exact fillsCovered_dollar rfl (by decide) (by norm_num) _
    · exact fillsCovered_dollar rfl (by decide) (by norm_num) _
  · rw [purchases_dollar]
    decide +kernel
  · -- USDC is not among the targets
    cases List.mem_singleton.mp hmem

/-- **A hundred USDC and a thousand of token 2 do not get to a hundred of token 1**, although
everything is filled that is covered: no USDC is bought, and the purchase costs more than there
is. -/
theorem usdc_runs_out :
    dollarClient.Affordable dollarMarket dollarTargets (dollarWallet 100) ∧
      (∀ a ∈ (exec (dollarClient.multiSwapIntoTargetTokens dollarMarket dollarTargets)
        ⟨dollarWallet 100, []⟩).2.attempts, dollarClient.FillsCovered dollarMarket a) ∧
      ¬ dollarClient.Reached dollarTargets
        (exec (dollarClient.multiSwapIntoTargetTokens dollarMarket dollarTargets)
          ⟨dollarWallet 100, []⟩).2.wallet := by
  have hset := (affordable_dollar 100).toTradable
  rw [ExecutionClient.exec_multiSwapIntoTargetTokens hset,
    ExecutionClient.exec_buyUsdcForMultiSwap_skipped hset ?_, purchases_dollar]
  · dsimp only
    rw [exec_purchase_dollar]
    refine ⟨affordable_dollar 100, fun a ha => ?_, fun h => ?_⟩
    · obtain rfl := List.mem_singleton.mp ha
      exact fillsCovered_dollar rfl (by decide) (by norm_num) _
    · have hone := h (1, 100) (List.mem_singleton_self _)
      rw [balance_dollar] at hone
      exact absurd hone (by decide +kernel)
  · rw [sum_shortfallValue_dollar]
    decide +kernel

end RelayerExtensions.Funds
