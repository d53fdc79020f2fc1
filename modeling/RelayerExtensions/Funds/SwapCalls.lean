import RelayerExtensions.Funds.SwapImmediate

/-!
# What a call of the decaying swap comes to

Whoever calls the decaying swap sees only what it returns. `Returned` relates a request, the
prices at the price reporter and the balance of the sold token to a result: some run of the loop,
in which the balance and the prices read as they are and the venues quote what they are asked for,
returns that result.

The callers rest on three facts about it. An outcome is a swap of the tokens of the request, of
its amount or of that amount halved a number of times, and never of nothing (`Returned.outcome`).
A request that the balance does not cover comes to nothing (`Returned.uncovered`,
`returned_none`). And a quote at the reference price is executed (`returned_fill`).
-/

namespace RelayerExtensions.Funds

open Effect (bind_ok bind_error map_ok)

/-- The token by whose price the quotes for a request are judged. -/
def QuoteParams.baseToken (m : TokenMap) (params : QuoteParams) : TokenAddress :=
  if params.toToken = m.usdc then params.fromToken else params.toToken

/-- A turn reads the balance as it is, and a price, if the price reporter answers, as it is
there. -/
structure StepReplies.Reads (cfg : ExecutionConfig) (prices : TokenAddress → ℚ)
    (params : QuoteParams) (balance : Nat) (r : StepReplies) : Prop where
  balance : r.balance = .ok balance
  price : ∀ p, r.price = .ok p → p = prices params.fromToken
  reference : ∀ p, r.referencePrice = .ok p → p = prices (params.baseToken cfg.tokens)

/-- A finished run of the loop with this result, while the prices are `prices` and the balance of
the sold token is `balance`. -/
def Returned (cfg : ExecutionConfig) (prices : TokenAddress → ℚ) (params : QuoteParams)
    (balance : Nat) (result : SwapResult) : Prop :=
  ∃ rs s, (∀ r ∈ rs, r.Reads cfg prices params balance) ∧
    Runs.Meets (swapStep cfg params) (VenuesAnswer params) (swapStart params) rs ∧
    swapLoop cfg params rs = some s ∧ s.result = some result

variable {cfg : ExecutionConfig} {prices : TokenAddress → ℚ} {params : QuoteParams} {balance : Nat}
  {r : StepReplies}

/-! ## An outcome is a swap that was asked for -/

/-- The outcome of a run is one of the quotes that were handed over. -/
def FromHanded (s : SwapRun) : Prop :=
  ∀ outcome, s.result = some (.ok (some outcome)) → ∃ h ∈ s.handed, h.quote.quote = outcome.quote

theorem fromHanded_step {s s' : SwapRun}
    (hs : swapStep cfg params s r = some s') : FromHanded s' := by
  obtain ⟨hrunning, hturn⟩ := swapStep_cases hs
  intro outcome hresult
  cases hturn with
  | gaveUp hno | failed hno e | broke hq hexec => cases hresult
  | swapped hq hexec hhash =>
      cases hresult
      exact ⟨_, List.mem_append_right _ (List.mem_singleton_self _), rfl⟩
  -- the other turns go on
  | widened hno hpos hflag | deviated hno hpos hflag =>
      exact absurd hresult (follow_result hrunning _ outcome)
  | excluded hq hexec hnone hfew | decreased hq hexec hnone hmany =>
      exact absurd hresult (follow_result (s := s.hand params r _ _ _) hrunning _ outcome)

/-- **An outcome is a swap of the tokens of the request**, of its amount or of that amount halved
a number of times. -/
theorem Returned.outcome {outcome : DecayingSwapOutcome}
    (h : Returned cfg prices params balance (.ok (some outcome))) :
    outcome.quote.sellToken = params.fromToken ∧ outcome.quote.buyToken = params.toToken ∧
      0 < outcome.quote.sellAmount ∧ ∃ k, outcome.quote.sellAmount = params.fromAmount / 2 ^ k := by
  obtain ⟨rs, s, -, hm, hr, hresult⟩ := h
  have hinv := Runs.run_invariant (fun _ _ _ h ha hs => SwapInv.step h ha hs) rs
    swapInv_start hm hr
  have hfrom : FromHanded s := Runs.run_invariant (I := FromHanded)
    (fun _ _ _ _ _ hs => fromHanded_step hs) rs (by nofun) hm hr
  obtain ⟨d, hd, hquote⟩ := hfrom outcome hresult
  obtain ⟨hsell, hbuy, hamount⟩ := (hinv.handed d hd).answers
  obtain ⟨worth, hworth, hmin⟩ := (hinv.handed d hd).worthwhile
  have hpos := amount_pos_of_worth hworth hmin
  rw [← hamount, hquote] at hpos
  rw [(hinv.handed d hd).amount, hquote] at hsell hbuy hamount
  exact ⟨hsell, hbuy, hpos, d.halvings, hamount⟩

/-! ## Requests that come to nothing -/

/-- The first turn decides if it ends the loop. -/
theorem run_of_first {rs : List StepReplies} {s : SwapRun} {result : SwapResult}
    (hfirst : (swapTurn cfg params (swapStart params) r).result = some result)
    (hr : swapLoop cfg params (r :: rs) = some s) : s.result = some result := by
  obtain ⟨s₁, hs₁, hr⟩ := Runs.run_cons_some.mp hr
  obtain rfl : swapTurn cfg params (swapStart params) r = s₁ := Option.some.inj hs₁
  cases rs with
  | nil =>
      cases hr
      exact hfirst
  | cons r' rs =>
      obtain ⟨s₂, hs₂, -⟩ := Runs.run_cons_some.mp hr
      rw [swapStep, hfirst] at hs₂
      cases hs₂

theorem swapTurn_error {s : SwapRun} {flow : SwapControlFlow}
    (h : getExecutableQuote cfg (s.params params) s.loop.multiplier s.loop.excluded r =
      .error flow) : swapTurn cfg params s r = s.follow flow := by
  unfold swapTurn
  rw [h]

theorem swapTurn_of_not_can (h : canExecuteSwap cfg params r = .ok false) :
    (swapTurn cfg params (swapStart params) r).result = some (.ok none) := by
  have hflow : getExecutableQuote cfg params 1 [] r = .error .noSwap := by
    unfold getExecutableQuote
    rw [h]
    rfl
  rw [swapTurn_error hflow]
  rfl

theorem canExecuteSwap_uncovered (hread : r.balance = .ok balance)
    (hbalance : balance < params.fromAmount) : canExecuteSwap cfg params r = .ok false := by
  unfold canExecuteSwap hasSufficientBalance
  rw [hread]
  simp [Nat.not_le_of_lt hbalance, Except.map, bind, Except.bind, pure, Except.pure]

/-- **A request that the balance does not cover comes to nothing.** -/
theorem Returned.uncovered {result : SwapResult} (h : Returned cfg prices params balance result)
    (hbalance : balance < params.fromAmount) :
    result = .ok none := by
  obtain ⟨rs, s, hread, -, hr, hresult⟩ := h
  cases rs with
  | nil =>
      cases hr
      cases hresult
  | cons r rs =>
      have hcan := @canExecuteSwap_uncovered cfg _ _ _ (hread r List.mem_cons_self).balance hbalance
      have := run_of_first (swapTurn_of_not_can hcan) hr
      exact Option.some.inj (hresult.symm.trans this)

/-- One turn that ends the loop makes a run. -/
theorem returned_of_turn (hread : r.Reads cfg prices params balance)
    (hanswer : VenuesAnswer params (swapStart params) r) {result : SwapResult}
    (h : (swapTurn cfg params (swapStart params) r).result = some result) :
    Returned cfg prices params balance result :=
  ⟨[r], _, by simpa using hread, ⟨hanswer, fun _ _ => trivial⟩, rfl, h⟩

/-- Neither the price reporter nor a venue answers. -/
def silentReplies (balance : Nat) : StepReplies where
  balance := .ok balance
  price := .error (.http "no answer")
  quotes := ⟨.error (.http "no answer"), .error (.http "no answer"), .error (.http "no answer")⟩
  referencePrice := .error (.http "no answer")
  execution := ⟨none, none, fun _ => .nonceTooLow, .ok (), [], false⟩

theorem getQuotes_silent (excluded : List CrossVenueQuoteSource) (v : SupportedExecutionVenue) :
    (getQuotes (silentReplies balance).quotes excluded v).toOption.getD [] = [] := by
  cases v with
  | cowswap =>
      change Option.getD (Except.toOption (if _ then _ else _)) [] = []
      split <;> rfl
  | lifi | bebop | okx => rfl

theorem venuesAnswer_silent (s : SwapRun) : VenuesAnswer params s (silentReplies balance) := by
  intro q hq
  unfold fetchAllQuotes at hq
  generalize venuesFor params.venue = venues at hq
  cases venues with
  | error e => cases hq
  | ok venues =>
      change q ∈ venues.flatMap _ at hq
      simp [getQuotes_silent] at hq

theorem returned_none (h : balance < params.fromAmount) :
    Returned cfg prices params balance (.ok none) :=
  returned_of_turn (r := silentReplies balance) ⟨rfl, nofun, nofun⟩ (venuesAnswer_silent _)
    (swapTurn_of_not_can (canExecuteSwap_uncovered rfl h))

/-! ## Requests that are filled -/

theorem getExecutableQuote_of_checks {multiplier : ℚ} {excluded : List CrossVenueQuoteSource}
    {q : ExecutableQuote} (hcan : canExecuteSwap cfg params r = .ok true)
    (hbest : fetchBestQuote cfg params r excluded = .ok (some q))
    (hclose : exceedsPriceDeviation cfg q.quote multiplier r = .ok false) :
    getExecutableQuote cfg params multiplier excluded r = .ok q := by
  unfold getExecutableQuote
  simp only [hcan, hbest, hclose, orFlow, bind, Except.bind, pure, Except.pure]
  rfl

/-- A quote at the reference price does not deviate from it. -/
theorem computePriceDeviation_self (isSell : Bool) {reference threshold : ℚ} (hne : reference ≠ 0)
    (hthreshold : 0 ≤ threshold) :
    (computePriceDeviation isSell (.fin reference) reference threshold).2 = false := by
  cases isSell <;>
    simp [computePriceDeviation, ExtRat.sub, ExtRat.div, ExtRat.abs, ExtRat.isFinite, hne,
      hthreshold]

/-- The quote of Lifi for a request. -/
def fillQuote (params : QuoteParams) (buy : Nat) : ExecutableQuote :=
  ⟨⟨params.fromToken, params.toToken, params.fromAmount, buy, .lifi, .lifiExchange "lifi"⟩,
    .lifi []⟩

/-- Only Lifi answers, and the transaction is mined as quoted. -/
def fillReplies (cfg : ExecutionConfig) (prices : TokenAddress → ℚ) (params : QuoteParams)
    (balance buy : Nat) : StepReplies where
  balance := .ok balance
  price := .ok (prices params.fromToken)
  quotes :=
    { lifi := .ok ("lifi", ⟨params.fromToken, params.toToken, params.fromAmount, buy, []⟩)
      bebop := .error (.http "no answer")
      cowswap := .error (.http "no answer") }
  referencePrice := .ok (prices (params.baseToken cfg.tokens))
  execution := ⟨none, none, fun _ => .mined ⟨true, 0, 0, 0, buy⟩, .ok (), [], false⟩

def fillOutcome (params : QuoteParams) (buy : Nat) : DecayingSwapOutcome :=
  ⟨(fillQuote params buy).quote, buy, 0, 0⟩

theorem isValid_fillQuote {darkpool : Bytes} (hdark : darkpool ≠ []) (buy : Nat) :
    (fillQuote params buy).isValid darkpool = true := by
  have hclean : containsByteSubslice [] darkpool = false := by
    rw [← Bool.not_eq_true, containsByteSubslice_iff, List.infix_nil]
    exact hdark
  simp [ExecutableQuote.isValid, ExecutableQuote.darkpoolAddressInCalldata, fillQuote,
    QuoteExecutionData.calldata, hclean]

theorem fetchBestQuote_fill {buy : Nat} (hvenue : params.venue = none)
    (hamount : params.fromAmount < 2 ^ 128) (hbuy : buy < 2 ^ 128) (hdark : cfg.darkpool ≠ []) :
    fetchBestQuote cfg params (fillReplies cfg prices params balance buy) [] =
      .ok (some (fillQuote params buy)) := by
  have hvalid : fetchValidQuotes cfg params (fillReplies cfg prices params balance buy) [] =
      .ok [fillQuote params buy] := by
    unfold fetchValidQuotes
    rw [hvenue]
    change Except.ok (validQuotes cfg.darkpool [fillQuote params buy]) = _
    simp [validQuotes, isValid_fillQuote hdark]
  have hfits : (fillQuote params buy).quote.overflows = false := by
    refine decide_eq_false (not_or.mpr ⟨?_, ?_⟩)
    · exact Nat.not_le_of_lt hbuy
    · exact Nat.not_le_of_lt hamount
  have hany : [fillQuote params buy].any (·.quote.overflows) = false := by
    rw [List.any_cons, hfits]
    rfl
  refine bind_ok.mpr ⟨_, hvalid, ?_⟩
  rw [hany]
  rfl

/-- **A quote at the reference price is executed**, where nothing speaks against it. -/
theorem returned_fill {buy : Nat} {worth : ℚ} (hvenue : params.venue = none)
    (hcovered : params.fromAmount ≤ balance) (hamount : params.fromAmount < 2 ^ 128)
    (hbuy : buy < 2 ^ 128) (hdark : cfg.darkpool ≠ [])
    (hworth : getExpectedQuoteAmount cfg params (fillReplies cfg prices params balance buy) =
      .ok worth) (hmin : minSwapQuoteAmount ≤ worth)
    (hprice : (fillQuote params buy).quote.getPrice cfg.tokens =
      .fin (prices (params.baseToken cfg.tokens)))
    (hne : prices (params.baseToken cfg.tokens) ≠ 0)
    (hdev : 0 ≤ maxDeviation cfg (fillQuote params buy).quote) :
    Returned cfg prices params balance (.ok (some (fillOutcome params buy))) := by
  have hcan : canExecuteSwap cfg params (fillReplies cfg prices params balance buy) =
      .ok true := by
    unfold canExecuteSwap
    rw [hworth]
    simp [hasSufficientBalance, fillReplies, hcovered, hmin, Except.map, bind, Except.bind, pure,
      Except.pure]
  have hclose : exceedsPriceDeviation cfg (fillQuote params buy).quote 1
      (fillReplies cfg prices params balance buy) = .ok false := by
    change Except.ok (computePriceDeviation _ _ (prices (params.baseToken cfg.tokens)) _).2 = _
    rw [hprice, computePriceDeviation_self _ hne (by simpa using hdev)]
  have hquote : getExecutableQuote cfg params 1 []
      (fillReplies cfg prices params balance buy) = .ok (fillQuote params buy) :=
    getExecutableQuote_of_checks hcan (fetchBestQuote_fill hvenue hamount hbuy hdark) hclose
  refine returned_of_turn (r := fillReplies cfg prices params balance buy) ?_ ?_ ?_
  · exact ⟨rfl, fun p hp => (Except.ok.inj hp).symm, fun p hp => (Except.ok.inj hp).symm⟩
  · intro q hq
    rw [hvenue] at hq
    obtain rfl : q = fillQuote params buy := List.mem_singleton.mp hq
    exact ⟨rfl, rfl, rfl⟩
  · have hturn : getExecutableQuote cfg ((swapStart params).params params)
        (swapStart params).loop.multiplier (swapStart params).loop.excluded
        (fillReplies cfg prices params balance buy) = .ok (fillQuote params buy) := hquote
    unfold swapTurn
    rw [hturn]
    rfl

end RelayerExtensions.Funds
