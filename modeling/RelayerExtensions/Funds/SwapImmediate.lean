import RelayerExtensions.Lib.Effect
import RelayerExtensions.Lib.Runs
import RelayerExtensions.Funds.Quotes

/-!
# The decaying swap

`swap_immediate_decaying` is a loop around one step: look at the balance and at what the swap is
worth, ask the venues, pick the best quote, compare it with the reference price, execute it. What
a step comes to tells the loop how to go on: give up, widen the tolerance, halve the amount, or
ask again without the source that failed.

The loop is a step function on a record of its variables. What the outside answers during one
step is the event of that step, so a run is a list of answers. Three logs stand beside the
variables: how often the amount was halved, the quotes that were handed to a venue with all that
was known when they were, and what was let loose on the chain.

Every quote that is handed over was fetched for the original amount halved as often as the loop
has done so, is covered by the balance, is worth the trouble, is the best valid one, and is within
the tolerance (`handed_quotes_sound`). The proof is one lemma about one step
(`getExecutableQuote_ok`) and an invariant of the tolerance and the amount. What a turn of the
loop can do is said once (`Turn`, `swapStep_cases`); every invariant of its runs, here and in the
modules above, goes by these cases.
-/

namespace RelayerExtensions.Funds

open Effect (bind_ok bind_error map_ok)

structure QuoteParams where
  fromToken : TokenAddress
  toToken : TokenAddress
  fromAmount : Nat
  increasePriceDeviation : Bool
  venue : Option SupportedExecutionVenue

structure ExecutionConfig where
  tokens : TokenMap
  darkpool : Bytes
  maxPriceDeviations : String → Option ℚ

/-! ## Constants -/

def swapDecayFactor : Nat := 2
def defaultMaxPriceDeviation : ℚ := 1 / 100
def priceDeviationIncrease : ℚ := 1 / 5
def maxPriceDeviationIncrease : ℚ := 4
def maxRetriesWithExclusion : Nat := 5
def minSwapQuoteAmount : ℚ := 10

/-! ## One step -/

/-- What the outside answers during one step. -/
structure StepReplies where
  balance : Except ExecutionClientError Nat
  price : Except ExecutionClientError ℚ
  quotes : VenueReplies
  referencePrice : Except ExecutionClientError ℚ
  execution : ExecReplies

structure DecayingSwapOutcome where
  quote : ExecutionQuote
  buyAmountActual : Nat
  txHash : TxHash
  cumulativeGasCost : Nat
  deriving DecidableEq

abbrev SwapResult := Except ExecutionClientError (Option DecayingSwapOutcome)

inductive SwapControlFlow where
  | noSwap
  | increasePriceDeviation
  | decreaseSwapSize (gasCost : Nat)
  | excludeQuoteSource (source : CrossVenueQuoteSource) (gasCost : Nat)
  | error (e : ExecutionClientError)
  deriving DecidableEq

/-- The `?` on an error of the client. -/
def orFlow {α : Type} : Except ExecutionClientError α → Except SwapControlFlow α
  | .ok a => .ok a
  | .error e => .error (.error e)

section Step

variable (cfg : ExecutionConfig)

def hasSufficientBalance (params : QuoteParams) (r : StepReplies) :
    Except ExecutionClientError Bool :=
  r.balance.map fun balance => decide (params.fromAmount ≤ balance)

def getExpectedQuoteAmount (params : QuoteParams) (r : StepReplies) :
    Except ExecutionClientError ℚ :=
  if 2 ^ 128 ≤ params.fromAmount then .error (.parse "amount does not fit into u128")
  else
    let amount := cfg.tokens.convertToDecimal params.fromToken params.fromAmount
    if cfg.tokens.isStablecoin params.fromToken then .ok amount
    else r.price.map fun price => amount * price

def canExecuteSwap (params : QuoteParams) (r : StepReplies) :
    Except ExecutionClientError Bool := do
  let covered ← hasSufficientBalance params r
  if !covered then return false
  else
    let expected ← getExpectedQuoteAmount cfg params r
    return !decide (expected < minSwapQuoteAmount)

/-- The quotes that come back and are valid. -/
def fetchValidQuotes (params : QuoteParams) (r : StepReplies)
    (excluded : List CrossVenueQuoteSource) : Except ExecutionClientError (List ExecutableQuote) :=
  (fetchAllQuotes params.venue r.quotes excluded).map (validQuotes cfg.darkpool)

/-- Comparing the prices converts every amount to `u128`, which panics if it does not fit. -/
def fetchBestQuote (params : QuoteParams) (r : StepReplies)
    (excluded : List CrossVenueQuoteSource) :
    Except ExecutionClientError (Option ExecutableQuote) := do
  let valid ← fetchValidQuotes cfg params r excluded
  if valid.any (·.quote.overflows) then throw (.panicked "Buy amount overflows u128")
  else return selectBestQuote cfg.tokens valid

/-- The deviation, positive if it is to our disadvantage, and whether it is too large. A deviation
that is not a number is. -/
def computePriceDeviation (isSell : Bool) (quotePrice : ExtRat) (referencePrice threshold : ℚ) :
    ExtRat × Bool :=
  let difference :=
    if isSell then ExtRat.sub (.fin referencePrice) quotePrice
    else ExtRat.sub quotePrice (.fin referencePrice)
  let deviation := ExtRat.div difference (.fin referencePrice)
  (deviation, !deviation.abs.isFinite || ExtRat.lt (.fin threshold) deviation.abs)

def maxDeviation (q : ExecutionQuote) : ℚ :=
  ((cfg.tokens.ticker (q.baseToken cfg.tokens)).bind cfg.maxPriceDeviations).getD
    defaultMaxPriceDeviation

def exceedsPriceDeviation (q : ExecutionQuote) (multiplier : ℚ) (r : StepReplies) :
    Except ExecutionClientError Bool :=
  r.referencePrice.map fun reference =>
    (computePriceDeviation (q.isSell cfg.tokens) (q.getPrice cfg.tokens) reference
      (maxDeviation cfg q * multiplier)).2

def getExecutableQuote (params : QuoteParams) (multiplier : ℚ)
    (excluded : List CrossVenueQuoteSource) (r : StepReplies) :
    Except SwapControlFlow ExecutableQuote := do
  let can ← orFlow (canExecuteSwap cfg params r)
  if !can then throw .noSwap
  else
    match ← orFlow (fetchBestQuote cfg params r excluded) with
    | none => throw .noSwap
    | some q =>
        let exceeds ← orFlow (exceedsPriceDeviation cfg q.quote multiplier r)
        if exceeds then
          if params.increasePriceDeviation then throw .increasePriceDeviation
          else throw (.decreaseSwapSize 0)
        else return q

/-- The variables of the loop. The multiplier is a rational here. The source adds 0.2 in `f64`,
where fifteen increases come to a little more than 4: it gives up at the fifteenth, and this loop
at the sixteenth. -/
structure LoopState where
  fromAmount : Nat
  cumulativeGasCost : Nat
  multiplier : ℚ
  excluded : List CrossVenueQuoteSource
  numSwapsWithExclusion : Nat

/-- `execute_quote` of the client: what the step comes to, the counter as it leaves it, and what
was let loose. -/
def executeQuote (q : ExecutableQuote) (s : LoopState) (r : ExecReplies) :
    Except SwapControlFlow DecayingSwapOutcome × Nat × List Submission :=
  match q.execute r with
  | (.error e, submitted) => (.error (.error e), s.numSwapsWithExclusion, submitted)
  | (.ok result, submitted) =>
      match result.txHash with
      | some hash =>
          (.ok ⟨q.quote, result.buyAmountActual, hash, s.cumulativeGasCost + result.gasCost⟩,
            s.numSwapsWithExclusion, submitted)
      | none =>
          let tried := s.numSwapsWithExclusion + 1
          if tried < maxRetriesWithExclusion then
            (.error (.excludeQuoteSource q.quote.source result.gasCost), tried, submitted)
          else (.error (.decreaseSwapSize result.gasCost), tried, submitted)

/-! ## The loop -/

/-- A quote that was handed to a venue, with what was known then. -/
structure Handed where
  halvings : Nat
  params : QuoteParams
  multiplier : ℚ
  excluded : List CrossVenueQuoteSource
  replies : StepReplies
  quote : ExecutableQuote

/-- The loop under way, or returned, with its logs. -/
structure SwapRun where
  loop : LoopState
  result : Option SwapResult
  halvings : Nat
  handed : List Handed
  submissions : List Submission

def SwapRun.finish (s : SwapRun) (result : SwapResult) : SwapRun :=
  { s with result := some result }

/-- What the loop does with the outcome of a step that did not end in a swap. -/
def SwapRun.follow (s : SwapRun) : SwapControlFlow → SwapRun
  | .noSwap => s.finish (.ok none)
  | .error e => s.finish (.error e)
  | .increasePriceDeviation =>
      let multiplier := s.loop.multiplier + priceDeviationIncrease
      let widened := { s with loop := { s.loop with multiplier := multiplier } }
      if maxPriceDeviationIncrease < multiplier then widened.finish (.ok none) else widened
  | .decreaseSwapSize gasCost =>
      { s with
        halvings := s.halvings + 1
        loop := { s.loop with
          fromAmount := s.loop.fromAmount / swapDecayFactor
          cumulativeGasCost := s.loop.cumulativeGasCost + gasCost
          excluded := []
          numSwapsWithExclusion := 0 } }
  | .excludeQuoteSource source gasCost =>
      { s with
        loop := { s.loop with
          cumulativeGasCost := s.loop.cumulativeGasCost + gasCost
          excluded := s.loop.excluded ++ [source] } }

/-- The parameters as the loop has them now. -/
def SwapRun.params (s : SwapRun) (params : QuoteParams) : QuoteParams :=
  { params with fromAmount := s.loop.fromAmount }

/-- A quote goes to its venue. -/
def SwapRun.hand (s : SwapRun) (params : QuoteParams) (r : StepReplies) (q : ExecutableQuote)
    (tried : Nat) (submitted : List Submission) : SwapRun :=
  { s with
    loop := { s.loop with numSwapsWithExclusion := tried }
    handed := s.handed ++
      [⟨s.halvings, s.params params, s.loop.multiplier, s.loop.excluded, r, q⟩]
    submissions := s.submissions ++ submitted }

def swapTurn (params : QuoteParams) (s : SwapRun) (r : StepReplies) : SwapRun :=
  match getExecutableQuote cfg (s.params params) s.loop.multiplier s.loop.excluded r with
  | .error flow => s.follow flow
  | .ok q =>
      match executeQuote q s.loop r.execution with
      | (.ok outcome, tried, submitted) =>
          (s.hand params r q tried submitted).finish (.ok (some outcome))
      | (.error flow, tried, submitted) => (s.hand params r q tried submitted).follow flow

def swapStep (params : QuoteParams) (s : SwapRun) (r : StepReplies) : Option SwapRun :=
  match s.result with
  | none => some (swapTurn cfg params s r)
  | some _ => none

def swapStart (params : QuoteParams) : SwapRun where
  loop := ⟨params.fromAmount, 0, 1, [], 0⟩
  result := none
  halvings := 0
  handed := []
  submissions := []

abbrev swapLoop (params : QuoteParams) : List StepReplies → Option SwapRun :=
  Runs.run (swapStep cfg params) (swapStart params)

end Step

/-! ## What a step has checked -/

section Checked

variable {cfg : ExecutionConfig} {excluded : List CrossVenueQuoteSource} {params : QuoteParams}
  {r : StepReplies}

theorem orFlow_ok {α : Type} {x : Except ExecutionClientError α} {a : α}
    (h : orFlow x = .ok a) : x = .ok a := by
  cases x with
  | error e => cases h
  | ok b =>
      cases h
      rfl

theorem canExecuteSwap_true (h : canExecuteSwap cfg params r = .ok true) :
    (∃ balance, r.balance = .ok balance ∧ params.fromAmount ≤ balance) ∧
      ∃ worth, getExpectedQuoteAmount cfg params r = .ok worth ∧ minSwapQuoteAmount ≤ worth := by
  obtain ⟨covered, hcovered, h⟩ := bind_ok.mp h
  obtain ⟨balance, hbalance, rfl⟩ := map_ok.mp hcovered
  split at h
  · cases h
  · rename_i hle
    obtain ⟨worth, hworth, h⟩ := bind_ok.mp h
    refine ⟨⟨balance, hbalance, by simpa using hle⟩, worth, hworth, ?_⟩
    simpa [pure, Except.pure] using h

theorem fetchBestQuote_some {q : ExecutableQuote}
    (h : fetchBestQuote cfg params r excluded = .ok (some q)) :
    ∃ valid, fetchValidQuotes cfg params r excluded = .ok valid ∧
      selectBestQuote cfg.tokens valid = some q := by
  obtain ⟨valid, hvalid, h⟩ := bind_ok.mp h
  refine ⟨valid, hvalid, ?_⟩
  split at h
  · cases h
  · exact Except.ok.inj h

/-- A deviation that is let pass is between numbers, and small. -/
theorem computePriceDeviation_false {isSell : Bool} {price : ExtRat} {reference threshold : ℚ}
    (h : (computePriceDeviation isSell price reference threshold).2 = false) :
    ∃ q, price = .fin q ∧ reference ≠ 0 ∧ |(q - reference) / reference| ≤ threshold := by
  simp only [computePriceDeviation, Bool.or_eq_false_iff, Bool.not_eq_false'] at h
  obtain ⟨hfinite, hsmall⟩ := h
  obtain ⟨q, hq, hr, habs⟩ := ExtRat.relative_finite (p := price) (by cases isSell <;> simp) hfinite
  refine ⟨q, hq, hr, ?_⟩
  rw [habs, ExtRat.lt_fin] at hsmall
  simpa using hsmall

/-- **All that is known about a quote that goes on to be executed.** -/
structure Checked (cfg : ExecutionConfig) (params : QuoteParams) (multiplier : ℚ)
    (excluded : List CrossVenueQuoteSource) (r : StepReplies) (q : ExecutableQuote) : Prop where
  covered : ∃ balance, r.balance = .ok balance ∧ params.fromAmount ≤ balance
  worthwhile : ∃ worth, getExpectedQuoteAmount cfg params r = .ok worth ∧
    minSwapQuoteAmount ≤ worth
  selected : ∃ valid, fetchValidQuotes cfg params r excluded = .ok valid ∧
    selectBestQuote cfg.tokens valid = some q
  close : ∃ price reference, q.quote.getPrice cfg.tokens = .fin price ∧
    r.referencePrice = .ok reference ∧ reference ≠ 0 ∧
    |(price - reference) / reference| ≤ maxDeviation cfg q.quote * multiplier

theorem getExecutableQuote_ok {multiplier : ℚ} {q : ExecutableQuote}
    (h : getExecutableQuote cfg params multiplier excluded r = .ok q) :
    Checked cfg params multiplier excluded r q := by
  obtain ⟨can, hcan, h⟩ := bind_ok.mp h
  split at h
  · cases h
  rename_i hgo
  have hgo : can = true := by simpa using hgo
  obtain ⟨hcovered, hworth⟩ := canExecuteSwap_true (hgo ▸ orFlow_ok hcan)
  obtain ⟨best, hbest, h⟩ := bind_ok.mp h
  cases best with
  | none => cases h
  | some q' =>
      obtain ⟨exceeds, hexceeds, h⟩ := bind_ok.mp h
      obtain ⟨reference, hreference, hdev⟩ := map_ok.mp (orFlow_ok hexceeds)
      split at h
      · split at h <;> cases h
      · rename_i hnot
        cases h
        have hsmall : exceeds = false := by simpa using hnot
        obtain ⟨price, hprice, hne, hclose⟩ := computePriceDeviation_false (hdev.trans hsmall)
        exact ⟨hcovered, hworth, fetchBestQuote_some (orFlow_ok hbest),
          price, reference, hprice, hreference, hne, hclose⟩

/-- A quote that is selected has come back. -/
theorem Checked.fetched {multiplier : ℚ} {q : ExecutableQuote}
    (h : Checked cfg params multiplier excluded r q) :
    q ∈ (fetchAllQuotes params.venue r.quotes excluded).toOption.getD [] := by
  obtain ⟨valid, hvalid, hselect⟩ := h.selected
  obtain ⟨all, hall, rfl⟩ := map_ok.mp hvalid
  rw [hall]
  exact List.mem_of_mem_filter (selectBestQuote_mem hselect)

end Checked

/-! ## Venues that answer what they are asked -/

/-- A quote for the tokens and the amount of the request. -/
def ExecutableQuote.Answers (params : QuoteParams) (q : ExecutableQuote) : Prop :=
  q.quote.sellToken = params.fromToken ∧ q.quote.buyToken = params.toToken ∧
    q.quote.sellAmount = params.fromAmount

instance (params : QuoteParams) : DecidablePred (ExecutableQuote.Answers params) := fun _ =>
  inferInstanceAs (Decidable (_ ∧ _))

/-- All quotes that come back in a step answer the request of the step. -/
def VenuesAnswer (params : QuoteParams) (s : SwapRun) (r : StepReplies) : Prop :=
  ∀ q ∈ (fetchAllQuotes params.venue r.quotes s.loop.excluded).toOption.getD [],
    q.Answers (s.params params)

instance (params : QuoteParams) (s : SwapRun) (r : StepReplies) :
    Decidable (VenuesAnswer params s r) :=
  inferInstanceAs (Decidable (∀ q ∈ _, _))

theorem ExecutionQuote.getPrice_ne_nan {m : TokenMap} {q : ExecutionQuote}
    (h : 0 < q.sellAmount) : q.getPrice m ≠ .nan := by
  have hsell : m.convertToDecimal q.sellToken q.sellAmount ≠ 0 := by
    unfold TokenMap.convertToDecimal
    positivity
  unfold ExecutionQuote.getPrice
  simp only [ExtRat.div, hsell, if_false]
  split
  · simp
  · split <;> simp

theorem amount_pos_of_worth {cfg : ExecutionConfig} {params : QuoteParams} {r : StepReplies}
    {worth : ℚ} (h : getExpectedQuoteAmount cfg params r = .ok worth)
    (hmin : minSwapQuoteAmount ≤ worth) : 0 < params.fromAmount := by
  refine Nat.pos_of_ne_zero fun hzero => ?_
  have hworth : worth = 0 := by
    unfold getExpectedQuoteAmount TokenMap.convertToDecimal at h
    rw [hzero] at h
    simp only [Nat.cast_zero, zero_div, zero_mul] at h
    split at h
    · cases h
    · split at h
      · exact (Except.ok.inj h).symm
      · obtain ⟨price, -, rfl⟩ := map_ok.mp h
        rfl
  rw [hworth] at hmin
  exact absurd hmin (by norm_num [minSwapQuoteAmount])

/-! ## The cases of a turn -/

/-- What was let loose by executing the quote. -/
def ExecutableQuote.submitted (q : ExecutableQuote) (r : StepReplies) : List Submission :=
  (q.execute r.execution).2

section Turn

variable (cfg : ExecutionConfig) (params : QuoteParams) (s : SwapRun) (r : StepReplies)

def SwapRun.executable : Except SwapControlFlow ExecutableQuote :=
  getExecutableQuote cfg (s.params params) s.loop.multiplier s.loop.excluded r

inductive Turn : SwapRun → Prop where
  | gaveUp (hno : ∀ q, s.executable cfg params r ≠ .ok q) : Turn (s.finish (.ok none))
  | failed (hno : ∀ q, s.executable cfg params r ≠ .ok q) (e : ExecutionClientError) :
      Turn (s.finish (.error e))
  /-- The quote is off the reference price. -/
  | widened (hno : ∀ q, s.executable cfg params r ≠ .ok q) (hpos : 0 < s.loop.fromAmount)
      (hflag : params.increasePriceDeviation = true) : Turn (s.follow .increasePriceDeviation)
  | deviated (hno : ∀ q, s.executable cfg params r ≠ .ok q) (hpos : 0 < s.loop.fromAmount)
      (hflag : params.increasePriceDeviation = false) : Turn (s.follow (.decreaseSwapSize 0))
  /-- The quote is executed. -/
  | swapped {q : ExecutableQuote} {result : ExecutionResult} {hash : TxHash}
      (hq : s.executable cfg params r = .ok q) (hresult : (q.execute r.execution).1 = .ok result)
      (hhash : result.txHash = some hash) :
      Turn ((s.hand params r q s.loop.numSwapsWithExclusion (q.submitted r)).finish
        (.ok (some ⟨q.quote, result.buyAmountActual, hash,
          s.loop.cumulativeGasCost + result.gasCost⟩)))
  | broke {q : ExecutableQuote} {e : ExecutionClientError}
      (hq : s.executable cfg params r = .ok q) (hresult : (q.execute r.execution).1 = .error e) :
      Turn ((s.hand params r q s.loop.numSwapsWithExclusion (q.submitted r)).finish (.error e))
  | excluded {q : ExecutableQuote} {result : ExecutionResult}
      (hq : s.executable cfg params r = .ok q) (hresult : (q.execute r.execution).1 = .ok result)
      (hnone : result.txHash = none)
      (hfew : s.loop.numSwapsWithExclusion + 1 < maxRetriesWithExclusion) :
      Turn ((s.hand params r q (s.loop.numSwapsWithExclusion + 1) (q.submitted r)).follow
        (.excludeQuoteSource q.quote.source result.gasCost))
  | decreased {q : ExecutableQuote} {result : ExecutionResult}
      (hq : s.executable cfg params r = .ok q) (hresult : (q.execute r.execution).1 = .ok result)
      (hnone : result.txHash = none)
      (hmany : maxRetriesWithExclusion ≤ s.loop.numSwapsWithExclusion + 1) :
      Turn ((s.hand params r q (s.loop.numSwapsWithExclusion + 1) (q.submitted r)).follow
        (.decreaseSwapSize result.gasCost))

end Turn

section Cases

variable {cfg : ExecutionConfig} {params : QuoteParams} {s s' : SwapRun} {r : StepReplies}

theorem orFlow_error {α : Type} {x : Except ExecutionClientError α} {flow : SwapControlFlow}
    (h : orFlow x = .error flow) : ∃ e, flow = .error e := by
  cases x with
  | ok a => cases h
  | error e =>
      cases h
      exact ⟨e, rfl⟩

/-- Without a quote to execute, the step stops, or the quote was off and the amount is not
zero. -/
theorem getExecutableQuote_error {multiplier : ℚ} {excluded : List CrossVenueQuoteSource}
    {flow : SwapControlFlow}
    (h : getExecutableQuote cfg params multiplier excluded r = .error flow) :
    flow = .noSwap ∨ (∃ e, flow = .error e) ∨ 0 < params.fromAmount ∧
      (params.increasePriceDeviation = true ∧ flow = .increasePriceDeviation ∨
        params.increasePriceDeviation = false ∧ flow = .decreaseSwapSize 0) := by
  rcases bind_error h with h | ⟨can, hcan, h⟩
  · exact .inr (.inl (orFlow_error h))
  split at h
  · cases h
    exact .inl rfl
  rename_i hgo
  have hgo : can = true := by simpa using hgo
  obtain ⟨-, worth, hworth, hmin⟩ := canExecuteSwap_true (hgo ▸ orFlow_ok hcan)
  have hpos := amount_pos_of_worth hworth hmin
  rcases bind_error h with h | ⟨best, -, h⟩
  · exact .inr (.inl (orFlow_error h))
  cases best with
  | none =>
      cases h
      exact .inl rfl
  | some q =>
      rcases bind_error h with h | ⟨exceeds, -, h⟩
      · exact .inr (.inl (orFlow_error h))
      split at h
      · split at h
        · next hflag =>
            cases h
            exact .inr (.inr ⟨hpos, .inl ⟨hflag, rfl⟩⟩)
        · next hflag =>
            cases h
            exact .inr (.inr ⟨hpos, .inr ⟨by simpa using hflag, rfl⟩⟩)
      · cases h

/-- A quote is executed only for an amount. -/
theorem executable_pos {q : ExecutableQuote} (hq : s.executable cfg params r = .ok q) :
    0 < s.loop.fromAmount := by
  obtain ⟨worth, hworth, hmin⟩ := (getExecutableQuote_ok hq).worthwhile
  have hpos := amount_pos_of_worth hworth hmin
  exact hpos

/-- **Every turn is one of these.** -/
theorem swapTurn_cases : Turn cfg params s r (swapTurn cfg params s r) := by
  unfold swapTurn
  split
  · next flow hflow =>
      have hno : ∀ q, s.executable cfg params r ≠ .ok q := by
        intro q hq
        cases hflow.symm.trans hq
      rcases getExecutableQuote_error hflow with
        rfl | ⟨e, rfl⟩ | ⟨hpos, ⟨hflag, rfl⟩ | ⟨hflag, rfl⟩⟩
      · exact .gaveUp hno
      · exact .failed hno e
      · exact .widened hno hpos hflag
      · exact .deviated hno hpos hflag
  · next q hq =>
      have hexec : q.execute r.execution = ((q.execute r.execution).1, q.submitted r) := rfl
      unfold executeQuote
      rw [hexec]
      cases hresult : (q.execute r.execution).1 with
      | error e => exact .broke hq hresult
      | ok result =>
          cases hhash : result.txHash with
          | some hash =>
              simp only [hhash]
              exact .swapped hq hresult hhash
          | none =>
              simp only [hhash]
              by_cases hfew : s.loop.numSwapsWithExclusion + 1 < maxRetriesWithExclusion
              · rw [if_pos hfew]
                exact .excluded hq hresult hhash hfew
              · rw [if_neg hfew]
                exact .decreased hq hresult hhash (Nat.le_of_not_lt hfew)

theorem swapStep_cases (hs : swapStep cfg params s r = some s') :
    s.result = none ∧ Turn cfg params s r s' := by
  unfold swapStep at hs
  split at hs
  · next hrunning =>
      injection hs with hs
      exact ⟨hrunning, hs ▸ swapTurn_cases⟩
  · cases hs

/-- Going on never makes up an outcome. -/
theorem follow_result (hrunning : s.result = none) (flow : SwapControlFlow) :
    ∀ outcome, (s.follow flow).result ≠ some (.ok (some outcome)) := by
  intro outcome h
  cases flow with
  | noSwap | error e => cases h
  | increasePriceDeviation =>
      simp only [SwapRun.follow] at h
      split at h
      · cases h
      · exact Option.some_ne_none _ (h.symm.trans hrunning)
  | decreaseSwapSize gasCost | excludeQuoteSource source gasCost =>
      exact Option.some_ne_none _ (h.symm.trans hrunning)

end Cases

/-! ## Every quote that is handed over -/

/-- The first quote's price is at least as good as the second one's: as high for a sale, as low for
a purchase. -/
def ExecutableQuote.AtLeastAsGood (m : TokenMap) (q q' : ExecutableQuote) : Prop :=
  if q.quote.isSell m then ExtRat.le (q'.quote.getPrice m) (q.quote.getPrice m) = true
  else ExtRat.le (q.quote.getPrice m) (q'.quote.getPrice m) = true

/-- What holds of a quote when it is handed to a venue, `params` being what the swap was asked
for. -/
structure Handed.Sound (cfg : ExecutionConfig) (params : QuoteParams) (h : Handed) : Prop where
  /-- It was fetched for the amount that is left after so many halvings. -/
  amount : h.params = { params with fromAmount := params.fromAmount / 2 ^ h.halvings }
  answers : h.quote.Answers h.params
  /-- The balance read in the step covers the amount, and the amount is worth swapping. -/
  covered : ∃ balance, h.replies.balance = .ok balance ∧ h.params.fromAmount ≤ balance
  worthwhile : ∃ worth, getExpectedQuoteAmount cfg h.params h.replies = .ok worth ∧
    minSwapQuoteAmount ≤ worth
  /-- It is the best of the valid quotes that came back. -/
  best : ∃ valid, fetchValidQuotes cfg h.params h.replies h.excluded = .ok valid ∧
    h.quote ∈ valid ∧ ∀ q ∈ valid, h.quote.AtLeastAsGood cfg.tokens q
  /-- Its calldata does not mention the darkpool. -/
  clean : ∀ data, h.quote.executionData.calldata = some data → ¬ cfg.darkpool <:+: data
  /-- Its price is close to the reference price. -/
  close : ∃ price reference, h.quote.quote.getPrice cfg.tokens = .fin price ∧
    h.replies.referencePrice = .ok reference ∧ reference ≠ 0 ∧
    |(price - reference) / reference| ≤ maxDeviation cfg h.quote.quote * h.multiplier
  tolerance : h.multiplier ≤ maxPriceDeviationIncrease
  fixed : params.increasePriceDeviation = false → h.multiplier = 1

/-- The loop's variables along a run. -/
structure SwapInv (cfg : ExecutionConfig) (params : QuoteParams) (s : SwapRun) : Prop where
  amount : s.loop.fromAmount = params.fromAmount / 2 ^ s.halvings
  tolerance : s.result = none → s.loop.multiplier ≤ maxPriceDeviationIncrease
  fixed : params.increasePriceDeviation = false → s.loop.multiplier = 1
  handed : ∀ h ∈ s.handed, h.Sound cfg params

section Run

variable {cfg : ExecutionConfig} {params : QuoteParams} {s s' : SwapRun}

theorem swapInv_start : SwapInv cfg params (swapStart params) where
  amount := by simp [swapStart]
  tolerance := by simp [swapStart, maxPriceDeviationIncrease]
  fixed := fun _ => rfl
  handed := by simp [swapStart]

theorem SwapInv.finish (h : SwapInv cfg params s) (result : SwapResult) :
    SwapInv cfg params (s.finish result) :=
  ⟨h.amount, (fun hnone => nomatch hnone), h.fixed, h.handed⟩

theorem SwapInv.follow (h : SwapInv cfg params s) {flow : SwapControlFlow}
    (hwiden : flow = .increasePriceDeviation → params.increasePriceDeviation = true) :
    SwapInv cfg params (s.follow flow) := by
  cases flow with
  | noSwap | error e => exact h.finish _
  | increasePriceDeviation =>
      have hflag := hwiden rfl
      have hfixed : params.increasePriceDeviation = false →
          s.loop.multiplier + priceDeviationIncrease = 1 := by simp [hflag]
      simp only [SwapRun.follow]
      split
      · exact ⟨h.amount, (fun hnone => nomatch hnone), hfixed, h.handed⟩
      · rename_i hsmall
        exact ⟨h.amount, fun _ => le_of_not_gt hsmall, hfixed, h.handed⟩
  | decreaseSwapSize gasCost =>
      refine ⟨?_, h.tolerance, h.fixed, h.handed⟩
      simp only [SwapRun.follow, swapDecayFactor]
      rw [h.amount, Nat.div_div_eq_div_mul, pow_succ]
  | excludeQuoteSource source gasCost => exact ⟨h.amount, h.tolerance, h.fixed, h.handed⟩

/-- **A quote that passes all checks is sound.** -/
theorem SwapInv.sound (h : SwapInv cfg params s) (hrunning : s.result = none) {r : StepReplies}
    (hanswer : VenuesAnswer params s r) {q : ExecutableQuote}
    (hq : Checked cfg (s.params params) s.loop.multiplier s.loop.excluded r q) :
    (⟨s.halvings, s.params params, s.loop.multiplier, s.loop.excluded, r, q⟩ : Handed).Sound
      cfg params := by
  obtain ⟨valid, hvalid, hselect⟩ := hq.selected
  obtain ⟨all, hall, hfilter⟩ := map_ok.mp hvalid
  -- every quote that came back answers the request, so they are all on one side
  have hanswers : ∀ q' ∈ valid, q'.Answers (s.params params) := by
    intro q' hq'
    refine hanswer q' ?_
    have hall' : fetchAllQuotes params.venue r.quotes s.loop.excluded = .ok all := hall
    rw [hall']
    exact List.mem_of_mem_filter (hfilter ▸ hq' : q' ∈ validQuotes cfg.darkpool all)
  have hside : ∀ q' ∈ valid, q'.quote.isSell cfg.tokens =
      decide ((s.params params).toToken = cfg.tokens.usdc) := fun q' hq' => by
    simp [ExecutionQuote.isSell, (hanswers q' hq').2.1]
  have hmem := selectBestQuote_mem hselect
  have hbest := selectBestQuote_best hselect hside
  obtain ⟨worth, hworth, hmin⟩ := hq.worthwhile
  have hnan : ∀ q' ∈ valid, q'.quote.getPrice cfg.tokens ≠ .nan := fun q' hq' => by
    refine ExecutionQuote.getPrice_ne_nan ?_
    rw [(hanswers q' hq').2.2]
    exact amount_pos_of_worth hworth hmin
  refine ⟨?_, hanswers q hmem, hq.covered, hq.worthwhile, ⟨valid, hvalid, hmem, ?_⟩, ?_, hq.close,
    h.tolerance hrunning, h.fixed⟩
  · rw [← h.amount]
    rfl
  · intro q' hq'
    have hnot := hbest q' hq'
    rw [ExecutableQuote.Better, hside q' hq', ← hside q hmem] at hnot
    unfold ExecutableQuote.AtLeastAsGood
    cases hsell : q.quote.isSell cfg.tokens with
    | true => exact ExtRat.le_of_not_lt (hnan q' hq') (hnan q hmem) (by simpa [hsell] using hnot)
    | false => exact ExtRat.le_of_not_lt (hnan q hmem) (hnan q' hq') (by simpa [hsell] using hnot)
  · intro data hdata
    exact not_isInfix_of_valid (hfilter ▸ hmem : q ∈ validQuotes cfg.darkpool all) hdata

theorem SwapInv.hand (h : SwapInv cfg params s) (hrunning : s.result = none) {r : StepReplies}
    (hanswer : VenuesAnswer params s r) {q : ExecutableQuote}
    (hq : Checked cfg (s.params params) s.loop.multiplier s.loop.excluded r q) (tried : Nat)
    (submitted : List Submission) : SwapInv cfg params (s.hand params r q tried submitted) := by
  refine ⟨h.amount, h.tolerance, h.fixed, fun d hd => ?_⟩
  rcases List.mem_append.mp hd with hd | hd
  · exact h.handed d hd
  · exact List.mem_singleton.mp hd ▸ h.sound hrunning hanswer hq

theorem SwapInv.step (h : SwapInv cfg params s) {r : StepReplies}
    (hanswer : VenuesAnswer params s r) (hs : swapStep cfg params s r = some s') :
    SwapInv cfg params s' := by
  obtain ⟨hrunning, hturn⟩ := swapStep_cases hs
  have hhand : ∀ {q : ExecutableQuote}, s.executable cfg params r = .ok q → ∀ tried submitted,
      SwapInv cfg params (s.hand params r q tried submitted) := fun hq =>
    h.hand hrunning hanswer (getExecutableQuote_ok hq)
  cases hturn with
  | gaveUp hno | failed hno e => exact h.finish _
  | widened hno hpos hflag => exact h.follow fun _ => hflag
  | deviated hno hpos hflag => exact h.follow fun hwiden => (by cases hwiden)
  | swapped hq hresult hhash | broke hq hresult => exact (hhand hq _ _).finish _
  | excluded hq hresult hnone hfew | decreased hq hresult hnone hmany =>
      exact (hhand hq _ _).follow fun hwiden => (by cases hwiden)

end Run

/-- **Every quote handed to a venue is sound**, in every run in which the venues quote what they
are asked for. -/
theorem handed_quotes_sound (cfg : ExecutionConfig) (params : QuoteParams) (rs : List StepReplies)
    (s : SwapRun)
    (hm : Runs.Meets (swapStep cfg params) (VenuesAnswer params) (swapStart params) rs)
    (hr : swapLoop cfg params rs = some s) : ∀ h ∈ s.handed, h.Sound cfg params :=
  (Runs.run_invariant (fun _ _ _ h ha hs => SwapInv.step h ha hs) rs swapInv_start hm hr).handed

/-- Token 0 is USDC; token 1 is WETH, in whole units. -/
def sampleTokens : TokenMap where
  usdc := 0
  decimals t := if t = 0 then 6 else 0
  ticker t := if t = 0 then some "USDC" else if t = 1 then some "WETH" else none
  isStablecoin t := t = 0

def sampleConfig : ExecutionConfig := ⟨sampleTokens, [0xda, 0x7c], fun _ => none⟩

/-- Sell four WETH. -/
def sampleParams : QuoteParams := ⟨1, 0, 4, false, none⟩

def sampleExec (send : SendReply) : ExecReplies := ⟨none, none, fun _ => send, .ok (), [], false⟩

/-- WETH is at 100 USDC; Lifi and Bebop offer so many USDC for the amount. -/
def sampleReplies (amount lifi bebop : Nat) (send : SendReply) : StepReplies where
  balance := .ok 8
  price := .ok 100
  quotes :=
    { lifi := .ok ("uniswap", ⟨1, 0, amount, lifi * 10 ^ 6, [0x01]⟩)
      bebop := .ok (some ⟨1, 0, amount, bebop * 10 ^ 6, [0x02]⟩, none)
      cowswap := .error (.http "not asked") }
  referencePrice := .ok 100
  execution := sampleExec send

/-- Four WETH are priced too low, two are not. Bebop's quote is the better one and its transaction
is not accepted; then Lifi's is executed. -/
def sampleAnswers : List StepReplies :=
  [sampleReplies 4 300 310 .nonceTooLow, sampleReplies 2 199 200 (.sendError "refused" false),
    sampleReplies 2 199 200 (.mined ⟨true, 7, 21000, 1, 199 * 10 ^ 6⟩)]

theorem handed_quotes_sound_sample :
    ∃ s, swapLoop sampleConfig sampleParams sampleAnswers =
      some s ∧ s.handed.map (fun h => (h.halvings, h.quote.quote.source)) =
        [(1, .bebopJAMv2), (1, .lifiExchange "uniswap")] ∧
      ∀ h ∈ s.handed, h.Sound sampleConfig sampleParams := by
  obtain ⟨s, hs, hhanded⟩ := Option.map_eq_some_iff.mp
    (show (swapLoop sampleConfig sampleParams
      sampleAnswers).map (fun s => s.handed.map fun h => (h.halvings, h.quote.quote.source)) =
        some [(1, .bebopJAMv2), (1, .lifiExchange "uniswap")] by decide +kernel)
  exact ⟨s, hs, hhanded, handed_quotes_sound _ _ _ _ (by decide +kernel) hs⟩

end RelayerExtensions.Funds
