import RelayerExtensions.Funds.SwapImmediate

/-!
# What a swap lets loose

A run of the decaying swap may submit several transactions and orders, one after the other, each
because the one before is taken to have failed. What the adapters call a failure is the absence of
a transaction hash: that covers a transaction that reverted, but also one whose broadcast or
receipt was lost, and an order that was not filled within a minute and stays valid for another.

If nothing that is reported without a hash executes after all, and no quote sells more than was
asked for (`Settled`), then at most the last submission of a run executes, the run sells at most
the amount it was asked to sell, and a run that returns no outcome sells nothing
(`swap_sells_once`). A transaction that is mined after its receipt could not be had is enough to
sell twice (`lost_receipt_sells_twice`).
-/

namespace RelayerExtensions.Funds

/-- At most one submission executes; what executes sells at most the amount asked for; and nothing
executes if the run returned without an outcome. -/
structure SellsOnce (params : QuoteParams) (s : SwapRun) : Prop where
  once : (s.submissions.filter (·.executes)).length ≤ 1
  amount : ((s.submissions.filter (·.executes)).map (·.sellAmount)).sum ≤ params.fromAmount
  nothing : s.result = some (.ok none) → ∀ x ∈ s.submissions, x.executes = false

/-! ## When a failure is one -/

def SendReply.lostButMined : SendReply → Bool
  | .sendError _ executes | .receiptError _ executes => executes
  | _ => false

def PollReply.isNone : PollReply → Bool
  | .none => true
  | _ => false

/-- A transaction whose broadcast or receipt failed is not mined, and an order of which no trade
was seen by the end of the wait is not filled. -/
def ExecReplies.Settled (r : ExecReplies) : Prop :=
  (∀ n < txMaxRetries, (r.send n).lostButMined = false) ∧
    (r.polls.all PollReply.isNone = true → r.orderFills = false)

instance (r : ExecReplies) : Decidable r.Settled := inferInstanceAs (Decidable (_ ∧ _))

/-- Failures are failures, and no quote sells more than the amount of the step. -/
def Settled (params : QuoteParams) (s : SwapRun) (r : StepReplies) : Prop :=
  r.execution.Settled ∧
    ∀ q ∈ (fetchAllQuotes params.venue r.quotes s.loop.excluded).toOption.getD [],
      q.quote.sellAmount ≤ s.loop.fromAmount

instance (params : QuoteParams) (s : SwapRun) (r : StepReplies) :
    Decidable (Settled params s r) :=
  inferInstanceAs (Decidable (_ ∧ _))

/-! ## The adapters -/

theorem sendTxWithRetry_error {reply : Nat → SendReply} : ∀ {n : Nat} {e : ExecutionClientError},
    (∀ k < n, (reply k).lostButMined = false) → (sendTxWithRetry reply n).1 = .error e →
    (sendTxWithRetry reply n).2 = false
  | 0, _, _, _ => rfl
  | n + 1, e, hlost, h => by
      have hn := hlost n (Nat.lt_succ_self n)
      cases hr : reply n with
      | nonceTooLow =>
          simp only [sendTxWithRetry, hr] at h ⊢
          exact sendTxWithRetry_error (fun k hk => hlost k (Nat.lt_succ_of_lt hk)) h
      | sendError e' executes | receiptError e' executes =>
          simp only [sendTxWithRetry, hr]
          simpa [hr, SendReply.lostButMined] using hn
      | mined receipt =>
          simp only [sendTxWithRetry, hr] at h
          cases h

theorem sendTxWithRetry_ok {reply : Nat → SendReply} : ∀ {n : Nat} {receipt : TransactionReceipt},
    (sendTxWithRetry reply n).1 = .ok receipt → (sendTxWithRetry reply n).2 = receipt.status
  | 0, _, h => by cases h
  | n + 1, receipt, h => by
      cases hr : reply n with
      | nonceTooLow =>
          simp only [sendTxWithRetry, hr] at h ⊢
          exact sendTxWithRetry_ok h
      | sendError e executes | receiptError e executes =>
          simp only [sendTxWithRetry, hr] at h
          cases h
      | mined receipt' =>
          simp only [sendTxWithRetry, hr, Except.ok.injEq] at h ⊢
          rw [h]

/-- A wait that ends without a hash has seen nothing but empty answers. -/
theorem awaitTradeExecution_none : ∀ {polls : List PollReply} {result : ExecutionResult},
    awaitTradeExecution polls = .ok result → result.txHash = none →
    polls.all PollReply.isNone = true ∧ tradeSeen polls = false
  | [], _, _, _ => ⟨rfl, rfl⟩
  | .failed e :: _, _, h, _ => by cases h
  | .none :: polls, _, h, hnone => by
      obtain ⟨hall, hseen⟩ := @awaitTradeExecution_none polls _ h hnone
      exact ⟨by simpa [PollReply.isNone] using hall, hseen⟩
  | .trade (.ok hash) buyAmount :: _, _, h, hnone => by
      cases h
      cases hnone
  | .trade (.error e) _ :: _, _, h, _ => by cases h

variable {result : ExecutionResult}

theorem ExecReplies.Settled.inert_onChain {r : ExecReplies} (hr : r.Settled) {q : ExecutionQuote}
    (h : (executeOnChain r q).1 = .ok result)
    (hnone : result.txHash = none) : ∀ x ∈ (executeOnChain r q).2, x.executes = false := by
  unfold executeOnChain at h ⊢
  split at h
  · cases h
  · cases h
  · dsimp only at h ⊢
    cases hsent : (sendTxWithRetry r.send txMaxRetries).1 with
    | error e =>
        have := sendTxWithRetry_error hr.1 hsent
        simp [this]
    | ok receipt =>
        rw [hsent] at h
        dsimp only at h ⊢
        split at h
        · -- a receipt of success comes with a hash
          cases h
          cases hnone
        · rename_i hstatus
          simp [sendTxWithRetry_ok hsent, hstatus]

theorem ExecReplies.Settled.inert_order {r : ExecReplies} (hr : r.Settled) {q : ExecutionQuote}
    (h : (executeOrder r q).1 = .ok result)
    (hnone : result.txHash = none) : ∀ x ∈ (executeOrder r q).2, x.executes = false := by
  unfold executeOrder at h ⊢
  split at h
  · cases h
  · dsimp only at h ⊢
    cases hplaced : r.placeOrder with
    | error e =>
        rw [hplaced] at h
        cases h
    | ok u =>
        rw [hplaced] at h
        obtain ⟨hall, hseen⟩ := awaitTradeExecution_none h hnone
        simp [hseen, hr.2 hall]

/-- **What is reported without a hash does not execute**, if failures are failures. -/
theorem ExecReplies.Settled.inert {r : ExecReplies} (hr : r.Settled) {q : ExecutableQuote}
    (h : (q.execute r).1 = .ok result) (hnone : result.txHash = none) :
    ∀ x ∈ (q.execute r).2, x.executes = false := by
  unfold ExecutableQuote.execute at h ⊢
  split at h
  · exact hr.inert_onChain h hnone
  · exact hr.inert_onChain h hnone
  · exact hr.inert_order h hnone

/-! ## Whole runs -/

/-- Along a run: nothing that was let loose so far executes, as long as the loop goes on or has
given up. -/
structure Inert (params : QuoteParams) (s : SwapRun) : Prop where
  amount : s.loop.fromAmount ≤ params.fromAmount
  quiet : s.result = none ∨ s.result = some (.ok none) →
    ∀ x ∈ s.submissions, x.executes = false
  sells : SellsOnce params s

section Run

variable {cfg : ExecutionConfig} {params : QuoteParams} {s s' : SwapRun}

theorem filter_executes_nil {xs : List Submission} (h : ∀ x ∈ xs, x.executes = false) :
    xs.filter (·.executes) = [] :=
  List.filter_eq_nil_iff.mpr fun x hx => by simp [h x hx]

theorem inert_of_quiet (hamount : s.loop.fromAmount ≤ params.fromAmount)
    (h : ∀ x ∈ s.submissions, x.executes = false) : Inert params s := by
  refine ⟨hamount, fun _ => h, ?_, ?_, fun _ => h⟩ <;> simp [filter_executes_nil h]

theorem inert_start : Inert params (swapStart params) :=
  inert_of_quiet (le_refl _) (by simp [swapStart])

/-- The loop going on or giving up lets nothing loose, and never asks for more. -/
theorem Inert.follow (hamount : s.loop.fromAmount ≤ params.fromAmount)
    (hquiet : ∀ x ∈ s.submissions, x.executes = false) (flow : SwapControlFlow) :
    Inert params (s.follow flow) := by
  cases flow with
  | noSwap | error e | excludeQuoteSource source gasCost => exact inert_of_quiet hamount hquiet
  | increasePriceDeviation =>
      simp only [SwapRun.follow]
      split <;> exact inert_of_quiet hamount hquiet
  | decreaseSwapSize gasCost =>
      exact inert_of_quiet ((Nat.div_le_self _ _).trans hamount) hquiet

/-- A run that ends with an execution: what it let loose before does not execute, and the last
submission sells at most what was asked for. -/
theorem inert_of_last (hamount : s.loop.fromAmount ≤ params.fromAmount)
    (hresult : s.result ≠ none ∧ s.result ≠ some (.ok none)) {before last : List Submission}
    (hsub : s.submissions = before ++ last) (hquiet : ∀ x ∈ before, x.executes = false)
    (hlast : last = [] ∨ ∃ x, last = [x] ∧ x.sellAmount ≤ params.fromAmount) : Inert params s := by
  have hfilter : s.submissions.filter (·.executes) = last.filter (·.executes) := by
    rw [hsub, List.filter_append, filter_executes_nil hquiet, List.nil_append]
  refine ⟨hamount, fun h => ?_, ?_, ?_, fun h => absurd h hresult.2⟩
  · exact absurd h (not_or.mpr hresult)
  all_goals
    rw [hfilter]
    rcases hlast with rfl | ⟨x, rfl, hx⟩
  · simp
  · cases hexec : x.executes <;> simp [hexec]
  · simp
  · cases hexec : x.executes <;> simp [hexec, hx]

theorem Inert.step (h : Inert params s) {r : StepReplies} (hr : Settled params s r)
    (hs : swapStep cfg params s r = some s') : Inert params s' := by
  obtain ⟨hrunning, hturn⟩ := swapStep_cases hs
  have hquiet := h.quiet (.inl hrunning)
  -- a quote that is executed came back, so it sells at most the amount of the step
  have hlast : ∀ {q : ExecutableQuote}, s.executable cfg params r = .ok q → q.submitted r = [] ∨
      ∃ x, q.submitted r = [x] ∧ x.sellAmount ≤ params.fromAmount := by
    intro q hq
    have hsells : q.quote.sellAmount ≤ params.fromAmount :=
      (hr.2 q (getExecutableQuote_ok hq).fetched).trans h.amount
    rcases q.execute_submissions r.execution with hnil | ⟨executes, hone⟩
    · exact .inl hnil
    · exact .inr ⟨_, hone, hsells⟩
  -- without a hash, what was just submitted does not execute either
  have hnext : ∀ {q : ExecutableQuote} {result : ExecutionResult},
      (q.execute r.execution).1 = .ok result → result.txHash = none → ∀ flow,
      Inert params ((s.hand params r q (s.loop.numSwapsWithExclusion + 1)
        (q.submitted r)).follow flow) := by
    intro q result hresult hnone flow
    refine Inert.follow ?_ (fun x hx => ?_) flow
    · exact h.amount
    rcases List.mem_append.mp hx with hx | hx
    · exact hquiet x hx
    · exact hr.1.inert hresult hnone x hx
  cases hturn with
  | gaveUp hno | failed hno e => exact inert_of_quiet h.amount hquiet
  | widened hno hpos hflag | deviated hno hpos hflag => exact Inert.follow h.amount hquiet _
  | swapped hq hresult hhash | broke hq hresult =>
      exact inert_of_last h.amount ⟨nofun, nofun⟩ rfl hquiet (hlast hq)
  | excluded hq hresult hnone hfew | decreased hq hresult hnone hmany => exact hnext hresult hnone _

end Run

/-- **A swap sells once**, in every run in which failures are failures and no quote sells more
than was asked for. -/
theorem swap_sells_once (cfg : ExecutionConfig) (params : QuoteParams) (rs : List StepReplies)
    (s : SwapRun) (hm : Runs.Meets (swapStep cfg params) (Settled params) (swapStart params) rs)
    (hr : swapLoop cfg params rs = some s) : SellsOnce params s :=
  (Runs.run_invariant (fun _ _ _ h ha hs => Inert.step h ha hs) rs inert_start hm hr).sells

theorem swap_sells_once_sample :
    ∃ s, swapLoop sampleConfig sampleParams sampleAnswers =
      some s ∧ s.submissions = [⟨.bebopJAMv2, 2, false⟩, ⟨.lifiExchange "uniswap", 2, true⟩] ∧
      SellsOnce sampleParams s := by
  obtain ⟨s, hs, hsub⟩ := Option.map_eq_some_iff.mp
    (show (swapLoop sampleConfig sampleParams sampleAnswers).map (fun s => s.submissions) =
        some [⟨.bebopJAMv2, 2, false⟩, ⟨.lifiExchange "uniswap", 2, true⟩] by decide +kernel)
  exact ⟨s, hs, hsub, swap_sells_once _ _ _ _ (by decide +kernel) hs⟩

/-- Bebop's transaction is broadcast, waiting for its receipt fails, and it is mined. Meanwhile
Lifi's is executed. -/
def lostReceipt : List StepReplies :=
  [sampleReplies 4 399 400 (.receiptError "timed out" true),
    sampleReplies 4 399 400 (.mined ⟨true, 7, 21000, 1, 399 * 10 ^ 6⟩)]

/-- The same, but Lifi's price has moved by the time it is asked again, down to the amounts that
are not worth swapping. -/
def lostReceiptGivenUp : List StepReplies :=
  [sampleReplies 4 399 400 (.receiptError "timed out" true), sampleReplies 4 300 300 .nonceTooLow,
    sampleReplies 2 150 150 .nonceTooLow, sampleReplies 1 75 75 .nonceTooLow,
    sampleReplies 0 0 0 .nonceTooLow]

/-- Asked to sell four WETH, the first run sells eight, in two transactions; the second returns
without an outcome although it has sold four. -/
theorem lost_receipt_sells_twice :
    (∃ s, swapLoop sampleConfig sampleParams lostReceipt =
      some s ∧ s.submissions = [⟨.bebopJAMv2, 4, true⟩, ⟨.lifiExchange "uniswap", 4, true⟩]) ∧
    ∃ s, swapLoop sampleConfig sampleParams
      lostReceiptGivenUp = some s ∧ s.result = some (.ok none) ∧
      s.submissions = [⟨.bebopJAMv2, 4, true⟩] := by
  constructor
  · exact Option.map_eq_some_iff.mp
      (show (swapLoop sampleConfig sampleParams lostReceipt).map (fun s => s.submissions) =
          some [⟨.bebopJAMv2, 4, true⟩, ⟨.lifiExchange "uniswap", 4, true⟩] by decide +kernel)
  · obtain ⟨s, hs, hproj⟩ := Option.map_eq_some_iff.mp
      (show (swapLoop sampleConfig sampleParams
        lostReceiptGivenUp).map (fun s => (s.result, s.submissions)) =
          some (some (.ok none), [⟨.bebopJAMv2, 4, true⟩]) by decide +kernel)
    rw [Prod.mk.injEq] at hproj
    exact ⟨s, hs, hproj⟩

end RelayerExtensions.Funds
