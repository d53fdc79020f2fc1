import Mathlib.Algebra.Group.Action.Defs
import Mathlib.Algebra.Order.BigOperators.Group.List
import Mathlib.Data.Nat.Size
import RelayerExtensions.Funds.SwapImmediate

/-!
# How long the decaying swap goes on, and what it pays for gas

Both results go by the cases of a turn (`Turn`): it ends the loop, widens the tolerance, halves
the amount, or excludes a source.

The loop ends. The tolerance is widened at most sixteen times, since it goes up by a fifth each
time and the loop gives up above four. An amount that the loop goes on with is positive, so it
can be halved only as often as it has binary digits. And at one amount at most five executions
fail before it is halved, whatever else happens in between (`decaying_swap_ends`).

The gas of an execution is added where the outcome is made, or by the loop if there is none, and
never by both (`outcome_accounted`).
-/

namespace RelayerExtensions.Funds

/-! ## The loop ends -/

section Ends

variable {cfg : ExecutionConfig} {params : QuoteParams} {s s' : SwapRun} {r : StepReplies}

/-- How many turns there can be. -/
def turnBound (params : QuoteParams) : Nat := 5 * (params.fromAmount.size + 1) + 16

/-- What `n` turns have used up, if the loop still goes on: so many increases of the tolerance,
five turns for each amount left behind, and those at the amount of now. -/
structure Spent (params : QuoteParams) (n : Nat) (s : SwapRun) : Prop where
  amount : s.loop.fromAmount = params.fromAmount / 2 ^ s.halvings
  halvings : s.halvings ≤ params.fromAmount.size
  tried : s.loop.numSwapsWithExclusion < maxRetriesWithExclusion
  turns : ∃ k : Nat, s.loop.multiplier = 1 + k * priceDeviationIncrease ∧ k ≤ 15 ∧
    n ≤ k + maxRetriesWithExclusion * s.halvings + s.loop.numSwapsWithExclusion

/-- The count of the turns. -/
def Counted (params : QuoteParams) (n : Nat) (s : SwapRun) : Prop :=
  n ≤ turnBound params ∧ (s.result = none → Spent params n s)

theorem Spent.lt_turnBound {n : Nat} (h : Spent params n s) : n < turnBound params := by
  obtain ⟨k, -, hk, hn⟩ := h.turns
  have hhalvings := h.halvings
  have htried := h.tried
  unfold turnBound
  unfold maxRetriesWithExclusion at hn htried
  omega

/-- An amount that is not zero has not been halved as often as it has digits. -/
theorem Spent.halvings_lt {n : Nat} (h : Spent params n s) (hpos : 0 < s.loop.fromAmount) :
    s.halvings < params.fromAmount.size := by
  rw [h.amount] at hpos
  have hle : 2 ^ s.halvings ≤ params.fromAmount := (Nat.div_pos_iff.mp hpos).2
  exact Nat.lt_size.mpr hle

/-- A turn that halves the amount. -/
theorem Spent.decrease {n gasCost : Nat} (h : Spent params n s) (hpos : 0 < s.loop.fromAmount)
    (hamount : s'.loop.fromAmount = s.loop.fromAmount) (hhalvings : s'.halvings = s.halvings)
    (hmultiplier : s'.loop.multiplier = s.loop.multiplier) :
    Spent params (n + 1) (s'.follow (.decreaseSwapSize gasCost)) := by
  obtain ⟨k, hk, hk15, hn⟩ := h.turns
  have htried := h.tried
  refine ⟨?_, ?_, Nat.zero_lt_succ _, k, hmultiplier.trans hk, hk15, ?_⟩
  · change s'.loop.fromAmount / swapDecayFactor = params.fromAmount / 2 ^ (s'.halvings + 1)
    rw [hamount, hhalvings, h.amount, Nat.div_div_eq_div_mul, pow_succ]
    rfl
  · change s'.halvings + 1 ≤ params.fromAmount.size
    rw [hhalvings]
    exact h.halvings_lt hpos
  · change n + 1 ≤ k + maxRetriesWithExclusion * (s'.halvings + 1) + 0
    rw [hhalvings]
    unfold maxRetriesWithExclusion at *
    omega

theorem counted_start (params : QuoteParams) : Counted params 0 (swapStart params) := by
  refine ⟨Nat.zero_le _, fun _ => ⟨?_, Nat.zero_le _, Nat.zero_lt_succ _, 0, ?_,
    Nat.zero_le _, Nat.zero_le _⟩⟩
  · exact (Nat.div_one _).symm
  · simp [swapStart]

/-- Widening a tolerance that stays within its limit. -/
theorem Spent.widen {n : Nat} (h : Spent params n s)
    (hrunning : (s.follow .increasePriceDeviation).result = none) :
    Spent params (n + 1) (s.follow .increasePriceDeviation) := by
  obtain ⟨k, hk, -, hn⟩ := h.turns
  unfold SwapRun.follow at hrunning ⊢
  dsimp only at hrunning ⊢
  split at hrunning
  · cases hrunning
  · next hmax =>
      rw [if_neg hmax]
      have hnext : s.loop.multiplier + priceDeviationIncrease =
          1 + ((k + 1 : Nat) : ℚ) * priceDeviationIncrease := by
        rw [hk]
        push_cast
        ring
      -- a fifth for each of the increases, and three in all
      have hk15 : k + 1 ≤ 15 := by
        rw [hnext, not_lt] at hmax
        unfold maxPriceDeviationIncrease priceDeviationIncrease at hmax
        have hcast : ((k + 1 : Nat) : ℚ) ≤ 15 := by linarith
        exact_mod_cast hcast
      refine ⟨h.amount, h.halvings, h.tried, k + 1, hnext, hk15, ?_⟩
      dsimp only
      omega

/-- **One turn more.** -/
theorem counted_step {n : Nat} (h : Counted params n s) (hs : swapStep cfg params s r = some s') :
    Counted params (n + 1) s' := by
  obtain ⟨hrunning, hturn⟩ := swapStep_cases hs
  have hspent := h.2 hrunning
  refine ⟨hspent.lt_turnBound, fun hrunning' => ?_⟩
  obtain ⟨k, hk, hk15, hn⟩ := hspent.turns
  cases hturn with
  | gaveUp hno | failed hno e | swapped hq hresult hhash | broke hq hresult => cases hrunning'
  | widened hno hpos hflag => exact hspent.widen hrunning'
  | deviated hno hpos hflag => exact hspent.decrease hpos rfl rfl rfl
  | excluded hq hresult hnone hfew =>
      refine ⟨hspent.amount, hspent.halvings, hfew, k, hk, hk15, ?_⟩
      exact Nat.succ_le_succ hn
  | decreased hq hresult hnone hmany =>
      exact hspent.decrease (executable_pos hq) rfl rfl rfl

theorem swapStep_of_running (h : ¬ s.result.isSome = true) (r : StepReplies) :
    ∃ s', swapStep cfg params s r = some s' := by
  have hrunning : s.result = none := Option.not_isSome_iff_eq_none.mp h
  exact ⟨swapTurn cfg params s r, by rw [swapStep, hrunning]⟩

/-- The tolerance only grows, and the amount only shrinks. -/
structure Onward (s s' : SwapRun) : Prop where
  multiplier : s.loop.multiplier ≤ s'.loop.multiplier
  amount : s'.loop.fromAmount ≤ s.loop.fromAmount

theorem Onward.refl (s : SwapRun) : Onward s s := ⟨le_refl _, le_refl _⟩

theorem Onward.trans {s'' : SwapRun} (h : Onward s s') (h' : Onward s' s'') : Onward s s'' :=
  ⟨h.multiplier.trans h'.multiplier, h'.amount.trans h.amount⟩

theorem onward_widen (s : SwapRun) : Onward s (s.follow .increasePriceDeviation) := by
  have hle : s.loop.multiplier ≤ s.loop.multiplier + priceDeviationIncrease :=
    le_add_of_nonneg_right (by unfold priceDeviationIncrease; norm_num)
  unfold SwapRun.follow
  dsimp only
  split <;> exact ⟨hle, le_refl _⟩

theorem onward_step (hs : swapStep cfg params s r = some s') : Onward s s' := by
  obtain ⟨-, hturn⟩ := swapStep_cases hs
  cases hturn with
  | widened hno hpos hflag => exact onward_widen s
  | deviated hno hpos hflag | decreased hq hresult hnone hmany =>
      exact ⟨le_refl _, Nat.div_le_self _ _⟩
  | gaveUp hno | failed hno e | swapped hq hresult hhash | broke hq hresult
  | excluded hq hresult hnone hfew => exact ⟨le_refl _, le_refl _⟩

theorem onward_run {rs : List StepReplies}
    (hr : Runs.run (swapStep cfg params) s rs = some s') : Onward s s' :=
  Runs.run_preserves (I := Onward s) (fun _ _ _ h hs => h.trans (onward_step hs)) rs (.refl s) hr

end Ends

/-- **The decaying swap ends.** No run has more turns than `5 * (b + 1) + 16`, `b` being the
number of binary digits of the amount, and whatever the answers are, the call has returned by
then; and between any two turns of a run, the tolerance has not decreased and the amount has not
increased. -/
theorem decaying_swap_ends (cfg : ExecutionConfig) (params : QuoteParams) :
    (∀ rs s, swapLoop cfg params rs = some s →
      rs.length ≤ 5 * (params.fromAmount.size + 1) + 16) ∧
    (∀ replies : Nat → StepReplies, ∃ n ≤ 5 * (params.fromAmount.size + 1) + 16, ∃ s,
      swapLoop cfg params ((List.range n).map replies) = some s ∧
        s.result.isSome = true) ∧
    ∀ before after s s', swapLoop cfg params before = some s →
      Runs.run (swapStep cfg params) s after = some s' → Onward s s' := by
  have hstep : ∀ n s r s', Counted params n s → swapStep cfg params s r = some s' →
      Counted params (n + 1) s' := fun _ _ _ _ h hs => counted_step h hs
  refine ⟨fun rs s hr => ?_, fun replies => ?_, fun _ _ _ _ _ hr => onward_run hr⟩
  · have hcount := Runs.run_counted hstep rs (counted_start params) hr
    rw [Nat.zero_add] at hcount
    exact hcount.1
  · exact Runs.run_stops hstep (fun _ _ h => h.1) (fun _ r h => swapStep_of_running h r)
      (counted_start params) replies

/-! ## The gas of all executions -/

/-- What the venue reported. -/
def Handed.result (h : Handed) : Except ExecutionClientError ExecutionResult :=
  (h.quote.execute h.replies.execution).1

def Handed.gasCost (h : Handed) : Nat := (h.result.toOption.map (·.gasCost)).getD 0

/-- The gas reported by the venues for all executions of the run. -/
def SwapRun.gasReported (s : SwapRun) : Nat := (s.handed.map Handed.gasCost).sum

/-- The outcome is that of the last execution, with the gas of all of them. -/
structure Accounted (s : SwapRun) (outcome : DecayingSwapOutcome) : Prop where
  gas : outcome.cumulativeGasCost = s.gasReported
  last : ∃ before last result, s.handed = before ++ [last] ∧ last.result = .ok result ∧
    outcome.quote = last.quote.quote ∧ outcome.buyAmountActual = result.buyAmountActual ∧
    result.txHash = some outcome.txHash

/-- The loop has added up what was reported so far, but for the last execution of a loop that has
returned; and an outcome is accounted for. -/
structure Charged (s : SwapRun) : Prop where
  running : s.result = none → s.loop.cumulativeGasCost = s.gasReported
  atMost : s.loop.cumulativeGasCost ≤ s.gasReported
  outcome : ∀ outcome, s.result = some (.ok (some outcome)) → Accounted s outcome

section Gas

variable {cfg : ExecutionConfig} {params : QuoteParams} {s s' : SwapRun} {r : StepReplies}

theorem gasReported_hand {q : ExecutableQuote} {result : ExecutionResult}
    (hresult : (q.execute r.execution).1 = .ok result) (tried : Nat) (submitted : List Submission) :
    (s.hand params r q tried submitted).gasReported = s.gasReported + result.gasCost := by
  unfold SwapRun.gasReported SwapRun.hand
  rw [List.map_append, List.sum_append, List.map_singleton, List.sum_singleton]
  unfold Handed.gasCost Handed.result
  dsimp only
  rw [hresult]
  rfl

theorem gasReported_le_hand (q : ExecutableQuote) (tried : Nat) (submitted : List Submission) :
    s.gasReported ≤ (s.hand params r q tried submitted).gasReported := by
  unfold SwapRun.gasReported SwapRun.hand
  rw [List.map_append, List.sum_append]
  exact Nat.le_add_right ..

/-- The gas that the loop adds to its sum. -/
def SwapControlFlow.gas : SwapControlFlow → Nat
  | .decreaseSwapSize gasCost => gasCost
  | .excludeQuoteSource _ gasCost => gasCost
  | _ => 0

theorem follow_cumulativeGasCost (s : SwapRun) (flow : SwapControlFlow) :
    (s.follow flow).loop.cumulativeGasCost = s.loop.cumulativeGasCost + flow.gas := by
  cases flow with
  | increasePriceDeviation =>
      unfold SwapRun.follow
      dsimp only
      split <;> rfl
  | noSwap | error e | decreaseSwapSize gasCost | excludeQuoteSource source gasCost => rfl

theorem follow_handed (s : SwapRun) (flow : SwapControlFlow) :
    (s.follow flow).handed = s.handed := by
  cases flow with
  | increasePriceDeviation =>
      unfold SwapRun.follow
      dsimp only
      split <;> rfl
  | noSwap | error e | decreaseSwapSize gasCost | excludeQuoteSource source gasCost => rfl

theorem charged_finish_error (hle : s.loop.cumulativeGasCost ≤ s.gasReported)
    (e : ExecutionClientError) : Charged (s.finish (.error e)) := by
  refine ⟨fun h => ?_, hle, fun outcome h => ?_⟩ <;> cases h

/-- The loop adds what has been reported and not been added. -/
theorem charged_follow (hrunning : s.result = none) (flow : SwapControlFlow)
    (hsum : s.loop.cumulativeGasCost + flow.gas = s.gasReported) : Charged (s.follow flow) := by
  have hadded : (s.follow flow).loop.cumulativeGasCost = (s.follow flow).gasReported := by
    rw [follow_cumulativeGasCost, hsum]
    unfold SwapRun.gasReported
    rw [follow_handed]
  exact ⟨fun _ => hadded, hadded.le,
    fun outcome h => absurd h (follow_result hrunning flow outcome)⟩

/-- **One turn.** The gas of an execution is added once: to the outcome, or to the loop's sum. -/
theorem charged_step (h : Charged s) (hs : swapStep cfg params s r = some s') : Charged s' := by
  obtain ⟨hrunning, hturn⟩ := swapStep_cases hs
  have hsum := h.running hrunning
  cases hturn with
  | gaveUp hno => exact charged_follow hrunning .noSwap hsum
  | failed hno e => exact charged_finish_error h.atMost e
  | widened hno hpos hflag | deviated hno hpos hflag => exact charged_follow hrunning _ hsum
  | broke hq hresult =>
      exact charged_finish_error (s := s.hand params r _ _ _)
        (h.atMost.trans (gasReported_le_hand ..)) _
  | excluded hq hresult hnone hfew | decreased hq hresult hnone hmany =>
      refine charged_follow (s := s.hand params r _ _ _) hrunning _ ?_
      rw [gasReported_hand hresult, ← hsum]
      rfl
  | @swapped q result hash hq hresult hhash =>
      refine ⟨fun h => (by cases h), h.atMost.trans
        (gasReported_le_hand q s.loop.numSwapsWithExclusion (q.submitted r)), fun outcome h => ?_⟩
      cases h
      refine ⟨?_, s.handed, _, _, rfl, hresult, rfl, rfl, hhash⟩
      rw [hsum]
      exact (gasReported_hand hresult s.loop.numSwapsWithExclusion (q.submitted r)).symm

theorem charged_run {rs : List StepReplies} (hr : swapLoop cfg params rs = some s) : Charged s :=
  Runs.run_preserves (fun _ _ _ h hs => charged_step h hs) rs
    ⟨fun _ => rfl, Nat.le_refl 0, fun _ h => by cases h⟩ hr

end Gas

/-- **An outcome has the gas of all executions of the run**, each of them once, and is that of
the last one. -/
theorem outcome_accounted (cfg : ExecutionConfig) (params : QuoteParams) (rs : List StepReplies)
    (s : SwapRun) (outcome : DecayingSwapOutcome) (hr : swapLoop cfg params rs = some s)
    (houtcome : s.result = some (.ok (some outcome))) : Accounted s outcome := by
  exact (charged_run hr).outcome outcome houtcome

/-- Bebop's transaction is mined and reverts; Lifi's then goes through. -/
def revertedThenSwapped : List StepReplies :=
  [sampleReplies 4 399 400 (.mined ⟨false, 7, 21000, 1, 0⟩),
    sampleReplies 4 399 400 (.mined ⟨true, 8, 30000, 1, 399 * 10 ^ 6⟩)]

theorem revertedThenSwapped_accounted :
    ∃ s outcome, swapLoop sampleConfig sampleParams revertedThenSwapped = some s ∧
      s.result = some (.ok (some outcome)) ∧
      outcome.cumulativeGasCost = 51000 ∧ Accounted s outcome := by
  obtain ⟨s, hr, hresult⟩ := Option.map_eq_some_iff.mp
    (show (swapLoop sampleConfig sampleParams revertedThenSwapped).map (·.result) =
      some (some (.ok (some
        ⟨⟨1, 0, 4, 399 * 10 ^ 6, .lifi, .lifiExchange "uniswap"⟩, 399 * 10 ^ 6, 8, 51000⟩))) by
      decide +kernel)
  exact ⟨s, _, hr, hresult, rfl, outcome_accounted _ _ _ s _ hr hresult⟩

/-! ### The sum fits

The sum is kept in 256 bits. The gas of one transaction fits into 192 of them, 64 for the gas used
and 128 for its price, and there are not enough turns to fill the rest. -/

section Fits

variable {cfg : ExecutionConfig} {params : QuoteParams} {s s' : SwapRun} {r : StepReplies}

theorem handed_length_step {n : Nat} (h : s.handed.length ≤ n)
    (hs : swapStep cfg params s r = some s') : s'.handed.length ≤ n + 1 := by
  have hone : ∀ d : Handed, (s.handed ++ [d]).length ≤ n + 1 := by
    intro d
    rw [List.length_append]
    exact Nat.succ_le_succ h
  obtain ⟨-, hturn⟩ := swapStep_cases hs
  cases hturn with
  | gaveUp | failed hno e => exact Nat.le_succ_of_le h
  | widened hno hpos hflag | deviated hno hpos hflag =>
      rw [follow_handed]
      exact Nat.le_succ_of_le h
  | swapped hq hresult hhash | broke hq hresult => exact hone _
  | excluded hq hresult hnone hfew | decreased hq hresult hnone hmany =>
      rw [follow_handed]
      exact hone _

/-- **The sum of the gas does not overflow**: that of an outcome, and the loop's own. -/
theorem gasReported_lt {rs : List StepReplies} (hr : swapLoop cfg params rs = some s)
    (hamount : params.fromAmount < 2 ^ 256) (hgas : ∀ h ∈ s.handed, h.gasCost ≤ 2 ^ 192) :
    s.gasReported < 2 ^ 256 ∧ s.loop.cumulativeGasCost < 2 ^ 256 := by
  have hturns := (Runs.run_counted (fun _ _ _ _ h hs => counted_step h hs) rs
    (counted_start params) hr).1
  have hlength := Runs.run_counted (I := fun n s => s.handed.length ≤ n)
    (fun _ _ _ _ h hs => handed_length_step h hs) rs (Nat.zero_le 0) hr
  have hsize : params.fromAmount.size ≤ 256 := Nat.size_le.mpr hamount
  have hsum : s.gasReported ≤ s.handed.length * 2 ^ 192 := by
    have hle := List.sum_le_card_nsmul (s.handed.map Handed.gasCost) (2 ^ 192) (by simpa using hgas)
    rwa [List.length_map, smul_eq_mul] at hle
  have hcount : s.handed.length ≤ 1301 := by
    unfold turnBound at hturns
    omega
  have hlt : s.gasReported < 2 ^ 256 :=
    calc s.gasReported ≤ s.handed.length * 2 ^ 192 := hsum
      _ ≤ 1301 * 2 ^ 192 := Nat.mul_le_mul_right _ hcount
      _ < 2 ^ 256 := by norm_num
  exact ⟨hlt, (charged_run hr).atMost.trans_lt hlt⟩

theorem gasReported_lt_reverted :
    ∃ s, swapLoop sampleConfig sampleParams revertedThenSwapped = some s ∧
        s.gasReported < 2 ^ 256 ∧ s.loop.cumulativeGasCost < 2 ^ 256 := by
  obtain ⟨s, hr, hcosts⟩ := Option.map_eq_some_iff.mp
    (show (swapLoop sampleConfig sampleParams revertedThenSwapped).map
      (·.handed.map Handed.gasCost) = some [21000, 30000] by
      decide +kernel)
  refine ⟨s, hr, gasReported_lt hr (by decide +kernel) fun h hh => ?_⟩
  have hcost : h.gasCost ∈ [21000, 30000] := hcosts ▸ List.mem_map_of_mem hh
  simp only [List.mem_cons, List.not_mem_nil, or_false] at hcost
  omega

end Fits

end RelayerExtensions.Funds
