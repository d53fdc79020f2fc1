import RelayerExtensions.Funds.SwapTurns

/-!
# Retrying without the source that failed

When an execution fails, its source is put on a list, and the venues are asked again for the
same amount without the sources on the list. `execution-client.md` says that the amount is halved
after `MAX_RETRIES_WITH_EXCLUSION` such retries, five of them, and the constant is the number of
times that the swap is retried "by excluding the failing quote source".

The list is right: it holds the sources that failed at the current amount, in order, and none of
them is executed again at that amount. The number of retries is not. The counter also counts the
first execution, which is not a retry and excludes nothing, so that the amount is halved after
four retries and never after five (`exclusion_documented_iff`, `halved_after_four`).
-/

namespace RelayerExtensions.Funds

open Effect (map_ok)

/-- The venue reported an execution without a transaction hash. -/
def ExecutableQuote.fails (q : ExecutableQuote) (r : ExecReplies) : Bool :=
  match (q.execute r).1 with
  | .ok result => result.txHash.isNone
  | .error _ => false

def Handed.failed (h : Handed) : Bool := h.quote.fails h.replies.execution

/-- The sources that failed after so many halvings. -/
def SwapRun.failedAt (s : SwapRun) (halvings : Nat) : List CrossVenueQuoteSource :=
  (s.handed.filter fun h => h.halvings == halvings && h.failed).map (·.quote.quote.source)

/-- How many executions there were with sources excluded, after so many halvings. -/
def SwapRun.retriesAt (s : SwapRun) (halvings : Nat) : Nat :=
  (s.handed.filter fun h => h.halvings == halvings && !h.excluded.isEmpty).length

/-! ## What is documented -/

/-- The turn from `s` to `s'`, as it is documented. -/
structure Documented (s s' : SwapRun) : Prop where
  /-- The list holds the sources that failed since the amount was last halved. -/
  excluded : s'.loop.excluded = s'.failedAt s'.halvings
  /-- No quote was handed over from a source that was on the list. -/
  fresh : ∀ h ∈ s'.handed, h.quote.quote.source ∉ h.excluded
  /-- If the amount was halved after an execution, then after as many retries as there may be. -/
  halved : s'.halvings ≠ s.halvings → s'.handed ≠ s.handed →
    s'.retriesAt s.halvings = maxRetriesWithExclusion

def DocumentedTurn (cfg : ExecutionConfig) (params : QuoteParams) (s : SwapRun)
    (r : StepReplies) : Prop :=
  ∀ s', swapStep cfg params s r = some s' → Documented s s'

/-- Lifi does not answer with an exchange that it was told to leave out. -/
def LifiHonours (s : SwapRun) (r : StepReplies) : Prop :=
  ∀ tool ∈ r.quotes.lifi.toOption.map Prod.fst, .lifiExchange tool ∉ s.loop.excluded

instance (s : SwapRun) (r : StepReplies) : Decidable (LifiHonours s r) :=
  inferInstanceAs (Decidable (∀ _ ∈ _, _))

/-- The execution of this turn is not one that fails after four others at the same amount. -/
def NoFifthFailure (cfg : ExecutionConfig) (params : QuoteParams) (s : SwapRun)
    (r : StepReplies) : Prop :=
  ∀ q ∈ (s.executable cfg params r).toOption, q.fails r.execution = true →
    s.loop.excluded.length + 1 < maxRetriesWithExclusion

instance (cfg : ExecutionConfig) (params : QuoteParams) (s : SwapRun) (r : StepReplies) :
    Decidable (NoFifthFailure cfg params s r) :=
  inferInstanceAs (Decidable (∀ _ ∈ _, _))

/-! ## No source on the list -/

theorem lifiGetQuotes_source {r : VenueReplies} {q : ExecutableQuote}
    (hq : q ∈ (lifiGetQuotes r).toOption.getD []) :
    ∃ tool ∈ r.lifi.toOption.map Prod.fst, q.quote.source = .lifiExchange tool := by
  unfold lifiGetQuotes at hq
  cases hlifi : r.lifi with
  | error e =>
      rw [hlifi] at hq
      cases hq
  | ok answer =>
      rw [hlifi] at hq
      obtain rfl := List.mem_singleton.mp hq
      exact ⟨answer.1, rfl, rfl⟩

theorem bebopGetQuotes_source {r : VenueReplies} {excluded : List CrossVenueQuoteSource}
    {q : ExecutableQuote} (hq : q ∈ (bebopGetQuotes r excluded).toOption.getD []) :
    q.quote.source ∉ excluded := by
  unfold bebopGetQuotes at hq
  cases hbebop : r.bebop with
  | error e =>
      rw [hbebop] at hq
      cases hq
  | ok answer =>
      rw [hbebop] at hq
      obtain ⟨⟨source, quote⟩, -, hsome⟩ := List.mem_filterMap.mp hq
      obtain ⟨hnot, hsome⟩ := Option.ite_none_left_eq_some.mp hsome
      obtain ⟨a, -, rfl⟩ := Option.map_eq_some_iff.mp hsome
      exact hnot

theorem cowswapGetQuotes_source {r : VenueReplies} {excluded : List CrossVenueQuoteSource}
    {q : ExecutableQuote} (hq : q ∈ (cowswapGetQuotes r excluded).toOption.getD []) :
    q.quote.source ∉ excluded := by
  unfold cowswapGetQuotes at hq
  split at hq
  · cases hq
  · next hnot =>
      cases hcow : r.cowswap with
      | error e =>
          rw [hcow] at hq
          cases hq
      | ok answer =>
          rw [hcow] at hq
          obtain rfl := List.mem_singleton.mp hq
          exact hnot

section Turns

variable {cfg : ExecutionConfig} {params : QuoteParams} {s s' : SwapRun} {r : StepReplies}
  {q : ExecutableQuote}

/-- The venues leave out what they are told to, if Lifi does. -/
theorem fetched_not_excluded {venue : Option SupportedExecutionVenue} (hlifi : LifiHonours s r)
    (hq : q ∈ (fetchAllQuotes venue r.quotes s.loop.excluded).toOption.getD []) :
    q.quote.source ∉ s.loop.excluded := by
  unfold fetchAllQuotes at hq
  cases hvenues : venuesFor venue with
  | error e =>
      rw [hvenues] at hq
      cases hq
  | ok venues =>
      rw [hvenues] at hq
      obtain ⟨v, -, hq⟩ := List.mem_flatMap.mp hq
      cases v with
      | lifi =>
          obtain ⟨tool, htool, hsource⟩ := lifiGetQuotes_source hq
          rw [hsource]
          exact hlifi tool htool
      | bebop => exact bebopGetQuotes_source hq
      | cowswap => exact cowswapGetQuotes_source hq
      | okx => cases hq

/-! ## The log, turn by turn -/

theorem fails_of_no_hash {result : ExecutionResult}
    (hresult : (q.execute r.execution).1 = .ok result) :
    q.fails r.execution = result.txHash.isNone := by
  unfold ExecutableQuote.fails
  rw [hresult]

theorem fails_of_error {e : ExecutionClientError}
    (hresult : (q.execute r.execution).1 = .error e) : q.fails r.execution = false := by
  unfold ExecutableQuote.fails
  rw [hresult]

theorem follow_widen_halvings (s : SwapRun) :
    (s.follow .increasePriceDeviation).halvings = s.halvings := by
  unfold SwapRun.follow
  dsimp only
  split <;> rfl

theorem failedAt_follow (s : SwapRun) (flow : SwapControlFlow) (halvings : Nat) :
    (s.follow flow).failedAt halvings = s.failedAt halvings := by
  unfold SwapRun.failedAt
  rw [follow_handed]

theorem retriesAt_follow (s : SwapRun) (flow : SwapControlFlow) (halvings : Nat) :
    (s.follow flow).retriesAt halvings = s.retriesAt halvings := by
  unfold SwapRun.retriesAt
  rw [follow_handed]

/-- A quote that is handed over is logged at the current amount. -/
theorem failedAt_hand (s : SwapRun) (q : ExecutableQuote) (tried : Nat)
    (submitted : List Submission) :
    (s.hand params r q tried submitted).failedAt s.halvings =
      s.failedAt s.halvings ++ if q.fails r.execution then [q.quote.source] else [] := by
  unfold SwapRun.failedAt SwapRun.hand
  rw [List.filter_append, List.map_append]
  congr 1
  unfold Handed.failed
  cases hfails : q.fails r.execution <;> simp [hfails]

theorem retriesAt_hand (s : SwapRun) (q : ExecutableQuote) (tried : Nat)
    (submitted : List Submission) :
    (s.hand params r q tried submitted).retriesAt s.halvings =
      s.retriesAt s.halvings + if s.loop.excluded.isEmpty then 0 else 1 := by
  unfold SwapRun.retriesAt SwapRun.hand
  rw [List.filter_append, List.length_append]
  congr 1
  cases hempty : s.loop.excluded.isEmpty <;> simp [hempty]

/-- What the log says of the current amount. -/
structure Excluding (s : SwapRun) : Prop where
  sizes : ∀ h ∈ s.handed, h.halvings ≤ s.halvings
  excluded : s.loop.excluded = s.failedAt s.halvings
  fresh : ∀ h ∈ s.handed, h.quote.quote.source ∉ h.excluded
  counted : s.result = none → s.loop.numSwapsWithExclusion = s.loop.excluded.length
  few : s.result = none → s.loop.excluded.length < maxRetriesWithExclusion
  /-- All executions at the current amount but the first were retries. -/
  retried : s.result = none → s.retriesAt s.halvings = s.loop.excluded.length - 1

theorem excluding_start : Excluding (swapStart params) where
  sizes := fun _ h => by cases h
  excluded := rfl
  fresh := fun _ h => by cases h
  counted := fun _ => rfl
  few := fun _ => Nat.zero_lt_succ _
  retried := fun _ => rfl

/-- Nothing is known of an amount that has not been tried. -/
theorem failedAt_eq_nil {halvings : Nat} (h : ∀ d ∈ s.handed, d.halvings < halvings) :
    s.failedAt halvings = [] := by
  unfold SwapRun.failedAt
  rw [List.filter_eq_nil_iff.mpr, List.map_nil]
  intro d hd
  simp [Nat.ne_of_lt (h d hd)]

theorem retriesAt_eq_zero {halvings : Nat} (h : ∀ d ∈ s.handed, d.halvings < halvings) :
    s.retriesAt halvings = 0 := by
  unfold SwapRun.retriesAt
  rw [List.filter_eq_nil_iff.mpr, List.length_nil]
  intro d hd
  simp [Nat.ne_of_lt (h d hd)]

theorem Excluding.hand_sizes (h : Excluding s) (q : ExecutableQuote) :
    ∀ d ∈ s.handed ++
        [⟨s.halvings, s.params params, s.loop.multiplier, s.loop.excluded, r, q⟩],
      d.halvings ≤ s.halvings := by
  intro d hd
  rcases List.mem_append.mp hd with hd | hd
  · exact h.sizes d hd
  · rw [List.mem_singleton.mp hd]

theorem Excluding.hand_fresh (h : Excluding s) (hlifi : LifiHonours s r)
    (hq : s.executable cfg params r = .ok q) :
    ∀ d ∈ s.handed ++
        [⟨s.halvings, s.params params, s.loop.multiplier, s.loop.excluded, r, q⟩],
      d.quote.quote.source ∉ d.excluded := by
  intro d hd
  rcases List.mem_append.mp hd with hd | hd
  · exact h.fresh d hd
  · rw [List.mem_singleton.mp hd]
    exact fetched_not_excluded hlifi (getExecutableQuote_ok hq).fetched

theorem excluding_halve (hsizes : ∀ h ∈ s.handed, h.halvings ≤ s.halvings)
    (hfresh : ∀ h ∈ s.handed, h.quote.quote.source ∉ h.excluded) (gasCost : Nat) :
    Excluding (s.follow (.decreaseSwapSize gasCost)) := by
  have hnew : ∀ h ∈ s.handed, h.halvings < s.halvings + 1 := fun h hh =>
    Nat.lt_succ_of_le (hsizes h hh)
  have hfailed := (failedAt_follow s (.decreaseSwapSize gasCost) _).trans (failedAt_eq_nil hnew)
  have hretries := (retriesAt_follow s (.decreaseSwapSize gasCost) _).trans
    (retriesAt_eq_zero hnew)
  exact ⟨fun h hh => Nat.le_of_lt (hnew h hh), hfailed.symm, hfresh, fun _ => rfl,
    fun _ => Nat.zero_lt_succ _, fun _ => hretries⟩

theorem Excluding.finish (h : Excluding s) (result : SwapResult) : Excluding (s.finish result) where
  sizes := h.sizes
  excluded := h.excluded
  fresh := h.fresh
  counted := fun hnone => by cases hnone
  few := fun hnone => by cases hnone
  retried := fun hnone => by cases hnone

theorem Excluding.widen (h : Excluding s) (hrunning : s.result = none) :
    Excluding (s.follow .increasePriceDeviation) := by
  have hwidened : Excluding { s with loop := { s.loop with
      multiplier := s.loop.multiplier + priceDeviationIncrease } } :=
    ⟨h.sizes, h.excluded, h.fresh, fun _ => h.counted hrunning, fun _ => h.few hrunning,
      fun _ => h.retried hrunning⟩
  unfold SwapRun.follow
  dsimp only
  split
  · exact hwidened.finish _
  · exact hwidened

theorem Excluding.hand_finish (h : Excluding s) (hlifi : LifiHonours s r)
    (hq : s.executable cfg params r = .ok q) (hsafe : q.fails r.execution = false) (tried : Nat)
    (submitted : List Submission) (result : SwapResult) :
    Excluding ((s.hand params r q tried submitted).finish result) := by
  have hlog : (s.hand params r q tried submitted).failedAt s.halvings = _ :=
    failedAt_hand s q tried submitted
  rw [hsafe, if_neg Bool.false_ne_true, List.append_nil] at hlog
  refine ⟨h.hand_sizes q, h.excluded.trans hlog.symm,
    h.hand_fresh hlifi hq, fun hnone => ?_, fun hnone => ?_, fun hnone => ?_⟩
  · cases hnone
  · cases hnone
  · cases hnone

/-- An execution whose source goes on the list. -/
theorem Excluding.hand_exclude (h : Excluding s) (hrunning : s.result = none)
    (hlifi : LifiHonours s r) (hq : s.executable cfg params r = .ok q)
    (hfails : q.fails r.execution = true)
    (hfew : s.loop.numSwapsWithExclusion + 1 < maxRetriesWithExclusion) (gasCost : Nat)
    (submitted : List Submission) :
    Excluding ((s.hand params r q (s.loop.numSwapsWithExclusion + 1) submitted).follow
      (.excludeQuoteSource q.quote.source gasCost)) := by
  have hfailed : (s.hand params r q (s.loop.numSwapsWithExclusion + 1) submitted).failedAt
      s.halvings = _ := failedAt_hand s q _ submitted
  have hretries : (s.hand params r q (s.loop.numSwapsWithExclusion + 1) submitted).retriesAt
      s.halvings = _ := retriesAt_hand s q _ submitted
  rw [hfails, if_pos rfl, ← h.excluded] at hfailed
  rw [h.retried hrunning] at hretries
  have hcounted := h.counted hrunning
  have hlength : (s.loop.excluded ++ [q.quote.source]).length = s.loop.excluded.length + 1 :=
    List.length_append
  refine ⟨h.hand_sizes q, hfailed.symm, h.hand_fresh hlifi hq,
    fun _ => ?_, fun _ => ?_, fun _ => ?_⟩
  · exact (congrArg (· + 1) hcounted).trans hlength.symm
  · rw [hcounted] at hfew
    exact hlength ▸ hfew
  · refine hretries.trans ?_
    change _ = (s.loop.excluded ++ [q.quote.source]).length - 1
    rw [hlength]
    cases s.loop.excluded <;> rfl

theorem excluding_step (h : Excluding s) (hlifi : LifiHonours s r)
    (hs : swapStep cfg params s r = some s') : Excluding s' := by
  obtain ⟨hrunning, hturn⟩ := swapStep_cases hs
  cases hturn with
  | gaveUp hno | failed hno e => exact h.finish _
  | widened hno hpos hflag => exact h.widen hrunning
  | deviated hno hpos hflag => exact excluding_halve h.sizes h.fresh 0
  | swapped hq hresult hhash =>
      refine h.hand_finish hlifi hq ?_ _ _ _
      rw [fails_of_no_hash hresult, hhash]
      rfl
  | broke hq hresult => exact h.hand_finish hlifi hq (fails_of_error hresult) _ _ _
  | excluded hq hresult hnone hfew =>
      refine h.hand_exclude hrunning hlifi hq ?_ hfew _ _
      rw [fails_of_no_hash hresult, hnone]
      rfl
  | decreased hq hresult hnone hmany =>
      exact excluding_halve (s := s.hand params r _ _ _) (h.hand_sizes _)
        (h.hand_fresh hlifi hq) _

/-- A fifth execution that fails halves the amount, after four retries. -/
theorem retriesAt_fifth (h : Excluding s) (hrunning : s.result = none)
    (hmany : maxRetriesWithExclusion ≤ s.loop.numSwapsWithExclusion + 1) (q : ExecutableQuote)
    (tried : Nat) (submitted : List Submission) :
    (s.hand params r q tried submitted).retriesAt s.halvings + 1 = maxRetriesWithExclusion := by
  have hlength : s.loop.excluded.length + 1 = maxRetriesWithExclusion := by
    have hfew := h.few hrunning
    rw [h.counted hrunning] at hmany
    omega
  have hsome : s.loop.excluded.isEmpty = false := by
    cases hexcluded : s.loop.excluded with
    | nil =>
        rw [hexcluded] at hlength
        cases hlength
    | cons source sources => rfl
  rw [retriesAt_hand, h.retried hrunning, hsome, if_neg Bool.false_ne_true]
  unfold maxRetriesWithExclusion at *
  omega

theorem noFifthFailure_of_not_executable (hno : ∀ q, s.executable cfg params r ≠ .ok q) :
    NoFifthFailure cfg params s r := by
  intro q hq
  cases hexec : s.executable cfg params r with
  | error flow =>
      rw [hexec] at hq
      cases hq
  | ok q' => exact absurd hexec (hno q')

theorem noFifthFailure_iff (hq : s.executable cfg params r = .ok q) :
    NoFifthFailure cfg params s r ↔
      (q.fails r.execution = true → s.loop.excluded.length + 1 < maxRetriesWithExclusion) := by
  unfold NoFifthFailure
  rw [hq]
  constructor
  · intro h
    exact h q rfl
  · intro h q' hq'
    cases hq'
    exact h

/-- **One turn is as documented, unless it is the fifth failure.** -/
theorem documentedTurn_iff (h : Excluding s) (hlifi : LifiHonours s r)
    (hs : swapStep cfg params s r = some s') :
    DocumentedTurn cfg params s r ↔ NoFifthFailure cfg params s r := by
  have hnext := excluding_step h hlifi hs
  obtain ⟨hrunning, hturn⟩ := swapStep_cases hs
  have hcounted := h.counted hrunning
  -- only how the amount came to be halved is left to look at
  have hdocumented : DocumentedTurn cfg params s r ↔ (s'.halvings ≠ s.halvings →
      s'.handed ≠ s.handed → s'.retriesAt s.halvings = maxRetriesWithExclusion) := by
    constructor
    · intro hdoc
      exact (hdoc s' hs).halved
    · intro hhalved s'' hs''
      obtain rfl := Option.some.inj (hs.symm.trans hs'')
      exact ⟨hnext.excluded, hnext.fresh, hhalved⟩
  rw [hdocumented]
  cases hturn with
  | gaveUp hno | failed hno e =>
      exact iff_of_true (fun hne => absurd rfl hne) (noFifthFailure_of_not_executable hno)
  | widened hno hpos hflag =>
      refine iff_of_true (fun hne => absurd ?_ hne) (noFifthFailure_of_not_executable hno)
      exact follow_widen_halvings s
  | deviated hno hpos hflag =>
      exact iff_of_true (fun _ hne => absurd rfl hne) (noFifthFailure_of_not_executable hno)
  | swapped hq hresult hhash =>
      refine iff_of_true (fun hne => absurd rfl hne) ((noFifthFailure_iff hq).mpr fun hfails => ?_)
      rw [fails_of_no_hash hresult, hhash] at hfails
      cases hfails
  | broke hq hresult =>
      refine iff_of_true (fun hne => absurd rfl hne) ((noFifthFailure_iff hq).mpr fun hfails => ?_)
      rw [fails_of_error hresult] at hfails
      cases hfails
  | excluded hq hresult hnone hfew =>
      refine iff_of_true (fun hne => absurd rfl hne) ((noFifthFailure_iff hq).mpr fun _ => ?_)
      exact hcounted ▸ hfew
  | @decreased q result hq hresult hnone hmany =>
      refine iff_of_false (fun hhalved => ?_) (fun hno => ?_)
      · have hall := hhalved (Nat.succ_ne_self _) (by simp [SwapRun.follow, SwapRun.hand])
        rw [retriesAt_follow] at hall
        have hfour : (s.hand params r q (s.loop.numSwapsWithExclusion + 1)
            (q.submitted r)).retriesAt s.halvings + 1 = maxRetriesWithExclusion :=
          retriesAt_fifth h hrunning hmany q _ _
        exact Nat.succ_ne_self _ (hfour.trans hall.symm)
      · have hfails := fails_of_no_hash hresult
        rw [hnone] at hfails
        have hfew := (noFifthFailure_iff hq).mp hno hfails
        rw [← hcounted] at hfew
        exact absurd hmany (Nat.not_le_of_lt hfew)

end Turns

/-- **All turns of a run are as documented exactly if no execution fails after four others at
the same amount**, provided that Lifi honours the exclusions. -/
theorem exclusion_documented_iff (cfg : ExecutionConfig) (params : QuoteParams)
    (rs : List StepReplies) (s : SwapRun)
    (hlifi : Runs.Meets (swapStep cfg params) LifiHonours (swapStart params) rs)
    (hr : swapLoop cfg params rs = some s) :
    Runs.Meets (swapStep cfg params) (DocumentedTurn cfg params) (swapStart params) rs ↔
      Runs.Meets (swapStep cfg params) (NoFifthFailure cfg params) (swapStart params) rs :=
  Runs.meets_congr (fun _ _ _ h hlifi hs => excluding_step h hlifi hs)
    (fun _ _ _ h hlifi hs => documentedTurn_iff h hlifi hs) rs excluding_start hlifi hr

/-- Bebop's transaction is mined and reverts, and Lifi's goes through. -/
theorem revertedThenSwapped_documented :
    (∃ s, swapLoop sampleConfig sampleParams
      revertedThenSwapped = some s ∧ s.handed.map (·.quote.quote.source) =
        [.bebopJAMv2, .lifiExchange "uniswap"]) ∧
    Runs.Meets (swapStep sampleConfig sampleParams) (DocumentedTurn sampleConfig sampleParams)
      (swapStart sampleParams) revertedThenSwapped := by
  obtain ⟨s, hr, hhanded⟩ := Option.map_eq_some_iff.mp
    (show (swapLoop sampleConfig sampleParams
      revertedThenSwapped).map (fun s => s.handed.map (·.quote.quote.source)) =
        some [.bebopJAMv2, .lifiExchange "uniswap"] by decide +kernel)
  refine ⟨⟨s, hr, hhanded⟩, ?_⟩
  exact (exclusion_documented_iff _ _ _ s (by decide +kernel) hr).mpr (by decide +kernel)

/-- Both of Bebop's routes and an exchange of Lifi's quote four WETH; whatever is sent reverts. -/
def revertingReplies (tool : String) : StepReplies :=
  { sampleReplies 4 398 400 (.mined ⟨false, 7, 21000, 1, 0⟩) with
    quotes :=
      { lifi := .ok (tool, ⟨1, 0, 4, 398 * 10 ^ 6, [0x01]⟩)
        bebop := .ok (some ⟨1, 0, 4, 400 * 10 ^ 6, [0x02]⟩, some ⟨1, 0, 4, 399 * 10 ^ 6, [0x03]⟩)
        cowswap := .error (.http "not asked") } }

/-- Five sources fail, one after the other. -/
def fiveReverts : List StepReplies := ["a", "a", "a", "b", "c"].map revertingReplies

/-- The amount is halved after the fifth failure, which is the fourth retry. -/
theorem halved_after_four :
    Runs.Meets (swapStep sampleConfig sampleParams) LifiHonours (swapStart sampleParams)
      fiveReverts ∧
    (∃ s, swapLoop sampleConfig sampleParams fiveReverts =
      some s ∧ s.halvings = 1 ∧ s.retriesAt 0 = 4 ∧ maxRetriesWithExclusion = 5) ∧
    ¬ Runs.Meets (swapStep sampleConfig sampleParams) (DocumentedTurn sampleConfig sampleParams)
      (swapStart sampleParams) fiveReverts := by
  have hlifi : Runs.Meets (swapStep sampleConfig sampleParams) LifiHonours
      (swapStart sampleParams) fiveReverts := by decide +kernel
  have hrun : (swapLoop sampleConfig sampleParams
      fiveReverts).map (fun s => (s.halvings, s.retriesAt 0)) = some (1, 4) := by decide +kernel
  obtain ⟨s, hr, hend⟩ := Option.map_eq_some_iff.mp hrun
  obtain ⟨hhalvings, hretries⟩ := Prod.mk.inj hend
  refine ⟨hlifi, ⟨s, hr, hhalvings, hretries, rfl⟩, fun hdoc => ?_⟩
  have hno := (Runs.meets_congr (fun _ _ _ h hl hs => excluding_step h hl hs)
    (fun _ _ _ h hl hs => documentedTurn_iff h hl hs) fiveReverts excluding_start hlifi hr).mp hdoc
  exact absurd hno (by decide +kernel)

end RelayerExtensions.Funds
