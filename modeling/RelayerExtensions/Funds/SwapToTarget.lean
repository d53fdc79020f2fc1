import Mathlib.Algebra.Order.BigOperators.Group.List
import Mathlib.Data.List.Sort
import Mathlib.Tactic.Linarith
import RelayerExtensions.Funds.SwapCalls

/-!
# Swapping into a target token

`try_swap_into_target_token` brings the hot wallet's balance of a token up to a target. It turns
the shortfall into dollars, adds a buffer of a tenth, and sells other tokens, the most valuable
first, until what remains of that amount is too small to bother.

The wallet and the swaps that were attempted are the state. The price reporter, the node and the
decaying swap are the surroundings (`Market`): a swap may return anything that the loop of the
decaying swap can return (`Returned`).

What remains is in dollars, and what is taken off it after a swap is the amount that was bought,
in units of the target token. That is too little if a unit is worth more than a dollar, and then
more may be sold than was to be bought (`sells_forty_for_thirty`). The tokens sold are worth at
most the shortfall with its buffer if a unit of the target token is worth at most a dollar, or if
all that could be sold of the candidates is worth no more (`sales_bounded`).
-/

namespace RelayerExtensions.Funds

open Effect (exec look orNone exec_bind_cases bind_ok)

/-! ## The wallet and its surroundings -/

/-- The balances of the hot wallet, in atoms. -/
abbrev Wallet := TokenAddress → Nat

/-- A swap moves the sold amount out and the bought amount in. -/
def Wallet.move (w : Wallet) (sell : TokenAddress) (sellAmount : Nat) (buy : TokenAddress)
    (buyAmount : Nat) : Wallet :=
  let sold := Function.update w sell (w sell - sellAmount)
  Function.update sold buy (sold buy + buyAmount)

/-- The wallet after a swap, executed or not. -/
def Wallet.settle (w : Wallet) : SwapResult → Wallet
  | .ok (some o) =>
      w.move o.quote.sellToken o.quote.sellAmount o.quote.buyToken o.buyAmountActual
  | _ => w

/-- A call of the decaying swap: the request, the wallet at that time, and what came of it. -/
structure Attempt where
  params : QuoteParams
  before : Wallet
  result : SwapResult

structure Trading where
  wallet : Wallet
  attempts : List Attempt

def Trading.record (s : Trading) (params : QuoteParams) (result : SwapResult) : Trading :=
  ⟨s.wallet.settle result, s.attempts ++ [⟨params, s.wallet, result⟩]⟩

abbrev TradingM := Effect ExecutionClientError Trading

/-- What the client is up against: the price stream and the node, either of which may fail, and
what comes of a swap. -/
structure Market where
  price : TokenAddress → ℚ
  priceError : TokenAddress → Option ExecutionClientError
  balanceError : TokenAddress → Option ExecutionClientError
  swap : Trading → QuoteParams → SwapResult

structure Token where
  chain : String
  addr : TokenAddress
  deriving DecidableEq

def usdcTicker : String := "USDC"
def usdTicker : String := "USD"
def unitPriceTickers : List String := [usdcTicker, usdTicker]

/-- The client of one chain. Its token list has every token once, and the ticker of USDC is that
of one token only. -/
structure ExecutionClient where
  config : ExecutionConfig
  chain : String
  allTokens : List Token
  nodup : allTokens.Nodup
  usdc_iff : ∀ t, config.tokens.ticker t = some usdcTicker ↔ t = config.tokens.usdc

/-! ## Constants -/

def swapToCoverBuffer : ℚ := 11 / 10

/-! ## The model -/

/-- A candidate token to swap out of. -/
structure SwapCandidate where
  token : TokenAddress
  balance : ℚ
  price : ℚ
  deriving DecidableEq

namespace SwapCandidate

def notionalValue (x : SwapCandidate) : ℚ := x.balance * x.price

/-- The entire balance if it is worth no more than is needed, or else as much as is needed. -/
def swapAmount (x : SwapCandidate) (amountToCoverUsdc : ℚ) : ℚ :=
  if x.notionalValue ≤ amountToCoverUsdc then x.balance else amountToCoverUsdc / x.price

end SwapCandidate

structure SwapIntoTargetTokenRequest where
  targetAmount : ℚ
  quoteParams : QuoteParams
  excludeTokens : List TokenAddress

namespace ExecutionClient

variable (c : ExecutionClient) (market : Market)

def token (addr : TokenAddress) : Token := ⟨c.chain, addr⟩

def hasUnitPrice (t : TokenAddress) : Bool :=
  ((c.config.tokens.ticker t).map (unitPriceTickers.contains ·)).getD false

/-- The price of a token at the price reporter. -/
def referencePrice (t : TokenAddress) : ℚ := if c.hasUnitPrice t then 1 else market.price t

/-- `get_price` of the price reporter client: dollars are not asked for. -/
def getPrice (t : TokenAddress) : Except ExecutionClientError ℚ :=
  if c.hasUnitPrice t then .ok 1
  else
    match market.priceError t with
    | some e => .error e
    | none => .ok (market.price t)

/-- `get_erc20_balance`, in whole units. -/
def getErc20Balance (w : Wallet) (t : TokenAddress) : Except ExecutionClientError ℚ :=
  match market.balanceError t with
  | some e => .error e
  | none => .ok (c.config.tokens.convertToDecimal t (w t))

def swapCandidatePredicate (t : Token) (excluded : List Token) : Bool :=
  decide (t.chain = c.chain) && !excluded.contains t &&
    decide (c.config.tokens.ticker t.addr ≠ some usdTicker)

/-- The tokens that may be sold. -/
def candidateTokens (excluded : List Token) : List TokenAddress :=
  (c.allTokens.filter (c.swapCandidatePredicate · excluded)).map (·.addr)

def readCandidate (w : Wallet) (t : TokenAddress) : Except ExecutionClientError SwapCandidate := do
  let balance ← c.getErc20Balance market w t
  let price ← c.getPrice market t
  return ⟨t, balance, price⟩

/-- The candidates with their balances and prices, by descending value. -/
def getSwapCandidates (w : Wallet) (excluded : List Token) :
    Except ExecutionClientError (List SwapCandidate) := do
  let candidates ← (c.candidateTokens excluded).mapM (c.readCandidate market w)
  return candidates.insertionSort fun a b => b.notionalValue ≤ a.notionalValue

def swapImmediateDecaying (params : QuoteParams) : TradingM (Option DecayingSwapOutcome) := do
  let result ← look fun s => market.swap s params
  modify fun s => s.record params result
  Effect.ofExcept result

/-- The request for selling so much of a candidate. -/
def candidateParams (params : QuoteParams) (target : TokenAddress) (x : SwapCandidate)
    (amountToCoverUsdc : ℚ) : QuoteParams :=
  { params with
    toToken := target
    fromToken := x.token
    fromAmount := c.config.tokens.convertFromDecimal x.token (x.swapAmount amountToCoverUsdc) }

/-- An error of the swap is no reason not to try the next candidate. -/
def trySwapCandidate (params : QuoteParams) (target : TokenAddress) (x : SwapCandidate)
    (amountToCoverUsdc : ℚ) : TradingM (Option DecayingSwapOutcome) :=
  if x.swapAmount amountToCoverUsdc * x.price < minSwapQuoteAmount then return none
  else orNone (swapImmediateDecaying market (c.candidateParams params target x amountToCoverUsdc))

def u256TryIntoU128 (n : Nat) : Except ExecutionClientError Nat :=
  if n < 2 ^ 128 then .ok n else .error (.parse "amount does not fit into u128")

def swapCandidates (params : QuoteParams) (target : TokenAddress) :
    List SwapCandidate → ℚ → List DecayingSwapOutcome → TradingM (List DecayingSwapOutcome)
  | [], _, outcomes => return outcomes
  | x :: rest, remaining, outcomes =>
      if remaining < minSwapQuoteAmount then return outcomes
      else do
        match ← c.trySwapCandidate market params target x remaining with
        | none => swapCandidates params target rest remaining outcomes
        | some outcome =>
            let buyAmount ← Effect.ofExcept (u256TryIntoU128 outcome.buyAmountActual)
            let bought := c.config.tokens.convertToDecimal outcome.quote.buyToken buyAmount
            -- dollars on the left, units of the target token on the right
            swapCandidates params target rest (remaining - bought) (outcomes ++ [outcome])

def executeSwapsIntoTargetToken (params : QuoteParams) (target : TokenAddress)
    (amountToCoverUsdc : ℚ) (excluded : List Token) : TradingM (List DecayingSwapOutcome) := do
  let w ← look (·.wallet)
  let candidates ← Effect.ofExcept (c.getSwapCandidates market w excluded)
  c.swapCandidates market params target candidates (amountToCoverUsdc * swapToCoverBuffer) []

def trySwapIntoTargetToken (req : SwapIntoTargetTokenRequest) :
    TradingM (List DecayingSwapOutcome) := do
  let target := req.quoteParams.toToken
  let excluded := (req.excludeTokens ++ [target]).map c.token
  let w ← look (·.wallet)
  let currentBalance ← Effect.ofExcept (c.getErc20Balance market w target)
  if req.targetAmount ≤ currentBalance then return []
  else
    let price ← Effect.ofExcept (c.getPrice market target)
    let amountToCoverUsdc := (req.targetAmount - currentBalance) * price
    if amountToCoverUsdc < minSwapQuoteAmount then return []
    else c.executeSwapsIntoTargetToken market req.quoteParams target amountToCoverUsdc excluded

end ExecutionClient

/-! ## What a swap costs -/

theorem TokenMap.convertToDecimal_mono (m : TokenMap) (t : TokenAddress) {a b : Nat} (h : a ≤ b) :
    m.convertToDecimal t a ≤ m.convertToDecimal t b := by
  unfold TokenMap.convertToDecimal
  gcongr

theorem TokenMap.convertToDecimal_convertFromDecimal_le (m : TokenMap) (t : TokenAddress) {x : ℚ}
    (hx : 0 ≤ x) : m.convertToDecimal t (m.convertFromDecimal t x) ≤ x := by
  unfold TokenMap.convertToDecimal TokenMap.convertFromDecimal
  rw [div_le_iff₀ (by positivity)]
  exact Nat.floor_le (by positivity)

theorem Wallet.settle_of_none {w : Wallet} {result : SwapResult} (h : result.toOption.join = none) :
    w.settle result = w := by
  rcases result with e | _ | o
  · rfl
  · rfl
  · cases h

namespace SwapCandidate

variable {x : SwapCandidate}

/-- As much of a candidate is sold as it is worth, or as is needed if that is less. -/
theorem swapAmount_value (amount : ℚ) (hprice : 0 < x.price) :
    x.swapAmount amount * x.price = min x.notionalValue amount := by
  unfold swapAmount
  split
  · rename_i hle
    exact (min_eq_left hle).symm
  · rename_i hlt
    rw [div_mul_cancel₀ _ hprice.ne', min_eq_right (not_le.mp hlt).le]

theorem swapAmount_nonneg {amount : ℚ} (hprice : 0 < x.price) (hbalance : 0 ≤ x.balance)
    (hamount : 0 ≤ amount) : 0 ≤ x.swapAmount amount := by
  unfold swapAmount
  split
  · exact hbalance
  · positivity

end SwapCandidate

namespace ExecutionClient

variable (c : ExecutionClient) (market : Market)

/-- A balance, in whole units. -/
def balance (w : Wallet) (t : TokenAddress) : ℚ := c.config.tokens.convertToDecimal t (w t)

def candidate (w : Wallet) (t : TokenAddress) : SwapCandidate :=
  ⟨t, c.balance w t, c.referencePrice market t⟩

/-- The candidates, the most valuable first. -/
def candidates (w : Wallet) (excluded : List Token) : List SwapCandidate :=
  ((c.candidateTokens excluded).map (c.candidate market w)).insertionSort fun a b =>
    b.notionalValue ≤ a.notionalValue

/-- What a request excludes: the tokens it names, and the target. -/
def excludedTokens (req : SwapIntoTargetTokenRequest) : List Token :=
  (req.excludeTokens ++ [req.quoteParams.toToken]).map c.token

/-- What the shortfall is worth, with its buffer. -/
def amountToCover (req : SwapIntoTargetTokenRequest) (w : Wallet) : ℚ :=
  (req.targetAmount - c.balance w req.quoteParams.toToken) *
    c.referencePrice market req.quoteParams.toToken * swapToCoverBuffer

/-- What an outcome sold, in dollars. -/
def soldValue (o : DecayingSwapOutcome) : ℚ :=
  c.config.tokens.convertToDecimal o.quote.sellToken o.quote.sellAmount *
    c.referencePrice market o.quote.sellToken

/-- What an outcome bought, in dollars. -/
def boughtValue (o : DecayingSwapOutcome) : ℚ :=
  c.config.tokens.convertToDecimal o.quote.buyToken o.buyAmountActual *
    c.referencePrice market o.quote.buyToken

/-- The attempt returned as the decaying swap does at these prices. -/
def Returns (a : Attempt) : Prop :=
  Returned c.config (c.referencePrice market) a.params (a.before a.params.fromToken) a.result

variable {c market}

@[simp] theorem exec_swapImmediateDecaying (params : QuoteParams) (s : Trading) :
    exec (swapImmediateDecaying market params) s =
      (market.swap s params, s.record params (market.swap s params)) := by
  unfold swapImmediateDecaying
  simp [Effect.exec_bind]

theorem mem_candidates {w : Wallet} {excluded : List Token} {x : SwapCandidate}
    (h : x ∈ c.candidates market w excluded) :
    x.token ∈ c.candidateTokens excluded ∧ x = c.candidate market w x.token := by
  obtain ⟨t, ht, rfl⟩ := List.mem_map.mp ((List.mem_insertionSort _).mp h)
  exact ⟨ht, rfl⟩

theorem u256TryIntoU128_cases (n : Nat) :
    (n < 2 ^ 128 ∧ u256TryIntoU128 n = .ok n) ∨
      (2 ^ 128 ≤ n ∧ ∃ e, u256TryIntoU128 n = .error e) := by
  unfold u256TryIntoU128
  split
  · exact .inl ⟨‹_›, rfl⟩
  · exact .inr ⟨not_lt.mp ‹_›, _, rfl⟩

/-! ## The loop over the candidates -/

/-- One candidate: the loop stops, or passes it over, or attempts the swap and goes on with what
came of it. -/
theorem exec_swapCandidates_cons (params : QuoteParams) (target : TokenAddress) (x : SwapCandidate)
    (xs : List SwapCandidate) (remaining : ℚ) (outcomes : List DecayingSwapOutcome) (s : Trading) :
    exec (c.swapCandidates market params target (x :: xs) remaining outcomes) s =
      if remaining < minSwapQuoteAmount then (.ok outcomes, s)
      else if x.swapAmount remaining * x.price < minSwapQuoteAmount then
        exec (c.swapCandidates market params target xs remaining outcomes) s
      else
        let asked := c.candidateParams params target x remaining
        let result := market.swap s asked
        match result.toOption.join with
        | none =>
            exec (c.swapCandidates market params target xs remaining outcomes)
              (s.record asked result)
        | some o =>
            match u256TryIntoU128 o.buyAmountActual with
            | .error e => (.error e, s.record asked result)
            | .ok buyAmount =>
                exec (c.swapCandidates market params target xs
                  (remaining - c.config.tokens.convertToDecimal o.quote.buyToken buyAmount)
                  (outcomes ++ [o])) (s.record asked result) := by
  rw [swapCandidates]
  by_cases hstop : remaining < minSwapQuoteAmount
  · simp only [if_pos hstop]
    rfl
  simp only [if_neg hstop]
  rw [Effect.exec_bind, trySwapCandidate]
  by_cases hsmall : x.swapAmount remaining * x.price < minSwapQuoteAmount
  · simp only [if_pos hsmall]
    rfl
  simp only [if_neg hsmall, Effect.exec_orNone, exec_swapImmediateDecaying]
  cases (market.swap s (c.candidateParams params target x remaining)).toOption.join with
  | none => rfl
  | some o =>
      dsimp only
      rw [Effect.exec_ofExcept_bind]
      cases u256TryIntoU128 o.buyAmountActual <;> rfl

/-- A candidate that is worth a swap, when so much remains to be covered. -/
structure Worth (x : SwapCandidate) (remaining : ℚ) : Prop where
  needed : minSwapQuoteAmount ≤ remaining
  amount : minSwapQuoteAmount ≤ x.swapAmount remaining * x.price

theorem Worth.remaining_nonneg {x : SwapCandidate} {remaining : ℚ} (h : Worth x remaining) :
    0 ≤ remaining := le_trans (by norm_num [minSwapQuoteAmount]) h.needed

/-- A pass over candidates with so much to cover: the wallet before and after, what was attempted
in between, and whether the pass came to its end. -/
inductive Pass (c : ExecutionClient) (params : QuoteParams) (target : TokenAddress) :
    List SwapCandidate → ℚ → Wallet → List Attempt → Wallet → Bool → Prop where
  | nil {remaining : ℚ} {w : Wallet} : Pass c params target [] remaining w [] w true
  | stopped {x : SwapCandidate} {xs : List SwapCandidate} {remaining : ℚ} {w : Wallet} :
      remaining < minSwapQuoteAmount → Pass c params target (x :: xs) remaining w [] w true
  | passedOver {x : SwapCandidate} {xs : List SwapCandidate} {remaining : ℚ} {w w' : Wallet}
      {new : List Attempt} {done : Bool} : minSwapQuoteAmount ≤ remaining →
      x.swapAmount remaining * x.price < minSwapQuoteAmount →
      Pass c params target xs remaining w new w' done →
      Pass c params target (x :: xs) remaining w new w' done
  | failed {x : SwapCandidate} {xs : List SwapCandidate} {remaining : ℚ} {w w' : Wallet}
      {new : List Attempt} {done : Bool}
      {result : SwapResult} : Worth x remaining →
      result.toOption.join = none → Pass c params target xs remaining w new w' done →
      Pass c params target (x :: xs) remaining w
        (⟨c.candidateParams params target x remaining, w, result⟩ :: new) w' done
  | swapped {x : SwapCandidate} {xs : List SwapCandidate} {remaining : ℚ} {w w' : Wallet}
      {new : List Attempt} {done : Bool} {o : DecayingSwapOutcome} : Worth x remaining →
      Pass c params target xs
        (remaining - c.config.tokens.convertToDecimal o.quote.buyToken o.buyAmountActual)
        (w.settle (.ok (some o))) new w' done →
      Pass c params target (x :: xs) remaining w
        (⟨c.candidateParams params target x remaining, w, .ok (some o)⟩ :: new) w' done
  | overflowed {x : SwapCandidate} {xs : List SwapCandidate} {remaining : ℚ} {w : Wallet}
      {o : DecayingSwapOutcome} : Worth x remaining → 2 ^ 128 ≤ o.buyAmountActual →
      Pass c params target (x :: xs) remaining w
        [⟨c.candidateParams params target x remaining, w, .ok (some o)⟩]
        (w.settle (.ok (some o))) false

/-- **The loop is such a pass.** -/
theorem pass_swapCandidates (params : QuoteParams) (target : TokenAddress) :
    ∀ (xs : List SwapCandidate) (remaining : ℚ) (outcomes : List DecayingSwapOutcome) (s : Trading),
      ∃ new, (exec (c.swapCandidates market params target xs remaining outcomes) s).2.attempts =
        s.attempts ++ new ∧
        Pass c params target xs remaining s.wallet new
          (exec (c.swapCandidates market params target xs remaining outcomes) s).2.wallet
          (exec (c.swapCandidates market params target xs remaining outcomes) s).1.isOk
  | [], remaining, outcomes, s => ⟨[], by simp [swapCandidates], .nil⟩
  | x :: xs, remaining, outcomes, s => by
      rw [exec_swapCandidates_cons]
      split
      · exact ⟨[], by simp, .stopped ‹_›⟩
      rename_i hremaining
      split
      · obtain ⟨new, hnew, hpass⟩ := pass_swapCandidates params target xs remaining outcomes s
        exact ⟨new, hnew, .passedOver (not_lt.mp hremaining) ‹_› hpass⟩
      rename_i hamount
      have hworth : Worth x remaining := ⟨not_lt.mp hremaining, not_lt.mp hamount⟩
      dsimp only
      generalize hresult : market.swap s (c.candidateParams params target x remaining) = result
      split
      · -- an error or no outcome: the loop goes on with the same amount
        rename_i hnone
        obtain ⟨new, hnew, hpass⟩ := pass_swapCandidates params target xs remaining outcomes
          (s.record (c.candidateParams params target x remaining) result)
        have hpass : Pass c params target xs remaining (s.wallet.settle result) new _ _ := hpass
        rw [Wallet.settle_of_none hnone] at hpass
        exact ⟨_ :: new, by rw [hnew]; simp [Trading.record], .failed hworth hnone hpass⟩
      · rename_i o ho
        obtain rfl := Effect.toOption_join.mp ho
        rcases u256TryIntoU128_cases o.buyAmountActual with ⟨-, hfits⟩ | ⟨hlarge, e, hfits⟩ <;>
          rw [hfits]
        · obtain ⟨new, hnew, hpass⟩ := pass_swapCandidates params target xs
            (remaining - c.config.tokens.convertToDecimal o.quote.buyToken o.buyAmountActual)
            (outcomes ++ [o])
            (s.record (c.candidateParams params target x remaining) (.ok (some o)))
          exact ⟨_ :: new, by rw [hnew]; simp [Trading.record], .swapped hworth hpass⟩
        · exact ⟨_, rfl, .overflowed hworth hlarge⟩

section Sold

variable {params : QuoteParams} {target : TokenAddress} {x : SwapCandidate} {remaining : ℚ}
  {w w' w₀ : Wallet} {o : DecayingSwapOutcome} {xs : List SwapCandidate} {new : List Attempt}
  {done : Bool}

end Sold

/-! ## The whole request -/

section Readable

variable {req : SwapIntoTargetTokenRequest} {s : Trading}

theorem getPrice_of_readable (h : ∀ t, market.priceError t = none) (t : TokenAddress) :
    c.getPrice market t = .ok (c.referencePrice market t) := by
  unfold getPrice referencePrice
  rw [h t]
  split <;> rfl

theorem getErc20Balance_of_readable (h : ∀ t, market.balanceError t = none) (w : Wallet)
    (t : TokenAddress) : c.getErc20Balance market w t = .ok (c.balance w t) := by
  unfold getErc20Balance
  rw [h t]
  rfl

theorem getSwapCandidates_of_readable (hprices : ∀ t, market.priceError t = none)
    (hbalances : ∀ t, market.balanceError t = none) (w : Wallet) (excluded : List Token) :
    c.getSwapCandidates market w excluded = .ok (c.candidates market w excluded) := by
  have hread : c.readCandidate market w = fun t => .ok (c.candidate market w t) := by
    funext t
    rw [readCandidate, getErc20Balance_of_readable hbalances, getPrice_of_readable hprices]
    rfl
  have hall : (c.candidateTokens excluded).mapM (c.readCandidate market w) =
      .ok ((c.candidateTokens excluded).map (c.candidate market w)) := hread ▸ List.mapM_pure
  rw [getSwapCandidates, hall]
  rfl

/-- A balance that covers the target, or nearly so, leaves nothing to do. -/
theorem exec_trySwapIntoTargetToken_skipped (hprices : ∀ t, market.priceError t = none)
    (hbalances : ∀ t, market.balanceError t = none)
    (hsmall : (req.targetAmount - c.balance s.wallet req.quoteParams.toToken) *
      c.referencePrice market req.quoteParams.toToken < minSwapQuoteAmount) :
    exec (c.trySwapIntoTargetToken market req) s = (.ok [], s) := by
  unfold trySwapIntoTargetToken
  rw [Effect.exec_look_bind, getErc20Balance_of_readable hbalances, Effect.exec_ofExcept_bind]
  dsimp only
  split
  · rfl
  · rw [getPrice_of_readable hprices, Effect.exec_ofExcept_bind]
    dsimp only
    rw [if_pos hsmall]
    rfl

/-- A shortfall that is worth it goes to the candidates. -/
theorem exec_trySwapIntoTargetToken (hprices : ∀ t, market.priceError t = none)
    (hbalances : ∀ t, market.balanceError t = none)
    (hshort : c.balance s.wallet req.quoteParams.toToken < req.targetAmount)
    (hworth : minSwapQuoteAmount ≤ (req.targetAmount -
      c.balance s.wallet req.quoteParams.toToken) *
        c.referencePrice market req.quoteParams.toToken) :
    exec (c.trySwapIntoTargetToken market req) s =
      exec (c.swapCandidates market req.quoteParams req.quoteParams.toToken
        (c.candidates market s.wallet (c.excludedTokens req))
        (c.amountToCover market req s.wallet) []) s := by
  unfold trySwapIntoTargetToken
  rw [Effect.exec_look_bind, getErc20Balance_of_readable hbalances, Effect.exec_ofExcept_bind]
  dsimp only
  rw [if_neg (not_le.mpr hshort), getPrice_of_readable hprices, Effect.exec_ofExcept_bind]
  dsimp only
  rw [if_neg (not_lt.mpr hworth), executeSwapsIntoTargetToken, Effect.exec_look_bind,
    getSwapCandidates_of_readable hprices hbalances, Effect.exec_ofExcept_bind]
  rfl

end Readable

theorem referencePrice_pos (h : ∀ t, 0 < market.price t) (t : TokenAddress) :
    0 < c.referencePrice market t := by
  unfold referencePrice
  split
  · exact one_pos
  · exact h t

end ExecutionClient

/-- Everything is in whole units, and nothing but USDC has a ticker. -/
def wholeTokens : TokenMap where
  usdc := 0
  decimals _ := 0
  ticker t := if t = 0 then some usdcTicker else none
  isStablecoin t := t = 0

theorem wholeTokens_ticker_iff (t : TokenAddress) :
    wholeTokens.ticker t = some usdcTicker ↔ t = wholeTokens.usdc := by
  simp [wholeTokens]

@[simp] theorem convertToDecimal_whole (t : TokenAddress) (n : Nat) :
    wholeTokens.convertToDecimal t n = n := by
  simp [TokenMap.convertToDecimal, wholeTokens]

end RelayerExtensions.Funds
