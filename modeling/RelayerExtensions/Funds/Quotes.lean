import Mathlib.Algebra.Order.Floor.Semiring
import Mathlib.Data.Rat.Floor
import RelayerExtensions.Lib.ExtRat
import RelayerExtensions.Lib.Pick

/-!
# Quotes and venues

What the execution client knows about a swap before it is made: the quotes of the execution
venues, their prices, and which of them is best. Amounts are in atoms of a token and decimal
amounts are exact rationals; a price is a quotient of those, so it can be infinite or not a
number (`ExtRat`).

Executing a quote is where the outside world gets to act. A Lifi or Bebop quote is a transaction
that is handed to a node; a CoW quote is an order that is placed with a service. What the
adapter is told and what the chain does are two things: the answer to a broadcast can be lost
while the transaction is mined, and an order that was not filled while the adapter was looking
can be filled until it expires. A `Submission` records what was let loose and whether it ever
executes; the adapters return it beside their result.
-/

namespace RelayerExtensions.Funds

abbrev TokenAddress := BitVec 160
abbrev TxHash := BitVec 256
abbrev Bytes := List UInt8

/-! ## Tokens -/

structure TokenMap where
  usdc : TokenAddress
  decimals : TokenAddress → Nat
  ticker : TokenAddress → Option String
  isStablecoin : TokenAddress → Bool

/-- From atoms to whole units. -/
def TokenMap.convertToDecimal (m : TokenMap) (t : TokenAddress) (amount : Nat) : ℚ :=
  amount / 10 ^ m.decimals t

/-- From whole units to atoms, rounding down. -/
def TokenMap.convertFromDecimal (m : TokenMap) (t : TokenAddress) (amount : ℚ) : Nat :=
  ⌊amount * 10 ^ m.decimals t⌋₊

theorem TokenMap.convertToDecimal_nonneg (m : TokenMap) (t : TokenAddress) (amount : Nat) :
    0 ≤ m.convertToDecimal t amount := by
  unfold TokenMap.convertToDecimal
  positivity

/-! ## Errors -/

inductive ExecutionClientError where
  | custom (e : String)
  | http (e : String)
  | onChain (e : String)
  | parse (e : String)
  | priceReporter (e : String)
  | quoteConversion (e : String)
  /-- Not an error of the source: an `expect` that fails takes the task down. -/
  | panicked (e : String)
  deriving DecidableEq

/-! ## Quotes -/

inductive SupportedExecutionVenue where
  | lifi
  | cowswap
  | bebop
  | okx
  deriving DecidableEq

inductive CrossVenueQuoteSource where
  | lifiExchange (tool : String)
  | bebopJAMv2
  | bebopPMMv3
  | cowswap
  deriving DecidableEq

structure ExecutionQuote where
  sellToken : TokenAddress
  buyToken : TokenAddress
  sellAmount : Nat
  buyAmount : Nat
  venue : SupportedExecutionVenue
  source : CrossVenueQuoteSource
  deriving DecidableEq

namespace ExecutionQuote

variable (m : TokenMap) (q : ExecutionQuote)

def isSell : Bool := q.buyToken = m.usdc

def baseToken : TokenAddress := if q.isSell m then q.sellToken else q.buyToken

/-- Whether the conversions of `get_price` to `u128` would panic. -/
def overflows : Bool := 2 ^ 128 ≤ q.buyAmount ∨ 2 ^ 128 ≤ q.sellAmount

/-- USDC per base token. -/
def getPrice : ExtRat :=
  let buyPerSell := ExtRat.div (.fin (m.convertToDecimal q.buyToken q.buyAmount))
    (.fin (m.convertToDecimal q.sellToken q.sellAmount))
  if q.isSell m then buyPerSell else ExtRat.div (.fin 1) buyPerSell

end ExecutionQuote

/-- The data needed to execute a quote; CoW quotes carry no calldata. -/
inductive QuoteExecutionData where
  | lifi (data : Bytes)
  | cowswap
  | bebop (data : Bytes)
  deriving DecidableEq

structure ExecutableQuote where
  quote : ExecutionQuote
  executionData : QuoteExecutionData
  deriving DecidableEq

def QuoteExecutionData.calldata : QuoteExecutionData → Option Bytes
  | .lifi data | .bebop data => some data
  | .cowswap => none

/-- `haystack.windows(needle.len()).any(|window| window == needle)`. -/
def containsByteSubslice (haystack needle : Bytes) : Bool :=
  (List.range (haystack.length + 1 - needle.length)).any fun i =>
    (haystack.drop i).take needle.length = needle

theorem containsByteSubslice_iff {haystack needle : Bytes} :
    containsByteSubslice haystack needle = true ↔ needle <:+: haystack := by
  unfold containsByteSubslice
  rw [List.any_eq_true]
  constructor
  · rintro ⟨i, -, hi⟩
    refine ⟨haystack.take i, (haystack.drop i).drop needle.length, ?_⟩
    have hwindow : (haystack.drop i).take needle.length = needle := by simpa using hi
    calc haystack.take i ++ needle ++ (haystack.drop i).drop needle.length
        = haystack.take i ++ ((haystack.drop i).take needle.length
            ++ (haystack.drop i).drop needle.length) := by rw [hwindow, List.append_assoc]
      _ = haystack := by rw [List.take_append_drop, List.take_append_drop]
  · rintro ⟨before, after, rfl⟩
    refine ⟨before.length, ?_, ?_⟩
    · simp only [List.mem_range, List.length_append]
      omega
    · simp [List.append_assoc]

def ExecutableQuote.darkpoolAddressInCalldata (darkpool : Bytes) (q : ExecutableQuote) : Bool :=
  match q.executionData.calldata with
  | some data => containsByteSubslice data darkpool
  | none => false

def ExecutableQuote.isValid (darkpool : Bytes) (q : ExecutableQuote) : Bool :=
  !q.darkpoolAddressInCalldata darkpool

/-! ## The venues' answers -/

/-- The fields of a venue's answer that the client reads. -/
structure ApiQuote where
  sellToken : TokenAddress
  buyToken : TokenAddress
  sellAmount : Nat
  buyAmount : Nat
  data : Bytes

def ApiQuote.toQuote (q : ApiQuote) (venue : SupportedExecutionVenue)
    (source : CrossVenueQuoteSource) : ExecutionQuote :=
  ⟨q.sellToken, q.buyToken, q.sellAmount, q.buyAmount, venue, source⟩

/-- What the venues answer to one request. Lifi answers with the exchange it would use; Bebop
answers with a route of each kind, either of which may fail to convert. -/
structure VenueReplies where
  lifi : Except ExecutionClientError (String × ApiQuote)
  bebop : Except ExecutionClientError (Option ApiQuote × Option ApiQuote)
  cowswap : Except ExecutionClientError ApiQuote

/-- `get_quotes` of the Lifi client: the excluded exchanges are passed on to Lifi. -/
def lifiGetQuotes (r : VenueReplies) : Except ExecutionClientError (List ExecutableQuote) :=
  r.lifi.map fun (tool, q) => [⟨q.toQuote .lifi (.lifiExchange tool), .lifi q.data⟩]

/-- `get_quotes` of the Bebop client: an excluded source is not looked at. -/
def bebopGetQuotes (r : VenueReplies) (excluded : List CrossVenueQuoteSource) :
    Except ExecutionClientError (List ExecutableQuote) :=
  r.bebop.map fun (jam, pmm) =>
    [(CrossVenueQuoteSource.bebopJAMv2, jam), (.bebopPMMv3, pmm)].filterMap fun (source, quote) =>
      if source ∈ excluded then none
      else quote.map fun q => ⟨q.toQuote .bebop source, .bebop q.data⟩

/-- `get_quotes` of the CoW client: it is not even asked if it is excluded. -/
def cowswapGetQuotes (r : VenueReplies) (excluded : List CrossVenueQuoteSource) :
    Except ExecutionClientError (List ExecutableQuote) :=
  if CrossVenueQuoteSource.cowswap ∈ excluded then .ok []
  else r.cowswap.map fun q => [⟨q.toQuote .cowswap .cowswap, .cowswap⟩]

def getQuotes (r : VenueReplies) (excluded : List CrossVenueQuoteSource) :
    SupportedExecutionVenue → Except ExecutionClientError (List ExecutableQuote)
  | .lifi => lifiGetQuotes r
  | .bebop => bebopGetQuotes r excluded
  | .cowswap => cowswapGetQuotes r excluded
  -- `get_venue` is not reached with it
  | .okx => .ok []

/-- Lifi and Bebop, or the one venue that is asked for. CoW is only used on request. -/
def venuesFor : Option SupportedExecutionVenue →
    Except ExecutionClientError (List SupportedExecutionVenue)
  | none => .ok [.lifi, .bebop]
  | some .okx => .error (.custom "OKX execution venue is no longer supported")
  | some venue => .ok [venue]

/-- A venue that answers with an error is skipped. -/
def fetchAllQuotes (venue : Option SupportedExecutionVenue) (r : VenueReplies)
    (excluded : List CrossVenueQuoteSource) : Except ExecutionClientError (List ExecutableQuote) :=
  (venuesFor venue).map fun venues =>
    venues.flatMap fun v => ((getQuotes r excluded v).toOption).getD []

/-! ## The best quote -/

/-- Whether a quote replaces the best one so far. -/
def ExecutableQuote.Better (m : TokenMap) (q best : ExecutableQuote) : Prop :=
  (q.quote.isSell m = true ∧ ExtRat.lt (best.quote.getPrice m) (q.quote.getPrice m) = true) ∨
    (q.quote.isSell m = false ∧ ExtRat.lt (q.quote.getPrice m) (best.quote.getPrice m) = true)

instance (m : TokenMap) : DecidableRel (ExecutableQuote.Better m) := fun _ _ =>
  inferInstanceAs (Decidable (_ ∨ _))

def selectBestQuote (m : TokenMap) (quotes : List ExecutableQuote) : Option ExecutableQuote :=
  Pick.pick (ExecutableQuote.Better m) quotes

/-- What the quote filter lets through. -/
def validQuotes (darkpool : Bytes) (quotes : List ExecutableQuote) : List ExecutableQuote :=
  quotes.filter (·.isValid darkpool)

variable {quotes : List ExecutableQuote}

theorem not_isInfix_of_valid {darkpool : Bytes} {q : ExecutableQuote}
    (h : q ∈ validQuotes darkpool quotes) {data : Bytes}
    (hdata : q.executionData.calldata = some data) : ¬ darkpool <:+: data := by
  have hvalid := (List.mem_filter.mp h).2
  rw [← containsByteSubslice_iff]
  simpa [ExecutableQuote.isValid, ExecutableQuote.darkpoolAddressInCalldata, hdata] using hvalid

theorem ExecutableQuote.better_irrefl (m : TokenMap) (q : ExecutableQuote) :
    ¬ ExecutableQuote.Better m q q := by
  simp [ExecutableQuote.Better, ExtRat.lt_irrefl]

theorem selectBestQuote_mem {m : TokenMap} {q : ExecutableQuote}
    (h : selectBestQuote m quotes = some q) : q ∈ quotes := Pick.pick_mem h

/-- **No quote is better than the selected one**, provided they are all on one side. -/
theorem selectBestQuote_best {m : TokenMap} {q : ExecutableQuote}
    (h : selectBestQuote m quotes = some q) {side : Bool}
    (hside : ∀ q' ∈ quotes, q'.quote.isSell m = side) :
    ∀ q' ∈ quotes, ¬ ExecutableQuote.Better m q' q := by
  refine Pick.pick_best (ExecutableQuote.better_irrefl m) ?_ hside h
  -- on quotes of one side, being better is the order of the prices, one way or the other
  rintro a b c ha hb (⟨ha₁, hab⟩ | ⟨ha₁, hab⟩) (⟨hb₁, hbc⟩ | ⟨hb₁, hbc⟩)
  · exact .inl ⟨ha₁, ExtRat.lt_trans hbc hab⟩
  · rw [ha, ← hb, hb₁] at ha₁
    cases ha₁
  · rw [ha, ← hb, hb₁] at ha₁
    cases ha₁
  · exact .inr ⟨ha₁, ExtRat.lt_trans hab hbc⟩

/-! ## Executing a quote -/

/-- The outcome of an execution, as the adapter reports it. -/
structure ExecutionResult where
  buyAmountActual : Nat
  gasCost : Nat
  txHash : Option TxHash
  deriving DecidableEq

/-- A transaction or an order that was let loose: what it would sell, and whether it ever
executes. -/
structure Submission where
  source : CrossVenueQuoteSource
  sellAmount : Nat
  executes : Bool
  deriving DecidableEq

structure TransactionReceipt where
  status : Bool
  transactionHash : TxHash
  gasUsed : Nat
  effectiveGasPrice : Nat
  /-- The amount of the bought token that the recipient got. -/
  received : Nat
  deriving DecidableEq

def TransactionReceipt.gasCost (r : TransactionReceipt) : Nat := r.gasUsed * r.effectiveGasPrice

/-- What can come of handing a transaction to a node and waiting for its receipt. After a failure
the transaction may be mined all the same. -/
inductive SendReply where
  /-- Refused by the node for its nonce. -/
  | nonceTooLow
  | sendError (e : String) (executes : Bool)
  | receiptError (e : String) (executes : Bool)
  | mined (receipt : TransactionReceipt)
  deriving DecidableEq

def txMaxRetries : Nat := 5

/-- `send_tx_with_retry`, with what becomes of the transaction. Only a refusal for the nonce is
tried again. -/
def sendTxWithRetry (reply : Nat → SendReply) :
    Nat → Except ExecutionClientError TransactionReceipt × Bool
  | 0 => (.error (.onChain "Transaction failed after retries"), false)
  | n + 1 =>
      match reply n with
      | .nonceTooLow => sendTxWithRetry reply n
      | .sendError e executes | .receiptError e executes => (.error (.onChain e), executes)
      | .mined receipt => (.ok receipt, receipt.status)

/-- One poll for the trades of a CoW order. -/
inductive PollReply where
  | failed (e : String)
  | none
  | trade (hash : Except String TxHash) (buyAmount : Nat)

/-- `await_trade_execution`: the polls that fit into the waiting time. -/
def awaitTradeExecution : List PollReply → Except ExecutionClientError ExecutionResult
  | [] => .ok ⟨0, 0, none⟩
  | .failed e :: _ => .error (.http e)
  | .none :: polls => awaitTradeExecution polls
  | .trade (.ok hash) buyAmount :: _ => .ok ⟨buyAmount, 0, some hash⟩
  | .trade (.error e) _ :: _ => .error (.parse e)

/-- Whether a trade of the order was seen. -/
def tradeSeen : List PollReply → Bool
  | .trade _ _ :: _ => true
  | .none :: polls => tradeSeen polls
  | _ => false

/-- What the execution of one quote meets. `orderFills` says whether a CoW order that reached the
service is filled before it expires. -/
structure ExecReplies where
  approve : Option String
  build : Option String
  send : Nat → SendReply
  placeOrder : Except String Unit
  polls : List PollReply
  orderFills : Bool

/-- `execute_quote` of the Lifi client and of the Bebop client: approve, build, send. A failure to
send is reported as an execution without a transaction hash. -/
def executeOnChain (r : ExecReplies) (q : ExecutionQuote) :
    Except ExecutionClientError ExecutionResult × List Submission :=
  match r.approve, r.build with
  | some e, _ | none, some e => (.error (.onChain e), [])
  | none, none =>
      let (sent, executes) := sendTxWithRetry r.send txMaxRetries
      let submitted := [⟨q.source, q.sellAmount, executes⟩]
      match sent with
      | .error _ => (.ok ⟨0, 0, none⟩, submitted)
      | .ok receipt =>
          if receipt.status then
            (.ok ⟨receipt.received, receipt.gasCost, some receipt.transactionHash⟩, submitted)
          else (.ok ⟨0, receipt.gasCost, none⟩, submitted)

/-- `execute_quote` of the CoW client: approve, place the order, look for a trade. -/
def executeOrder (r : ExecReplies) (q : ExecutionQuote) :
    Except ExecutionClientError ExecutionResult × List Submission :=
  match r.approve with
  | some e => (.error (.onChain e), [])
  | none =>
      let submitted := [⟨q.source, q.sellAmount, tradeSeen r.polls || r.orderFills⟩]
      match r.placeOrder with
      | .error e => (.error (.http e), [⟨q.source, q.sellAmount, r.orderFills⟩])
      | .ok () => (awaitTradeExecution r.polls, submitted)

def ExecutableQuote.execute (r : ExecReplies) (q : ExecutableQuote) :
    Except ExecutionClientError ExecutionResult × List Submission :=
  match q.executionData with
  | .lifi _ | .bebop _ => executeOnChain r q.quote
  | .cowswap => executeOrder r q.quote

/-- An execution lets at most one thing loose, which sells what the quote sells. -/
theorem ExecutableQuote.execute_submissions (r : ExecReplies) (q : ExecutableQuote) :
    (q.execute r).2 = [] ∨
      ∃ executes, (q.execute r).2 = [⟨q.quote.source, q.quote.sellAmount, executes⟩] := by
  unfold ExecutableQuote.execute
  split
  all_goals first
    | unfold executeOnChain
      split
      · exact .inl rfl
      · exact .inl rfl
      · right
        refine ⟨(sendTxWithRetry r.send txMaxRetries).2, ?_⟩
        dsimp only
        split
        · rfl
        · split <;> rfl
    | unfold executeOrder
      split
      · exact .inl rfl
      · right
        dsimp only
        split <;> exact ⟨_, rfl⟩

end RelayerExtensions.Funds
