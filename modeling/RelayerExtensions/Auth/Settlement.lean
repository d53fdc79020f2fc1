import RelayerExtensions.Auth.Server

/-!
# What happens when a bundle settles

`chain_events/listener.rs` from `check_external_match_settlement` on, and
`chain_events/tasks.rs`. Every `NonceUsed` event of the gas sponsor is handled by a task
of its own: it fetches the receipt of the transaction and the external matches in it,
and hands each match to `process_external_match` together with the nonce of the event.

`process_external_match` refunds the rate-limit token the bundle took, records what the
settlement was worth, and takes the bundle out of the store. The stages are named, since
what is done by a handler that stops between two of them is a question of its own.

Everything outside the process answers in any way: `ListenerServices` has the answers by
the number of questions asked so far. Gauges are recorded with the data they are computed
from, and with the bundle they are recorded for (ghost fields of `Recorded`). What a bundle
was processed with is kept apart from that (`ListenerState.ProcessedWith`).
-/

namespace RelayerExtensions.Auth

open Effect

/-! ## Data -/

/-- A match as the metrics see it: the result, and what the external party paid and got. -/
structure SettledMatch where
  matchResult : ApiBoundedMatchResult
  actualInput : Amount
  actualOutput : Amount
deriving DecidableEq

/-- A log of a receipt: who emitted it, and the nonce and refund if it decodes as a
`SponsoredExternalMatch`. -/
structure ReceiptLog where
  address : Address
  sponsored : Option (U256 × U256)
deriving DecidableEq

structure Receipt where
  blockNumber : Option Nat
  /-- Some log decodes as a CoW `Trade`. -/
  cowswap : Bool
  logs : List ReceiptLog
deriving DecidableEq

structure Gauge where
  name : String
  labels : List (String × String)
  value : Float

inductive Recording where
  | gauge (g : Gauge)
  /-- What is charged to the budget of the user, for a refund in this asset. -/
  | sponsorship (info : GasSponsorshipInfo) (asset : Address) (value : Float)

/-- Something recorded, the bundle it is recorded for, and the match it comes from. -/
structure Recorded where
  bundle : U256
  settled : SettledMatch
  what : Recording

/-- `BundleStore`: every context is under its own id. -/
structure BundleStore where
  byId : U256 → Option BundleContext
  keyed : ∀ id ctx, byId id = some ctx → ctx.bundleId = id

def BundleStore.new : BundleStore where
  byId _ := none
  keyed := by
    intro id ctx h
    cases h

def BundleStore.write (store : BundleStore) (ctx : BundleContext) : BundleStore where
  byId := Function.update store.byId ctx.bundleId (some ctx)
  keyed := by
    intro id ctx' h
    by_cases hid : id = ctx.bundleId
    · subst hid
      rw [Function.update_self, Option.some.injEq] at h
      rw [← h]
    · rw [Function.update_of_ne hid] at h
      exact store.keyed id ctx' h

def BundleStore.read (store : BundleStore) (id : U256) : Option BundleContext := store.byId id

def BundleStore.removeBundle (store : BundleStore) (id : U256) : BundleStore where
  byId := Function.update store.byId id none
  keyed := by
    intro id' ctx h
    by_cases hid : id' = id
    · subst hid
      rw [Function.update_self] at h
      cases h
    · rw [Function.update_of_ne hid] at h
      exact store.keyed id' ctx h

theorem BundleStore.read_removeBundle_self (store : BundleStore) (id : U256) :
    (store.removeBundle id).read id = none := Function.update_self ..

theorem BundleStore.read_removeBundle_of_ne {store : BundleStore} {id id' : U256} (h : id' ≠ id) :
    (store.removeBundle id).read id' = store.read id' := Function.update_of_ne h ..

theorem BundleStore.read_write_of_ne {store : BundleStore} {ctx : BundleContext} {id : U256}
    (h : id ≠ ctx.bundleId) : (store.write ctx).read id = store.read id :=
  Function.update_of_ne h ..

structure ListenerState where
  /-- The number of questions asked. -/
  clock : Nat
  bundles : BundleStore
  /-- The bundles for which a token was refunded. -/
  refunds : List U256
  /-- Ghost: the bundles found in the store, and the matches at hand. -/
  processed : List (U256 × SettledMatch)
  recorded : List Recorded

def ListenerState.ProcessedWith (s : ListenerState) (bundle : U256) (settled : SettledMatch) :
    Prop := (bundle, settled) ∈ s.processed

inductive ListenerError where
  | darkpool (msg : String)
  | authServer (err : AuthServerError)

abbrev ListenerM (α : Type) := Effect ListenerError ListenerState α

/-- How Redis takes a refund: the call can fail before the write or after it. -/
inductive RefundReply where
  | done
  | failed (msg : String)
  | lost (msg : String)
deriving DecidableEq

/-- The answers from outside, by the number of the question. -/
structure ListenerServices (Match : Type) where
  getTransactionReceipt : Nat → BitVec 256 → Except String (Option Receipt)
  /-- The timestamp of a block. -/
  getBlock : Nat → Nat → Except String (Option Nat)
  findExternalMatchesInTx : Nat → BitVec 256 → Except String (List (Match × Amount))
  addBundleToken : Nat → String → RefundReply
  getPrice : Nat → String → Except PriceReporterClientError Float
  getPriceUsd : Nat → String → Except PriceReporterClientError ℚ
  recordGasSponsorship : Nat → String → Float → Except AuthServerError Unit
  /-- The L2 base fee and the L1 data fee, as text. -/
  sampleGasPrices : Nat → Except String (String × String)

/-- `OnChainEventListenerExecutor`, with the library code its tasks call. A token is its
address. -/
structure Executor (Match : Type) extends ListenerServices Match where
  gasSponsorAddress : Address
  usdc : Address
  /-- `Token::from_ticker("WETH")` -/
  weth : Address
  /-- `Token::from_ticker(NATIVE_ASSET_WRAPPER_TICKER)` -/
  nativeAssetWrapper : Address
  /-- `NATIVE_ASSET_ADDRESS.to_lowercase()` -/
  nativeAssetAddress : String
  addressToHexString : Address → String
  getAddr : Address → String
  getTicker : Address → Option String
  getDecimals : Address → Option Nat
  convertToDecimal : Address → Amount → Float
  /-- `FixedPoint::to_f64` -/
  fpToF64 : FixedPoint → Float
  /-- `10f64.powi` -/
  tenPowi : Int → Float
  /-- `BigDecimal::to_f64` -/
  decimalToF64 : ℚ → Option Float
  f64ToString : Float → String
  uuidToString : Uuid → String
  /-- The text for a refund above `u128`. -/
  refundTooLarge : U256 → String
  /-- `BoundedMatchResult::into` -/
  toApi : Match → ApiBoundedMatchResult
  /-- `to_external_obligation`: the amounts in and out. -/
  toExternalObligation : Match → Amount → Amount × Amount

/-! ## Stages -/

namespace Executor

variable {Match : Type} (self : Executor Match)

/-- Put the next question. -/
def query {α : Type} (answer : Nat → α) : ListenerM α := do
  let t ← look (·.clock)
  modify fun s => { s with clock := s.clock + 1 }
  return answer t

@[simp] theorem exec_query {α : Type} (answer : Nat → α) (s : ListenerState) :
    exec (query answer) s = (.ok (answer s.clock), { s with clock := s.clock + 1 }) := rfl

/-- Use an `AuthServerError` value with `?`. -/
def ofAuth {α : Type} (x : Except AuthServerError α) : ListenerM α :=
  Effect.ofExcept (x.mapError .authServer)

def put (ctx : BundleContext) (settled : SettledMatch) (what : Recording) : ListenerM Unit :=
  modify fun s => { s with recorded := s.recorded ++ [⟨ctx.bundleId, settled, what⟩] }

def process (ctx : BundleContext) (settled : SettledMatch) : ListenerM Unit :=
  modify fun s => { s with processed := s.processed ++ [(ctx.bundleId, settled)] }

def computeExternalAmounts (m : Match) (actualExternalInput : Amount) : SettledMatch :=
  { matchResult := self.toApi m
    actualInput := (self.toExternalObligation m actualExternalInput).1
    actualOutput := (self.toExternalObligation m actualExternalInput).2 }

def pickBaseAndQuoteMints (inputMint outputMint : Address) :
    Except AuthServerError (Address × Address) :=
  if inputMint = self.usdc then .ok (outputMint, inputMint)
  else if outputMint = self.usdc then .ok (inputMint, outputMint)
  else .error (.badRequest "Either input or output mint must be USDC")

def addBundleRateLimitToken (ctx : BundleContext) : ListenerM Unit := do
  let refunded : ListenerM Unit :=
    modify fun s => { s with refunds := s.refunds ++ [ctx.bundleId] }
  match ← query fun t => self.addBundleToken t ctx.keyDescription with
  | .done => refunded
  | .failed msg => throw (.authServer (.redisConnection msg))
  | .lost msg => do
      refunded
      throw (.authServer (.redisConnection msg))

def getLabels (ctx : BundleContext) : List (String × String) :=
  [("key_description", ctx.keyDescription), ("request_id", self.uuidToString ctx.requestId),
    ("gas_sponsored", toString ctx.isSponsored), ("sdk_version", ctx.sdkVersion),
    ("did_settle", "true")]

def decimalsOf (token : Address) : Except AuthServerError Nat :=
  match self.getDecimals token with
  | some d => .ok d
  | none => .error (.serde ("No decimals for " ++ self.getAddr token))

def calculateQuotePerBasePrice (m : ApiBoundedMatchResult) : Except AuthServerError Float := do
  let outPerInPrice := self.fpToF64 m.priceFp
  let mints ← self.pickBaseAndQuoteMints m.inputMint m.outputMint
  let quotePerBasePrice := if mints.2 = m.outputMint then outPerInPrice else 1.0 / outPerInPrice
  let tradesNativeAsset := decide (self.addressToHexString mints.1 = self.nativeAssetAddress)
  let baseToken := if tradesNativeAsset then self.nativeAssetWrapper else mints.1
  let baseDecimals ← self.decimalsOf baseToken
  let quoteDecimals ← self.decimalsOf mints.2
  return quotePerBasePrice * self.tenPowi (baseDecimals - quoteDecimals)

def recordExternalMatchSpreadCost (ctx : BundleContext) (settled : SettledMatch) :
    ListenerM Unit := do
  let m := settled.matchResult
  let mints ← ofAuth (self.pickBaseAndQuoteMints m.inputMint m.outputMint)
  let reply ← query fun t => self.getPrice t (self.addressToHexString mints.1)
  let referencePrice ← ofAuth (reply.mapError .priceReporter)
  let matchPrice ← ofAuth (self.calculateQuotePerBasePrice m)
  let internalBuys := decide (mints.1 = m.inputMint)
  let tradeSideFactor : Float := if internalBuys then 1.0 else -1.0
  let relativeSpread := tradeSideFactor * (matchPrice - referencePrice) / referencePrice
  let quoteAmount := if internalBuys then settled.actualOutput else settled.actualInput
  let spreadCost := self.convertToDecimal mints.2 quoteAmount * relativeSpread
  put ctx settled (.gauge
    { name := "external_match_spread_cost"
      labels := [("request_id", self.uuidToString ctx.requestId),
        ("key_description", ctx.keyDescription),
        ("asset", (self.getTicker mints.1).getD (self.getAddr mints.1)),
        ("side", if internalBuys then "buy" else "sell")]
      value := spreadCost })

/-- `record_volume_with_tags` -/
def volume (mint : Address) (amount : Amount) (name : String)
    (extraLabels : List (String × String)) : Gauge :=
  { name
    labels := ("asset", (self.getTicker mint).getD (self.addressToHexString mint)) :: extraLabels
    value := self.convertToDecimal mint amount }

def recordSettlementMetrics (receipt : Receipt) (ctx : BundleContext) (settled : SettledMatch) :
    ListenerM Unit := do
  let m := settled.matchResult
  let labels := self.getLabels ctx ++ [("settled_via_cowswap", toString receipt.cowswap)]
  let mints ← ofAuth (self.pickBaseAndQuoteMints m.inputMint m.outputMint)
  let buys := decide (mints.1 = m.outputMint)
  let baseAmount := if buys then settled.actualOutput else settled.actualInput
  let quoteAmount := if buys then settled.actualInput else settled.actualOutput
  put ctx settled (.gauge
    (self.volume mints.1 baseAmount "external_match_settled_base_volume" labels))
  let baseAsset := (self.getTicker mints.1).getD (self.addressToHexString mints.1)
  let labels := ("side", if buys then "buy" else "sell") :: ("base_asset", baseAsset) :: labels
  put ctx settled (.gauge
    (self.volume mints.2 quoteAmount "external_match_settled_quote_volume" labels))

/-- The refund the sponsor paid under the nonce, zero if it paid none. -/
def getActualRefundAmount (receipt : Receipt) (nonce : U256) : U256 :=
  ((receipt.logs.findSome? fun log =>
    if log.address = self.gasSponsorAddress then
      match log.sponsored with
      | some (n, amount) => if n = nonce then some amount else none
      | none => none
    else none)).getD 0

def refundAsset (info : GasSponsorshipInfo) (m : ApiBoundedMatchResult) : Address :=
  if info.refundNativeEth then self.weth else m.outputMint

def refundAssetTicker (info : GasSponsorshipInfo) (asset : Address) :
    Except AuthServerError String :=
  if info.refundNativeEth then .ok "ETH"
  else match self.getTicker asset with
    | some ticker => .ok ticker
    | none => .error (.gasCostSampler "failed to get refund asset ticker")

/-- `U256::try_into::<u128>` -/
def refundAmountU128 (refundAmount : U256) : Except AuthServerError Amount :=
  if refundAmount.toNat < 2 ^ 128 then .ok (refundAmount.setWidth 128)
  else .error (.gasSponsorship (self.refundTooLarge refundAmount))

def recordGasSponsorshipMetrics (ctx : BundleContext) (settled : SettledMatch)
    (info : GasSponsorshipInfo) (refundAmount : U256) (value : Float) : ListenerM Unit := do
  let asset := self.refundAsset info settled.matchResult
  let ticker ← ofAuth (self.refundAssetTicker info asset)
  let refundAmountU128 ← ofAuth (self.refundAmountU128 refundAmount)
  let whole := self.convertToDecimal asset refundAmountU128
  let reply ← query self.sampleGasPrices
  let estimate ← ofAuth (reply.mapError .gasSponsorship)
  put ctx settled (.gauge
    { name := "gas_sponsorship_value"
      labels := [("key_description", ctx.keyDescription),
        ("request_id", self.uuidToString ctx.requestId), ("sdk_version", ctx.sdkVersion),
        ("refund_asset", ticker), ("refund_amount", self.f64ToString whole),
        ("l2_base_fee", estimate.1), ("l1_cost_per_byte", estimate.2)]
      value })

def recordSettledMatchSponsorship (ctx : BundleContext) (settled : SettledMatch)
    (receipt : Receipt) (info : GasSponsorshipInfo) (nonce : U256) : ListenerM Unit := do
  let asset := self.refundAsset info settled.matchResult
  let reply ← query fun t => self.getPriceUsd t (self.getAddr asset)
  let nominalPrice ← ofAuth (reply.mapError .priceReporter)
  let actualRefundAmount := self.getActualRefundAmount receipt nonce
  match self.decimalToF64 (actualRefundAmount.toNat * nominalPrice) with
  | none =>
      throw (.authServer (.gasSponsorship "failed to convert gas sponsorship value to f64"))
  | some value =>
      let charged ← query fun t => self.recordGasSponsorship t ctx.keyDescription value
      ofAuth charged
      put ctx settled (.sponsorship info asset value)
      self.recordGasSponsorshipMetrics ctx settled info actualRefundAmount value

/-- `record_time_diff` -/
def timeDiff (t₁ t₂ : Nat) (name : String) (ctx : BundleContext) : Gauge :=
  { name, labels := self.getLabels ctx, value := Float.ofNat (t₂ - t₁) }

def recordDelays (ctx : BundleContext) (settled : SettledMatch) (settlementTime : Nat) :
    ListenerM Unit := do
  match ctx.assembledTimestamp with
  | none => pure ()
  | some assembled => do
      put ctx settled (.gauge
        (self.timeDiff ctx.priceTimestamp assembled "external_match_assembly_delay" ctx))
      put ctx settled (.gauge (self.timeDiff assembled settlementTime
        "external_match_assembly_to_settlement_delay" ctx))
  put ctx settled (.gauge
    (self.timeDiff ctx.priceTimestamp settlementTime "external_match_settlement_delay" ctx))

/-! ## `process_external_match` -/

/-- What is done for a bundle that was found, in order. -/
inductive Stage where
  | refund
  | spread
  | metrics
  | sponsor
  | cleanup
deriving DecidableEq

/-- What a handler knows of the settlement it is recording. -/
structure Settling where
  ctx : BundleContext
  settled : SettledMatch
  receipt : Receipt
  settlementTime : Nat

def stage (job : Settling) : Stage → ListenerM Unit
  | .refund => self.addBundleRateLimitToken job.ctx
  | .spread => self.recordExternalMatchSpreadCost job.ctx job.settled
  | .metrics => self.recordSettlementMetrics job.receipt job.ctx job.settled
  | .sponsor =>
      match job.ctx.gasSponsorshipInfo with
      | some (info, nonce) =>
          self.recordSettledMatchSponsorship job.ctx job.settled job.receipt info nonce
      | none => pure ()
  | .cleanup => do
      modify fun s => { s with bundles := s.bundles.removeBundle job.ctx.bundleId }
      self.recordDelays job.ctx job.settled job.settlementTime

def processExternalMatch (m : Match) (actualExternalInput : Amount) (nonce : U256)
    (receipt : Receipt) (settlementTime : Nat) : ListenerM Unit := do
  match ← look (·.bundles.read nonce) with
  | none => pure ()
  | some ctx => do
      let settled := self.computeExternalAmounts m actualExternalInput
      let job : Settling := { ctx, settled, receipt, settlementTime }
      process ctx settled
      self.stage job .refund
      self.stage job .spread
      self.stage job .metrics
      self.stage job .sponsor
      self.stage job .cleanup

def getSettlementTimestamp (receipt : Receipt) : ListenerM Nat := do
  match receipt.blockNumber with
  | none => throw (.authServer (.darkpoolClient "receipt has no block_number"))
  | some number =>
      let reply ← query fun t => self.getBlock t number
      let block ← ofAuth (reply.mapError .darkpoolClient)
      match block with
      | none => throw (.authServer (.darkpoolClient "block not found"))
      | some timestamp => pure (timestamp * 1000)

/-- The loop over the matches of the transaction, all with the nonce of the event. -/
def processMatches (nonce : U256) (receipt : Receipt) (settlementTime : Nat) :
    List (Match × Amount) → ListenerM Unit
  | [] => pure ()
  | (m, input) :: rest => do
      self.processExternalMatch m input nonce receipt settlementTime
      processMatches nonce receipt settlementTime rest

/-- Receipt, time of settlement and matches of a transaction. -/
def lookUp (tx : BitVec 256) : ListenerM (Receipt × Nat × List (Match × Amount)) := do
  let reply ← query fun t => self.getTransactionReceipt t tx
  match ← Effect.ofExcept (reply.mapError .darkpool) with
  | none => throw (.darkpool ("no receipt found for tx 0x" ++ tx.toHex))
  | some receipt =>
      let settlementTime ← self.getSettlementTimestamp receipt
      let found ← query fun t => self.findExternalMatchesInTx t tx
      let found ← Effect.ofExcept (found.mapError .darkpool)
      return (receipt, settlementTime, found)

def checkExternalMatchSettlement (nonce : U256) (tx : BitVec 256) : ListenerM Unit := do
  let found ← self.lookUp tx
  self.processMatches nonce found.1 found.2.1 found.2.2

/-! ## What a stage leaves alone, and what it records -/

section Notes

variable {α β : Type}

/-- The record is of this bundle and this match, and a refund in it is in the match's token. -/
def Describes (ctx : BundleContext) (settled : SettledMatch) (r : Recorded) : Prop :=
  r.bundle = ctx.bundleId ∧ r.settled = settled ∧
    ∀ info asset value, r.what = .sponsorship info asset value →
      asset = self.refundAsset info settled.matchResult

/-- The computation takes notes about this bundle and this match, and does nothing else to the
bundles and the refunds. -/
structure Notes (executor : Executor Match) (ctx : BundleContext) (settled : SettledMatch)
    (m : ListenerM α) : Prop where
  ledger : Keeps (fun s => (s.bundles, s.refunds, s.processed)) m
  notes : ∀ s, Appends ListenerState.recorded (executor.Describes ctx settled) m s

variable {self} {ctx : BundleContext} {settled : SettledMatch}

theorem Notes.bind {m : ListenerM α} {k : α → ListenerM β} (hm : self.Notes ctx settled m)
    (hk : ∀ a, self.Notes ctx settled (k a)) : self.Notes ctx settled (m >>= k) :=
  ⟨hm.ledger.bind fun a => (hk a).ledger,
    fun s => (hm.notes s).bind fun a s' _ => (hk a).notes s'⟩

/-- A computation that takes no notes at all. -/
theorem Notes.of_keeps {m : ListenerM α}
    (h : Keeps (fun s => ((s.bundles, s.refunds, s.processed), s.recorded)) m) :
    self.Notes ctx settled m :=
  ⟨h.comp Prod.fst, fun s => .of_keeps (h.comp Prod.snd) s⟩

theorem notes_pure (a : α) : self.Notes ctx settled (pure a) := .of_keeps (keeps_pure _ _)

theorem notes_throw (e : ListenerError) : self.Notes ctx settled (throw e : ListenerM α) :=
  .of_keeps (keeps_throw _ _)

theorem notes_query (answer : Nat → α) : self.Notes ctx settled (query answer) :=
  .of_keeps fun _ => rfl

theorem notes_ofAuth (x : Except AuthServerError α) : self.Notes ctx settled (ofAuth x) :=
  .of_keeps (keeps_ofExcept _ _)

theorem notes_put {what : Recording} (h : ∀ info asset value, what = .sponsorship info asset value →
      asset = self.refundAsset info settled.matchResult) :
    self.Notes ctx settled (put ctx settled what) := by
  refine ⟨fun _ => rfl, fun s => ⟨[⟨ctx.bundleId, settled, what⟩], rfl, fun r hr => ?_⟩⟩
  rw [List.mem_singleton.mp hr]
  exact ⟨rfl, rfl, h⟩

theorem notes_gauge (g : Gauge) : self.Notes ctx settled (put ctx settled (.gauge g)) :=
  notes_put fun _ _ _ h => by cases h

variable (self ctx settled)

theorem notes_spreadCost :
    self.Notes ctx settled (self.recordExternalMatchSpreadCost ctx settled) := by
  unfold recordExternalMatchSpreadCost
  refine (notes_ofAuth _).bind fun mints => (notes_query _).bind fun reply => ?_
  refine (notes_ofAuth _).bind fun price => (notes_ofAuth _).bind fun matchPrice => ?_
  exact notes_gauge _

theorem notes_settlementMetrics (receipt : Receipt) :
    self.Notes ctx settled (self.recordSettlementMetrics receipt ctx settled) := by
  unfold recordSettlementMetrics
  refine (notes_ofAuth _).bind fun mints => ?_
  exact (notes_gauge _).bind fun _ => notes_gauge _

theorem notes_gasSponsorshipMetrics (info : GasSponsorshipInfo) (refundAmount : U256)
    (value : Float) :
    self.Notes ctx settled
      (self.recordGasSponsorshipMetrics ctx settled info refundAmount value) := by
  unfold recordGasSponsorshipMetrics
  refine (notes_ofAuth _).bind fun ticker => (notes_ofAuth _).bind fun amount => ?_
  refine (notes_query _).bind fun reply => (notes_ofAuth _).bind fun estimate => ?_
  exact notes_gauge _

theorem notes_settledMatchSponsorship (receipt : Receipt) (info : GasSponsorshipInfo)
    (nonce : U256) :
    self.Notes ctx settled
      (self.recordSettledMatchSponsorship ctx settled receipt info nonce) := by
  unfold recordSettledMatchSponsorship
  refine (notes_query _).bind fun reply => (notes_ofAuth _).bind fun price => ?_
  dsimp only
  split
  · exact notes_throw _
  · refine (notes_query _).bind fun charged => (notes_ofAuth _).bind fun _ => ?_
    refine (notes_put fun info' asset value' h => ?_).bind fun _ =>
      notes_gasSponsorshipMetrics self ctx settled info _ _
    injection h with hinfo hasset _
    rw [← hinfo, ← hasset]

theorem notes_delays (settlementTime : Nat) :
    self.Notes ctx settled (self.recordDelays ctx settled settlementTime) := by
  unfold recordDelays
  split
  · exact notes_gauge _
  · exact (notes_gauge _).bind fun _ => (notes_gauge _).bind fun _ => notes_gauge _

end Notes

section Stages

variable {self} {job : Settling}

/-- **The stages in the middle only take notes.** -/
theorem notes_stage {st : Stage} (hr : st ≠ .refund) (hc : st ≠ .cleanup) :
    self.Notes job.ctx job.settled (self.stage job st) := by
  cases st with
  | refund => exact absurd rfl hr
  | spread => exact notes_spreadCost ..
  | metrics => exact notes_settlementMetrics ..
  | sponsor =>
      unfold stage
      dsimp only
      split
      · exact notes_settledMatchSponsorship ..
      · exact notes_pure _
  | cleanup => exact absurd rfl hc

variable (self)

/-- **The first stage refunds a token**, or fails without having done so, or with. -/
theorem exec_refund (job : Settling) (s : ListenerState) :
    let s₁ := { s with clock := s.clock + 1 }
    let s₂ := { s₁ with refunds := s.refunds ++ [job.ctx.bundleId] }
    exec (self.stage job .refund) s =
      match self.addBundleToken s.clock job.ctx.keyDescription with
      | .done => (.ok (), s₂)
      | .failed msg => (.error (.authServer (.redisConnection msg)), s₁)
      | .lost msg => (.error (.authServer (.redisConnection msg)), s₂) := by
  intro s₁ s₂
  show exec (self.addBundleRateLimitToken job.ctx) s = _
  rw [addBundleRateLimitToken, exec_bind, exec_query]
  cases self.addBundleToken s.clock job.ctx.keyDescription with
  | done | failed msg | lost msg => rfl

/-- **The last stage takes the bundle out of the store**, and cannot fail. -/
theorem exec_cleanup (job : Settling) (s : ListenerState) :
    ∃ recorded, exec (self.stage job .cleanup) s =
      (.ok (), { s with bundles := s.bundles.removeBundle job.ctx.bundleId, recorded }) := by
  show ∃ recorded, exec (modify _ >>= fun _ => self.recordDelays _ _ _) s = _
  rw [exec_bind, exec_modify]
  dsimp only
  unfold recordDelays
  cases job.ctx.assembledTimestamp with
  | none | some assembled => exact ⟨_, rfl⟩

/-- Looking a transaction up changes nothing. -/
theorem keeps_lookUp (tx : BitVec 256) :
    Keeps (fun s => ((s.bundles, s.refunds, s.processed), s.recorded)) (self.lookUp tx) := by
  have hquery : ∀ {α : Type} (answer : Nat → α), Keeps
      (fun s : ListenerState => ((s.bundles, s.refunds, s.processed), s.recorded))
      (query answer) := fun _ _ => rfl
  unfold lookUp
  refine (hquery _).bind fun reply => (keeps_ofExcept _ _).bind fun receipt => ?_
  cases receipt with
  | none => exact keeps_throw _ _
  | some receipt =>
      refine Keeps.bind ?_ fun time => (hquery _).bind fun found =>
        (keeps_ofExcept _ _).bind fun _ => keeps_pure _ _
      unfold getSettlementTimestamp
      cases receipt.blockNumber with
      | none => exact keeps_throw _ _
      | some number =>
          refine (hquery _).bind fun reply => (keeps_ofExcept _ _).bind fun block => ?_
          cases block with
          | none => exact keeps_throw _ _
          | some timestamp => exact keeps_pure _ _

/-- The matches a lookup gives are those the darkpool client found. -/
theorem lookUp_ok {tx : BitVec 256} {s s' : ListenerState}
    {found : Receipt × Nat × List (Match × Amount)}
    (h : exec (self.lookUp tx) s = (.ok found, s')) :
    ∃ t, self.findExternalMatchesInTx t tx = .ok found.2.2 := by
  unfold lookUp at h
  obtain ⟨reply, s₁, -, h⟩ := exec_bind_ok.mp h
  obtain ⟨receipt, s₂, -, h⟩ := exec_bind_ok.mp h
  cases receipt with
  | none => exact absurd h exec_throw_ne_ok
  | some receipt =>
      obtain ⟨time, s₃, -, h⟩ := exec_bind_ok.mp h
      obtain ⟨reply, s₄, hreply, h⟩ := exec_bind_ok.mp h
      obtain ⟨ms, s₅, hms, h⟩ := exec_bind_ok.mp h
      obtain ⟨rfl, -⟩ := exec_pure_ok.mp h
      rw [exec_query, Prod.mk.injEq, Except.ok.injEq] at hreply
      rw [exec_ofExcept, Prod.mk.injEq, ← hreply.1] at hms
      exact ⟨s₃.clock, mapError_ok.mp hms.1⟩

end Stages

/-! ## When a stage returns -/

section Answers

/-- The match is against USDC. -/
def TradesUsdc (m : ApiBoundedMatchResult) : Prop :=
  m.inputMint = self.usdc ∨ m.outputMint = self.usdc

/-- The mint that is not USDC. -/
def baseMint (m : ApiBoundedMatchResult) : Address :=
  if m.inputMint = self.usdc then m.outputMint else m.inputMint

/-- The decimals of USDC and of the token it is traded for are known. -/
def DecimalsKnown (m : ApiBoundedMatchResult) : Prop :=
  let base := self.baseMint m
  let native := self.addressToHexString base = self.nativeAssetAddress
  (∃ d, self.getDecimals (if native then self.nativeAssetWrapper else base) = some d) ∧
    ∃ d, self.getDecimals self.usdc = some d

/-- The calls for the sponsorship are answered, question `t` being the first; the refund is of
a known token and fits into 128 bits. -/
def SponsorshipAnswered (job : Settling) (t : Nat) (info : GasSponsorshipInfo) (nonce : U256) :
    Prop :=
  let asset := self.refundAsset info job.settled.matchResult
  let refund := self.getActualRefundAmount job.receipt nonce
  (∃ price value, self.getPriceUsd t (self.getAddr asset) = .ok price ∧
      self.decimalToF64 (refund.toNat * price) = some value ∧
      self.recordGasSponsorship (t + 1) job.ctx.keyDescription value = .ok ()) ∧
    (info.refundNativeEth = true ∨ ∃ ticker, self.getTicker asset = some ticker) ∧
    refund.toNat < 2 ^ 128 ∧ ∃ prices, self.sampleGasPrices (t + 2) = .ok prices

/-- The calls of the stage are answered, and what it is given is fit for it. -/
def Answered (job : Settling) (s : ListenerState) : Stage → Prop
  | .refund => self.addBundleToken s.clock job.ctx.keyDescription = .done
  | .spread =>
      let m := job.settled.matchResult
      self.TradesUsdc m ∧ self.DecimalsKnown m ∧
        ∃ price, self.getPrice s.clock (self.addressToHexString (self.baseMint m)) = .ok price
  | .metrics => self.TradesUsdc job.settled.matchResult
  | .sponsor => ∀ info nonce, job.ctx.gasSponsorshipInfo = some (info, nonce) →
      self.SponsorshipAnswered job s.clock info nonce
  | .cleanup => True

variable {self} {α : Type} {s : ListenerState}

theorem isOk_ofAuth_bind {x : Except AuthServerError α} {k : α → ListenerM Unit} :
    (exec (ofAuth x >>= k) s).1.isOk = true ↔ ∃ a, x = .ok a ∧ (exec (k a) s).1.isOk = true := by
  cases x with
  | ok a => exact ⟨fun h => ⟨a, rfl, h⟩, fun ⟨_, ha, h⟩ => Except.ok.inj ha ▸ h⟩
  | error e => exact iff_of_false Bool.false_ne_true fun ⟨_, ha, _⟩ => by cases ha

theorem isOk_query_bind {answer : Nat → α} {k : α → ListenerM Unit} :
    (exec (query answer >>= k) s).1.isOk = true ↔
      (exec (k (answer s.clock)) { s with clock := s.clock + 1 }).1.isOk = true := Iff.rfl

theorem isOk_put_bind {ctx : BundleContext} {settled : SettledMatch} {what : Recording}
    {m : ListenerM Unit} : (exec (put ctx settled what >>= fun _ => m) s).1.isOk = true ↔
      (exec m { s with recorded := s.recorded ++ [⟨ctx.bundleId, settled, what⟩] }).1.isOk =
        true := Iff.rfl

theorem pickBaseAndQuoteMints_iff {m : ApiBoundedMatchResult} {mints : Address × Address} :
    self.pickBaseAndQuoteMints m.inputMint m.outputMint = .ok mints ↔
      self.TradesUsdc m ∧ mints = (self.baseMint m, self.usdc) := by
  unfold pickBaseAndQuoteMints TradesUsdc baseMint
  by_cases hin : m.inputMint = self.usdc
  · simp [hin, eq_comm]
  · by_cases hout : m.outputMint = self.usdc
    · simp [hin, hout, eq_comm]
    · simp [hin, hout]

theorem decimalsOf_iff {token : Address} {d : Nat} :
    self.decimalsOf token = .ok d ↔ self.getDecimals token = some d := by
  unfold decimalsOf
  cases self.getDecimals token <;> simp

theorem calculateQuotePerBasePrice_iff {m : ApiBoundedMatchResult} (h : self.TradesUsdc m) :
    (∃ price, self.calculateQuotePerBasePrice m = .ok price) ↔ self.DecimalsKnown m := by
  simp only [calculateQuotePerBasePrice, bind_ok, pickBaseAndQuoteMints_iff, h, true_and,
    exists_eq_left, decimalsOf_iff, decide_eq_true_eq, DecimalsKnown]
  constructor
  · rintro ⟨_, d, hd, d', hd', -⟩
    exact ⟨⟨d, hd⟩, d', hd'⟩
  · rintro ⟨⟨d, hd⟩, d', hd'⟩
    exact ⟨_, d, hd, d', hd', rfl⟩

theorem gasSponsorshipMetrics_iff {ctx : BundleContext} {settled : SettledMatch}
    {info : GasSponsorshipInfo} {refund : U256} {value : Float} :
    (exec (self.recordGasSponsorshipMetrics ctx settled info refund value) s).1.isOk = true ↔
      (info.refundNativeEth = true ∨
        ∃ ticker, self.getTicker (self.refundAsset info settled.matchResult) = some ticker) ∧
      refund.toNat < 2 ^ 128 ∧ ∃ prices, self.sampleGasPrices s.clock = .ok prices := by
  have hticker : (∃ ticker, self.refundAssetTicker info
      (self.refundAsset info settled.matchResult) = .ok ticker) ↔ info.refundNativeEth = true ∨
        ∃ ticker, self.getTicker (self.refundAsset info settled.matchResult) = some ticker := by
    unfold refundAssetTicker
    cases info.refundNativeEth <;>
      cases self.getTicker (self.refundAsset info settled.matchResult) <;> simp
  have hamount : (∃ amount, self.refundAmountU128 refund = .ok amount) ↔
      refund.toNat < 2 ^ 128 := by
    unfold refundAmountU128
    by_cases h : refund.toNat < 2 ^ 128
    · rw [if_pos h]
      exact iff_of_true ⟨_, rfl⟩ h
    · rw [if_neg h]
      exact iff_of_false (fun ⟨_, he⟩ => by cases he) h
  rw [← hticker, ← hamount]
  simp only [recordGasSponsorshipMetrics, isOk_ofAuth_bind, isOk_query_bind, mapError_ok]
  constructor
  · rintro ⟨ticker, hticker, amount, hamount, prices, hprices, -⟩
    exact ⟨⟨ticker, hticker⟩, ⟨amount, hamount⟩, prices, hprices⟩
  · rintro ⟨⟨ticker, hticker⟩, ⟨amount, hamount⟩, prices, hprices⟩
    exact ⟨ticker, hticker, amount, hamount, prices, hprices, rfl⟩

theorem settledMatchSponsorship_iff {job : Settling} {info : GasSponsorshipInfo} {nonce : U256} :
    (exec (self.recordSettledMatchSponsorship job.ctx job.settled job.receipt info nonce)
      s).1.isOk = true ↔ self.SponsorshipAnswered job s.clock info nonce := by
  unfold recordSettledMatchSponsorship SponsorshipAnswered
  simp only [isOk_query_bind, isOk_ofAuth_bind, mapError_ok]
  constructor
  · rintro ⟨price, hprice, h⟩
    split at h
    · cases h
    · rename_i value hvalue
      rw [isOk_query_bind, isOk_ofAuth_bind] at h
      obtain ⟨u, hu, h⟩ := h
      rw [isOk_put_bind, gasSponsorshipMetrics_iff] at h
      exact ⟨⟨price, value, hprice, hvalue, hu⟩, h⟩
  · rintro ⟨⟨price, value, hprice, hvalue, hu⟩, hmetrics⟩
    refine ⟨price, hprice, ?_⟩
    rw [hvalue]
    dsimp only
    rw [isOk_query_bind, isOk_ofAuth_bind]
    refine ⟨(), hu, ?_⟩
    rw [isOk_put_bind, gasSponsorshipMetrics_iff]
    exact hmetrics

theorem isOk_stage_iff {job : Settling} {st : Stage} :
    (exec (self.stage job st) s).1.isOk = true ↔ self.Answered job s st := by
  cases st with
  | refund =>
      rw [exec_refund, Answered]
      cases self.addBundleToken s.clock job.ctx.keyDescription <;> simp [Except.isOk, Except.toBool]
  | spread =>
      simp only [stage, recordExternalMatchSpreadCost, isOk_ofAuth_bind, isOk_query_bind,
        pickBaseAndQuoteMints_iff, mapError_ok, Answered]
      constructor
      · rintro ⟨_, ⟨h, rfl⟩, price, hprice, hcalc⟩
        exact ⟨h, (calculateQuotePerBasePrice_iff h).mp (hcalc.imp fun _ h => h.1), price, hprice⟩
      · rintro ⟨h, hdecimals, price, hprice⟩
        obtain ⟨p, hp⟩ := (calculateQuotePerBasePrice_iff h).mpr hdecimals
        exact ⟨_, ⟨h, rfl⟩, price, hprice, p, hp, rfl⟩
  | metrics =>
      simp only [stage, recordSettlementMetrics, isOk_ofAuth_bind, pickBaseAndQuoteMints_iff,
        Answered]
      exact ⟨fun ⟨_, h, _⟩ => h.1, fun h => ⟨_, ⟨h, rfl⟩, rfl⟩⟩
  | sponsor =>
      unfold stage Answered
      cases job.ctx.gasSponsorshipInfo with
      | none => exact iff_of_true rfl fun _ _ h => by cases h
      | some p =>
         refine settledMatchSponsorship_iff.trans ⟨fun h _ _ heq => ?_, fun h => h _ _ rfl⟩
         cases heq
         exact h
  | cleanup =>
      obtain ⟨recorded, hrun⟩ := self.exec_cleanup job s
      rw [hrun]
      exact iff_of_true rfl trivial

end Answers

end Executor

end RelayerExtensions.Auth
