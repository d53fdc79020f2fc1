import RelayerExtensions.Auth.Server

/-!
# How much to refund

The refund of an order is the gas its settlement is expected to cost, converted to
the token it is paid in (`refund_calculation.rs`, `generate_sponsorship_info`).
Orders that are too small, keys over their budget and clients that opt out get a
refund of zero. `maybe_sponsor_order` (`api_handlers/mod.rs`) then takes the refund
off an order that fixes its output.
-/

namespace RelayerExtensions.Auth

open Effect

namespace Server

variable (self : Server)

/-! ## Pricing an order -/

/-- The base and the quote mint of a pair, one of which has to be USDC. -/
def pickBaseAndQuoteMints (inputMint outputMint : Address) :
    Except AuthServerError (Address × Address) :=
  if inputMint = self.tokens.usdc then .ok (outputMint, inputMint)
  else if outputMint = self.tokens.usdc then .ok (inputMint, outputMint)
  else .error (.badRequest "Either input or output mint must be USDC")

/-- The output amount before fees are taken, for an order that fixes what is left after them. -/
def feeAdjustedOutputAmount (order : ExternalOrder) (relayerFee : FixedPoint) :
    Except AuthServerError Amount := do
  if ¬ order.useExactOutputAmount then return order.outputAmount
  let (baseMint, quoteMint) ← self.pickBaseAndQuoteMints order.inputMint order.outputMint
  let totalFee := self.fp.add (self.tokens.getProtocolFee baseMint quoteMint) relayerFee
  if self.fp.ge totalFee self.fp.one then
    throw (.custom "total fee >= 100%, cannot compute fee-adjusted amount")
  return self.fp.floorDivInt (self.fp.sub self.fp.one totalFee) order.outputAmount

def errPriceZero : String :=
  "price is zero (or rounds to zero), cannot compute base/quote amounts"

def getBaseAndQuoteAmountWithPrice (order : ExternalOrder) (relayerFee : FixedPoint)
    (price : Float) : Except AuthServerError (Amount × Amount) := do
  let priceFp := self.fp.fromF64RoundDown price
  if priceFp = self.fp.zero then throw (.custom errPriceZero)
  let (baseMint, quoteMint) ← self.pickBaseAndQuoteMints order.inputMint order.outputMint
  if baseMint = order.inputMint ∧ order.inputAmount ≠ 0 then
    let baseAmount := order.inputAmount
    return (baseAmount, self.fp.mulFloor priceFp baseAmount)
  else if baseMint = order.outputMint ∧ order.outputAmount ≠ 0 then
    let baseAmount ← self.feeAdjustedOutputAmount order relayerFee
    return (baseAmount, self.fp.mulFloor priceFp baseAmount)
  else if quoteMint = order.inputMint ∧ order.inputAmount ≠ 0 then
    let quoteAmount := order.inputAmount
    return (self.fp.floorDivInt priceFp quoteAmount, quoteAmount)
  else
    let quoteAmount ← self.feeAdjustedOutputAmount order relayerFee
    return (self.fp.floorDivInt priceFp quoteAmount, quoteAmount)

/-- The result is kept as a value: one of its errors is not passed on. -/
def getQuoteAmount (order : ExternalOrder) (relayerFee : FixedPoint) :
    ServerM (Except AuthServerError Amount) := do
  let getPrice ← ask self.getPrice
  return do
    let (baseMint, _) ← self.pickBaseAndQuoteMints order.inputMint order.outputMint
    let price ← (getPrice (self.tokens.addressToHexString baseMint)).mapError .priceReporter
    let (_, quoteAmount) ← self.getBaseAndQuoteAmountWithPrice order relayerFee price
    return quoteAmount

/-! ## The refund -/

def alloyWeiInEther : U256 := 1000000000000000000

def errPriceBigdecimalConversion : String := "failed to convert price to BigDecimal"

/-- `U256::try_from` on an integer. -/
def toU256 (n : ℤ) : Except AuthServerError U256 :=
  if 0 ≤ n ∧ n < 2 ^ 256 then .ok (BitVec.ofInt 256 n)
  else .error (.gasSponsorship (self.decimal.notU256 n))

/-- Units of the refund asset per ETH. -/
def computeConversionRateForOrder (order : ExternalOrder) (refundNativeEth : Bool) :
    ServerM U256 := do
  let buyMint := self.tokens.addressToHexString order.outputMint
  if refundNativeEth ∨ buyMint = self.tokens.nativeAssetAddress ∨ buyMint = self.tokens.wethAddr
  then return alloyWeiInEther
  let ethPriceF64 ← lift ((← ask self.getEthPrice).mapError .priceReporter)
  match self.decimal.fromF64 ethPriceF64 with
  | none => throw (.error (.gasSponsorship errPriceBigdecimalConversion))
  | some ethPrice =>
      let getPriceUsd ← ask self.getPriceUsd
      let buyTokenPrice ← lift ((getPriceUsd buyMint).mapError .priceReporter)
      if buyTokenPrice = 0 then throw (.panic "Division by zero")
      lift (self.toU256 (self.decimal.round (self.decimal.div ethPrice buyTokenPrice)))

def computeRefundAmountForOrder (order : ExternalOrder) (refundNativeEth : Bool) :
    ServerM U256 := do
  let conversionRate ← self.computeConversionRateForOrder order refundNativeEth
  let estimatedGasCost ← ask self.getGasCostEstimate
  return estimatedGasCost * conversionRate / alloyWeiInEther

def generateSponsorshipInfo (keyDesc : String) (order : ExternalOrder)
    (queryParams : GasSponsorshipQueryParams) : ServerM GasSponsorshipInfo := do
  let (sponsorshipDisabled, refundAddress, refundNativeEth) := queryParams.getOrDefault
  let checkRateLimit ← ask self.checkGasSponsorshipRateLimit
  let withinLimit ← lift (checkRateLimit keyDesc)
  match ← self.getQuoteAmount order self.fp.zero with
  -- without a price stream there is nothing to convert with
  | .error (.priceReporter (.streamMissing _)) => return .zero
  | .error e => throw (.error e)
  | .ok expectedQuoteAmount =>
      let orderTooSmall : Bool :=
        self.tokens.usdcToDecimal expectedQuoteAmount < self.minSponsoredOrderQuoteAmount
      if !withinLimit || sponsorshipDisabled || orderTooSmall then return .zero
      let refundAmount ← self.computeRefundAmountForOrder order refundNativeEth
      lift ((GasSponsorshipInfo.new self.refundTooLarge refundAmount refundNativeEth
        refundAddress).mapError .gasSponsorship)

/-- The order to forward, and the sponsorship it gets. -/
def maybeSponsorOrder {Req : Type} (order : ExternalOrder) (ctx : RequestContext Req) :
    ServerM (ExternalOrder × GasSponsorshipInfo) := do
  let queryParams ← lift ((self.json.queryParams ctx.queryStr).mapError .serde)
  let g ← self.generateSponsorshipInfo ctx.user order queryParams
  let order ← lift (updateExactOutput applyGasSponsorshipToExactOutputAmount order g)
  return (order, g)

/-! ## Only questions are asked -/

section Frame

variable {self}

theorem keeps_getQuoteAmount (order : ExternalOrder) (relayerFee : FixedPoint) :
    Keeps ServerState.traces (self.getQuoteAmount order relayerFee) :=
  (keeps_ask _).bind fun _ => keeps_pure _ _

theorem keeps_computeConversionRate (order : ExternalOrder) (native : Bool) :
    Keeps ServerState.traces (self.computeConversionRateForOrder order native) := by
  unfold computeConversionRateForOrder
  dsimp only
  split
  · exact keeps_pure _ _
  · refine (keeps_ask _).bind fun _ => (keeps_lift _).bind fun _ => ?_
    split
    · exact keeps_throw _ _
    · refine (keeps_ask _).bind fun _ => (keeps_lift _).bind fun _ => ?_
      split
      · exact (keeps_throw _ _).bind fun _ => keeps_lift _
      · exact keeps_lift _

theorem keeps_computeRefundAmount (order : ExternalOrder) (native : Bool) :
    Keeps ServerState.traces (self.computeRefundAmountForOrder order native) :=
  (keeps_computeConversionRate order native).bind fun _ =>
    (keeps_ask _).bind fun _ => keeps_pure _ _

theorem keeps_generateSponsorshipInfo (keyDesc : String) (order : ExternalOrder)
    (queryParams : GasSponsorshipQueryParams) :
    Keeps ServerState.traces (self.generateSponsorshipInfo keyDesc order queryParams) := by
  unfold generateSponsorshipInfo
  refine (keeps_ask _).bind fun _ => (keeps_lift _).bind fun _ =>
    (keeps_getQuoteAmount _ _).bind fun amount => ?_
  split
  · exact keeps_pure _ _
  · exact keeps_throw _ _
  · dsimp only
    split
    · exact keeps_pure _ _
    · exact (keeps_computeRefundAmount _ _).bind fun _ => keeps_lift _

theorem keeps_maybeSponsorOrder {Req : Type} (order : ExternalOrder) (ctx : RequestContext Req) :
    Keeps ServerState.traces (self.maybeSponsorOrder order ctx) :=
  (keeps_lift _).bind fun _ => (keeps_generateSponsorshipInfo _ _ _).bind fun _ =>
    (keeps_lift _).bind fun _ => keeps_pure _ _

end Frame

/-! ## Where a refund goes -/

/-- The info is that of no refund, or it refunds the way the client asked for. -/
def FromQuery (queryParams : GasSponsorshipQueryParams) (g : GasSponsorshipInfo) : Prop :=
  g = .zero ∨
    g.getRefundAddress = queryParams.getRefundAddress ∧
      g.refundNativeEth = queryParams.refundNativeEth.getD false

theorem fromQuery_new {queryParams : GasSponsorshipQueryParams} {tooLarge : U256 → String}
    {amount : U256} {g : GasSponsorshipInfo}
    (h : GasSponsorshipInfo.new tooLarge amount (queryParams.refundNativeEth.getD false)
      queryParams.getRefundAddress = .ok g) : FromQuery queryParams g := by
  refine Or.inr ⟨GasSponsorshipInfo.getRefundAddress_new h, ?_⟩
  unfold GasSponsorshipInfo.new at h
  split at h
  · injection h with h
    rw [← h]
  · cases h

variable {self}

theorem generateSponsorshipInfo_ok {keyDesc : String} {order : ExternalOrder}
    {queryParams : GasSponsorshipQueryParams} {g : GasSponsorshipInfo} {w w' : ServerState}
    (h : exec (self.generateSponsorshipInfo keyDesc order queryParams) w = (.ok g, w')) :
    FromQuery queryParams g := by
  unfold generateSponsorshipInfo at h
  rw [exec_ask_bind] at h
  obtain ⟨within, -, h⟩ := exec_lift_bind_ok.mp h
  obtain ⟨amount, w₁, -, h⟩ := exec_bind_ok.mp h
  dsimp only at h
  split at h
  · exact Or.inl (exec_pure_ok.mp h).1.symm
  · exact absurd h exec_throw_ne_ok
  · split at h
    · exact Or.inl (exec_pure_ok.mp h).1.symm
    · obtain ⟨refund, w₂, -, h⟩ := exec_bind_ok.mp h
      exact fromQuery_new (mapError_ok.mp (exec_lift_ok.mp h).1)

theorem maybeSponsorOrder_ok {Req : Type} {order order' : ExternalOrder} {ctx : RequestContext Req}
    {g : GasSponsorshipInfo} {w w' : ServerState}
    (h : exec (self.maybeSponsorOrder order ctx) w = (.ok (order', g), w')) :
    (∃ queryParams, self.json.queryParams ctx.queryStr = .ok queryParams ∧
      FromQuery queryParams g) ∧
    updateExactOutput applyGasSponsorshipToExactOutputAmount order g = .ok order' := by
  unfold maybeSponsorOrder at h
  obtain ⟨queryParams, hq, h⟩ := exec_lift_bind_ok.mp h
  obtain ⟨g₁, w₁, hg, h⟩ := exec_bind_ok.mp h
  obtain ⟨order₁, horder, h⟩ := exec_lift_bind_ok.mp h
  obtain ⟨hp, -⟩ := exec_pure_ok.mp h
  cases hp
  exact ⟨⟨queryParams, mapError_ok.mp hq, generateSponsorshipInfo_ok hg⟩, horder⟩

variable (self)

/-! ## The cached infos -/

/-- A command that Redis may fail. -/
def onRedis {α : Type} (m : ServerM α) : ServerM α := do
  match ← ask self.redis with
  | .ok () => m
  | .error msg => throw (.error (.redisConnection msg))

/-- The first half of the hash of the signature. -/
def generateQuoteUuid (signedQuote : ApiSignedQuote) : Uuid :=
  (self.keccak256 signedQuote.signature).extractLsb' 128 128

/-- Two commands: the value, then its expiry. -/
def writeSponsorshipInfoToRedis (key : Uuid) (info : CachedSponsorshipInfo) : ServerM Unit := do
  self.onRedis (modify fun w =>
    { w with sponsorships := Function.update w.sponsorships key (some info) })
  self.onRedis (pure ())

/-- The result is kept as a value: the caller drops its error. -/
def readSponsorshipInfoFromRedis (key : Uuid) :
    ServerM (Except AuthServerError (Option CachedSponsorshipInfo)) := do
  match ← ask self.redis with
  | .ok () => return .ok (← look (·.sponsorships key))
  | .error msg => return .error (.redisConnection msg)

def cacheQuoteGasSponsorshipInfo (res : SponsoredQuoteResponse) (info : CachedSponsorshipInfo) :
    ServerM Unit :=
  self.writeSponsorshipInfoToRedis (self.generateQuoteUuid res.signedQuote) info

end Server

end RelayerExtensions.Auth
