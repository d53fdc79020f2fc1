import RelayerExtensions.Auth.ExternalMatch

/-!
# The RFQT quote endpoint

`handle_rfqt_quote_request` (`api_handlers/connectors/rfqt`). An RFQT request is
turned into requests of the external match API. By default (malleable calldata) that
is a quote and then the assembly of the quoted order; a client that opts out gets a
single assembly of a direct order. Either way the client sees an RFQT response made
from the match bundle.
-/

namespace RelayerExtensions.Auth

open Effect

def getExternalMatchQuoteRoute : String := "/v2/external-matches/get-quote"

def assembleMatchBundleRoute : String := "/v2/external-matches/assemble-match-bundle"

def deadlineOffsetSeconds : Nat := 70

/-- There is no permit to sign. -/
def rfqtSignature : String := "0x0"

def shouldUseMalleableCalldata (queryStr : String) : Bool :=
  !textContains queryStr "malleableCalldata=false"

/-! ## Requests -/

def transformRfqtToExternalOrder (req : RfqtQuoteRequest) : ExternalOrder where
  inputMint := req.takerToken
  outputMint := req.makerToken
  inputAmount := req.takerAmount.getD 0
  outputAmount := req.makerAmount.getD 0
  useExactOutputAmount := req.makerAmount.isSome
  minFillSize :=
    if req.makerAmount.isSome || req.partialFillAllowed then 0 else req.takerAmount.getD 0

def createQuoteRequest (req : RfqtQuoteRequest) : ExternalQuoteRequest where
  externalOrder := transformRfqtToExternalOrder req
  options := default

def createDirectMatchRequest (req : RfqtQuoteRequest) :
    Except AuthServerError AssembleExternalMatchRequest :=
  match Address.parse req.taker with
  | none => .error (.badRequest "Invalid taker address")
  | some receiverAddress => .ok {
      doGasEstimation := false
      receiverAddress := some receiverAddress
      order := .directOrder (transformRfqtToExternalOrder req)
      options := default }

/-- The assembly of a quote, in a context of its own: the options start over. -/
def transformQuoteToAssembleMalleableCtx (quote : SponsoredQuoteResponse)
    (reqCtx : RequestContext ExternalQuoteRequest) :
    RequestContext AssembleExternalMatchRequest where
  path := assembleMatchBundleRoute
  queryStr := reqCtx.queryStr
  user := reqCtx.user
  sdkVersion := reqCtx.sdkVersion
  headers := reqCtx.headers
  body :=
    { doGasEstimation := false
      receiverAddress := none
      order := .quotedOrder quote.signedQuote none
      options := default }
  requestId := reqCtx.requestId
  keyId := reqCtx.keyId
  sponsorshipInfo := none

inductive RequestContextVariant where
  | malleable (ctx : RequestContext ExternalQuoteRequest)
  | direct (ctx : RequestContext AssembleExternalMatchRequest)

namespace Server

variable (self : Server)

/-! ## Responses -/

def amountText (a : Amount) : String := toString a.toNat

/-- `build_rfqt_quote_response`, of a bundle; prices and bounds only with malleable calldata. -/
def buildRfqtQuoteResponse (rfqt : RfqtQuoteRequest) (bundle : BoundedExternalMatchApiBundle)
    (maker : String) (calldata : Bytes) (malleable : Bool) (now : Nat) : RfqtQuoteResponse :=
  let whenMalleable {α : Type} (x : α) : Option α := if malleable then some x else none
  { order :=
      { permitted :=
          { token := self.tokens.addressToHexString bundle.matchResult.outputMint
            amount := amountText bundle.maxReceive.amount }
        spender := rfqt.spender
        nonce := rfqt.nonce
        deadline := toString (now / 1000 + deadlineOffsetSeconds)
        consideration :=
          { token := self.tokens.addressToHexString bundle.matchResult.inputMint
            amount := amountText bundle.maxSend.amount
            counterparty := rfqt.taker
            partialFillAllowed := rfqt.partialFillAllowed } }
    signature := rfqtSignature
    feeToken := self.tokens.addressToHexString rfqt.feeToken
    feeAmountBps := self.f64ToString rfqt.feeAmountBps
    feeTokenConversionRate := self.f64ToString rfqt.feeTokenConversionRate
    maker
    calldata
    price := whenMalleable (self.fp.toF64 bundle.matchResult.priceFp)
    maxTakerReceive := whenMalleable bundle.maxReceive.amount
    minTakerReceive := whenMalleable bundle.minReceive.amount
    maxTakerSend := whenMalleable bundle.maxSend.amount
    minTakerSend := whenMalleable bundle.minSend.amount }

def transformMatchBundleToRfqtResponse (bundle : BoundedExternalMatchApiBundle)
    (rfqt : RfqtQuoteRequest) (malleable : Bool) (now : Nat) :
    Except AuthServerError RfqtQuoteResponse := do
  match bundle.settlementTx.to with
  | some (.call addr) =>
      match bundle.calldata with
      | some calldata =>
          return self.buildRfqtQuoteResponse rfqt bundle addr.format calldata malleable now
      | none => throw (.serde "Missing settlement transaction input")
  | _ => throw (.serde "Missing maker address in settlement transaction")

/-! ## The handler -/

/-- Set up the context of a transformed request: checked, and with the fee of the key. -/
def rfqtContext {Req : Type} (ty : RequestType Req) (path : String) (req : RawRequest)
    (keyDesc : String) (keyId : Uuid) (body : Req) : ServerM (RequestContext Req) := do
  lift (self.validateRequestBody ty body)
  let requestId ← ask self.newUuid
  self.setRelayerFee ty
    { path
      queryStr := req.queryStr
      user := keyDesc
      keyId
      sdkVersion := getSdkVersion req.headers
      headers := req.headers
      body
      sponsorshipInfo := none
      requestId }

def rfqtPreRequest (req : RawRequest) : ServerM (RequestContextVariant × RfqtQuoteRequest) := do
  let (keyDesc, keyId) ← self.authorize req
  let rfqRequest ← lift ((self.json.rfqtRequest req.body false).mapError .serde)
  if shouldUseMalleableCalldata req.queryStr then
    let ctx ← self.rfqtContext self.quoteType getExternalMatchQuoteRoute req keyDesc keyId
      (createQuoteRequest rfqRequest)
    return (.malleable ctx, rfqRequest)
  else
    let assembleRequest ← lift (createDirectMatchRequest rfqRequest)
    let ctx ← self.rfqtContext self.assembleType assembleMatchBundleRoute req keyDesc keyId
      assembleRequest
    return (.direct ctx, rfqRequest)

/-- `rfqt_post_request_malleable` and `rfqt_post_request_direct`. -/
def rfqtPostRequest (malleable : Bool) (req : RfqtQuoteRequest) (resp : BytesResponse)
    (ctx : ExternalMatchResponseCtx) : ServerM BytesResponse := do
  if ¬ ctx.isSuccess then return resp
  let matchResp ← responseOf ctx
  let now ← ask self.now
  let rfqtResponse ← lift
    (self.transformMatchBundleToRfqtResponse matchResp.matchBundle req malleable now)
  lift (self.overwriteResponseBody resp (.rfqt rfqtResponse true))

def rfqtPostRequestMalleable := self.rfqtPostRequest true

def rfqtPostRequestDirect := self.rfqtPostRequest false

/-- `sponsor_rfqt_quote_response`, which does what the quote endpoint does. -/
def sponsorRfqtQuoteResponse := self.sponsorResponse

def handleQuoteAndAssemble (quoteReqCtx : QuoteRequestCtx) (rfqtRequest : RfqtQuoteRequest) :
    ServerM BytesResponse := do
  let quoteReqCtx ← self.quotePreRequest quoteReqCtx
  let (quoteRawResp, quoteRespCtx) ←
    self.forwardRequest self.quoteType self.json.quoteResponse quoteReqCtx
  if ¬ quoteRespCtx.isSuccess then return quoteRawResp
  let (sponsoredQuote, cachedInfo) ← self.sponsorRfqtQuoteResponse quoteRespCtx
  -- not left to a task here: the assembly is about to read it
  match cachedInfo with
  | some info => self.cacheQuoteGasSponsorshipInfo sponsoredQuote info
  | none => pure ()
  let assembleReqCtx := transformQuoteToAssembleMalleableCtx sponsoredQuote quoteReqCtx
  let assembleReqCtx ← self.assemblyPreRequest assembleReqCtx
  let (assembleRawResp, assembleRespCtx) ←
    self.forwardRequest self.assembleType self.json.matchResponse assembleReqCtx
  let assembleRes ← self.assemblyPostRequest assembleRawResp assembleRespCtx
  self.rfqtPostRequestMalleable rfqtRequest assembleRes assembleRespCtx

def handleDirectMatch (ctx : AssembleMatchRequestCtx) (req : RfqtQuoteRequest) :
    ServerM BytesResponse := do
  let ctx ← self.assemblyPreRequest ctx
  let (rawResp, respCtx) ← self.forwardRequest self.assembleType self.json.matchResponse ctx
  let res ← self.assemblyPostRequest rawResp respCtx
  self.rfqtPostRequestDirect req res respCtx

def handleRfqtQuoteRequest (req : RawRequest) : ServerM BytesResponse := do
  let (ctx, rfqtRequest) ← self.rfqtPreRequest req
  match ctx with
  | .malleable quoteCtx => self.handleQuoteAndAssemble quoteCtx rfqtRequest
  | .direct assembleCtx => self.handleDirectMatch assembleCtx rfqtRequest

/-! ## All endpoints that reach the relayer -/

inductive Endpoint where
  | quote
  | assemble
  | rfqt
deriving DecidableEq

def handle (endpoint : Endpoint) (req : RawRequest) : ServerM BytesResponse :=
  match endpoint with
  | .quote => self.handleQuoteRequest req
  | .assemble => self.handleAssembleMatchBundleRequest req
  | .rfqt => self.handleRfqtQuoteRequest req

end Server

/-! ## A deployment to run the model with

Token 2 is USDC and token 1 is WETH. A client buys 10 of token 1 and fixes that amount; gas
costs 3, so an in-kind refund is 3 and the relayer is asked for 7, which it quotes and
settles for 5 of token 2. -/

section Deployment

def buyOrder : ExternalOrder where
  inputMint := 2
  outputMint := 1
  inputAmount := 0
  outputAmount := 10
  useExactOutputAmount := true
  minFillSize := 0

def settledBundle : BoundedExternalMatchApiBundle where
  matchResult := ⟨2, 1, ⟨2 ^ 63⟩, 5, 5⟩
  feeRates := ⟨⟨0⟩, ⟨0⟩⟩
  maxReceive := ⟨1, 7⟩
  minReceive := ⟨1, 7⟩
  maxSend := ⟨2, 5⟩
  minSend := ⟨2, 5⟩
  settlementTx := ⟨some (.call 6), ⟨some (encodeSettle ⟨5, 4, [], []⟩), none⟩, [7]⟩
  deadline := 0

def buyRfqt : RfqtQuoteRequest where
  chainId := 1
  makerToken := 1
  takerToken := 2
  takerAmount := none
  makerAmount := some 10
  taker := Address.format 4
  nonce := "1"
  partialFillAllowed := false
  spender := "0x5"
  zid := "zid"
  appId := "app"
  feeToken := 2
  feeAmountBps := 0
  feeTokenConversionRate := 1

/-- The quote the client is shown when the refund is in kind. -/
def sponsoredQuote : ApiSignedQuote :=
  match constructSponsoredQuoteResponse plainFixedPoint sampleQuoteResponse inKindInfo with
  | .ok (res, _) => res.signedQuote
  | .error _ => sampleQuoteResponse.signedQuote

/-- An assembly body is empty for the direct order, and else tells which quote is meant. -/
def readAssembly : Bytes → ExternalMatchAssemblyType
  | [] => .directOrder buyOrder
  | [1] => .quotedOrder sampleQuoteResponse.signedQuote none
  | _ => .quotedOrder sponsoredQuote none

def plainJson : JsonLib where
  quoteRequest _ _ := .ok ⟨buyOrder, { relayerFeeRate := some 0 }⟩
  assembleRequest body _ := .ok ⟨false, none, readAssembly body, { relayerFeeRate := some 0 }⟩
  rfqtRequest _ _ := .ok buyRfqt
  quoteResponse _ := .ok sampleQuoteResponse
  matchResponse _ := .ok ⟨settledBundle⟩
  toVec _ := .ok []
  serialize _ := .ok []
  queryParams s := .ok
    { useGasSponsorship := none
      disableGasSponsorship := none
      refundAddress := if s = "refund_address=9" then some (Address.format 9) else none
      refundNativeEth := some (decide (s = "refund_native_eth=true")) }

/-- Everything answers, and as hoped for. -/
def calmServices : Services where
  now _ := 0
  db _ := .ok ()
  redis _ := .ok ()
  consumeQuoteRateLimitToken _ _ _ := .ok ()
  peekBundleRateLimit _ _ _ := .ok ()
  consumeBundleRateLimitToken _ _ _ := .ok ()
  checkGasSponsorshipRateLimit _ _ := .ok true
  checkExecutionCostExceeded _ _ := false
  getPrice _ _ := .ok 1
  getEthPrice _ := .ok 1
  getPriceUsd _ _ := .ok 1
  getGasCostEstimate _ := 3
  relayer _ _ := .answered 200 [] []
  randomU256 _ := 77
  newUuid _ := 5
  traceContext _ := []

def plainServer : Server where
  fp := plainFixedPoint
  abi := plainAbi
  signMessage _ := .ok []
  gasSponsorAddress := 8
  chainId := 1
  toServices := calmServices
  auth := ⟨fun _ => some 1, .ok, fun _ => .ok [], fun _ _ _ _ _ => .ok ()⟩
  tokens :=
    { usdc := 2
      getTicker := fun a => if a = 1 then some "WETH" else none
      isNamed := fun _ => true
      isNativeAsset := fun _ => false
      getAddr := Address.format
      addressToHexString := Address.format
      wethAddr := Address.format 1
      nativeAssetAddress := ""
      usdcToDecimal := fun _ => 1
      getProtocolFee := fun _ _ => ⟨0⟩ }
  json := plainJson
  decimal := ⟨fun _ => some 1, fun a b => a / b, fun a => a.num, fun _ => ""⟩
  minSponsoredOrderQuoteAmount := 0
  keccak256 _ := 0
  refundTooLarge _ := ""
  getExternalOrder
    | .quotedOrder signed updated => updated.getD signed.quote.order
    | .directOrder order => order
  adminSignature _ _ _ := ""
  f64ToString _ := ""

/-- One key, with the default fee. -/
def plainState : ServerState where
  clock := 0
  keys := ⟨[⟨1, "secret", "desk", true, false⟩], fun _ => none⟩
  fees := ⟨fun _ _ => none, fun _ => none, fun _ _ => none⟩
  sponsorships _ := none
  bundles _ := none
  forwarded := []
  spawned := []

def plainRequest (queryStr : String) (body : Bytes) : RawRequest :=
  ⟨"/", queryStr, [(renegadeApiKeyHeader, some "1")], body⟩

end Deployment

end RelayerExtensions.Auth
