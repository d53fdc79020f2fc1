import Mathlib.Data.List.Infix
import RelayerExtensions.Auth.Refund

/-!
# The external match endpoints

`handle_quote_request` and `handle_assemble_match_bundle_request`
(`auth/auth-server/src/server/api_handlers/external_match`), from the bytes of the
request to the response and the tasks that are left running behind it.

The source is generic over the type of request; here the generic functions take a
`RequestType`, the methods of the source's trait together with the type's codec.
Contexts are passed along and returned where the source changes them in place.
Metrics and logging are left out: they change nothing the handlers read.
-/

namespace RelayerExtensions.Auth

open Effect

/-- `str::contains` -/
def textContains (s part : String) : Bool := decide (part.toList <:+: s.toList)

def HeaderMap.insert (headers : HeaderMap) (name value : String) : HeaderMap :=
  (name, some value) :: headers.filter (·.1 ≠ name)

def sdkVersionHeader : String := "x-renegade-sdk-version"

def sdkVersionDefault : String := "pre-v0.1.0"

def getSdkVersion (headers : HeaderMap) : String :=
  match headers.lookup sdkVersionHeader with
  | some value => value.getD ""
  | none => sdkVersionDefault

def shouldStringifyNumbers (headers : HeaderMap) : Bool :=
  (headers.text "accept").any (textContains · "number=string")

/-- `ExternalMatchRequestType` -/
structure RequestType (Req : Type) where
  deserialize : Bytes → Bool → Except String Req
  inputToken : Req → Address
  outputToken : Req → Address
  setFee : Req → Float → Req
  /-- The request as the relayer gets it. -/
  toRelayer : Req → RelayerRequest

def setFeeRate (options : ExternalMatchingEngineOptions) (fee : Float) :
    ExternalMatchingEngineOptions :=
  { options with relayerFeeRate := some fee }

def globalMatchingPool : String := "global"

/-- Set the pool of a request that is to be routed away from the quoters. -/
def routeTo (global : Bool) (options : ExternalMatchingEngineOptions) :
    ExternalMatchingEngineOptions :=
  if global then { options with matchingPool := some globalMatchingPool } else options

namespace Server

variable (self : Server)

def quoteType : RequestType ExternalQuoteRequest where
  deserialize := self.json.quoteRequest
  inputToken req := req.externalOrder.inputMint
  outputToken req := req.externalOrder.outputMint
  setFee req fee := { req with options := setFeeRate req.options fee }
  toRelayer := .quote

def assembleType : RequestType AssembleExternalMatchRequest where
  deserialize := self.json.assembleRequest
  inputToken req := (self.getExternalOrder req.order).inputMint
  outputToken req := (self.getExternalOrder req.order).outputMint
  setFee req fee := { req with options := setFeeRate req.options fee }
  toRelayer := .assemble

/-! ## Before the request is proxied -/

section Generic

variable {Req Resp : Type} (ty : RequestType Req)

def baseTicker (req : Req) : Except AuthServerError String := do
  let (baseMint, _) ← self.pickBaseAndQuoteMints (ty.inputToken req) (ty.outputToken req)
  match self.tokens.getTicker baseMint with
  | some ticker => return ticker
  | none =>
      throw (.badRequest ("Invalid base token: " ++ self.tokens.getAddr baseMint))

/-- A token the server knows about, or the native asset. -/
def validToken (token : Address) : Bool :=
  self.tokens.isNamed token || self.tokens.isNativeAsset token

def validateRequestBody (req : Req) : Except AuthServerError Unit := do
  let inputToken := ty.inputToken req
  let outputToken := ty.outputToken req
  if ¬ self.validToken inputToken then
    throw (.badRequest ("Invalid input token: " ++ self.tokens.getAddr inputToken))
  if ¬ self.validToken outputToken then
    throw (.badRequest ("Invalid output token: " ++ self.tokens.getAddr outputToken))
  if inputToken ≠ self.tokens.usdc ∧ outputToken ≠ self.tokens.usdc then
    throw (.badRequest "Either input or output token must be USDC")

/-- The key description and the key, if the request may be made. -/
def authorize (req : RawRequest) : ServerM (String × Uuid) := do
  let now ← ask self.now
  let db ← ask self.db
  onKeys (authorizeRequest self.auth now db req)

def setRelayerFee (ctx : RequestContext Req) : ServerM (RequestContext Req) := do
  let ticker ← lift (self.baseTicker ty ctx.body)
  let db ← ask self.db
  let userFee ← onFees (getUserFee db ctx.keyId ticker)
  return { ctx with body := ty.setFee ctx.body userFee }

def preprocessRequest (req : RawRequest) : ServerM (RequestContext Req) := do
  let (keyDesc, keyId) ← self.authorize req
  let body ← lift
    ((ty.deserialize req.body (shouldStringifyNumbers req.headers)).mapError .serde)
  lift (self.validateRequestBody ty body)
  let requestId ← ask self.newUuid
  self.setRelayerFee ty
    { path := req.path
      queryStr := req.queryStr
      user := keyDesc
      keyId
      sdkVersion := getSdkVersion req.headers
      headers := req.headers
      body
      sponsorshipInfo := none
      requestId }

def isRateLimitWhitelisted (keyId : Uuid) : ServerM Bool := do
  let db ← ask self.db
  let key ← onKeys (getApiKeyEntry db keyId)
  return key.rateLimitWhitelisted

def shouldRouteToGlobal (keyId : Uuid) (ticker : String) : ServerM Bool := do
  let limitExceeded ← ask (self.checkExecutionCostExceeded · ticker)
  let whitelisted ← self.isRateLimitWhitelisted keyId
  return limitExceeded && !whitelisted

/-! ## Proxying -/

def adminAuthDurationMs : Nat := 5000

/-- The headers of a proxied request: its length, the trace, and the admin authentication. -/
def adminHeaders (path : String) (headers : HeaderMap) (body : Bytes) : ServerM HeaderMap := do
  let headers := headers.insert "content-length" (toString body.length)
  let trace ← ask self.traceContext
  let headers := headers ++ trace
  let now ← ask self.now
  let headers := headers.insert "x-renegade-auth-expiration" (toString (now + adminAuthDurationMs))
  return headers.insert "x-renegade-auth" (self.adminSignature path headers body)

def sendAdminRequest (path : String) (headers : HeaderMap) (request : RelayerRequest)
    (body : Bytes) : ServerM (Nat × HeaderMap × Bytes) := do
  let headers ← self.adminHeaders path headers body
  let sent : Forwarded := { path, headers, request }
  modify fun w => { w with forwarded := w.forwarded ++ [sent] }
  match ← ask (self.relayer · sent) with
  | .unreachable msg => throw (.error (.custom msg))
  | .cutOff msg => throw (.error (.serde ("Failed to read response body: " ++ msg)))
  | .answered status headers body => return (status, headers, body)

/-- `ResponseContext::from_response`; the nonce is drawn whether or not it is used. -/
def fromResponse (status : Nat) (response : Option Resp) (ctx : RequestContext Req) :
    ServerM (ResponseContext Req Resp) := do
  let nonce ← ask self.randomU256
  return {
    path := ctx.path
    queryStr := ctx.queryStr
    user := ctx.user
    sdkVersion := ctx.sdkVersion
    headers := ctx.headers
    request := ctx.body
    status
    response
    sponsorshipInfoWithNonce := ctx.sponsorshipInfo.map (·, nonce)
    requestId := ctx.requestId }

/-- The body of a 200 has to be a response; other bodies are not looked at. -/
def readResponse (parse : Bytes → Except String Resp) (status : Nat) (body : Bytes) :
    Except AuthServerError (Option Resp) :=
  if status = statusOk then ((parse body).mapError .serde).map some else .ok none

/-- The relayer's response, as it came and as a context. -/
def forwardRequest (parse : Bytes → Except String Resp) (ctx : RequestContext Req) :
    ServerM (BytesResponse × ResponseContext Req Resp) := do
  let request := ty.toRelayer ctx.body
  let bodyBytes ← lift ((self.json.toVec request).mapError .serde)
  let (status, headers, body) ← self.sendAdminRequest ctx.path ctx.headers request bodyBytes
  let response ← lift (readResponse parse status body)
  let respCtx ← self.fromResponse status response ctx
  return (⟨status, headers, .raw body⟩, respCtx)

end Generic

def overwriteResponseBody (resp : BytesResponse) (body : Body) :
    Except AuthServerError BytesResponse := do
  let bytes ← (self.json.serialize body).mapError .serde
  return { resp with
    headers := resp.headers.insert "content-length" (toString bytes.length)
    body }

/-- `response()`, which unwraps. -/
def responseOf {Req Resp : Type} (ctx : ResponseContext Req Resp) : ServerM Resp :=
  match ctx.response with
  | some resp => pure resp
  | none => throw (.panic "called unwrap on a None value")

/-! ## The quote endpoint -/

abbrev QuoteRequestCtx := RequestContext ExternalQuoteRequest

abbrev QuoteResponseCtx := ResponseContext ExternalQuoteRequest ExternalQuoteResponse

def routeQuoteReq (ctx : QuoteRequestCtx) : ServerM QuoteRequestCtx := do
  let ticker ← lift (self.baseTicker self.quoteType ctx.body)
  let global ← self.shouldRouteToGlobal ctx.keyId ticker
  return { ctx with body := { ctx.body with options := routeTo global ctx.body.options } }

def sponsorQuoteRequest (ctx : QuoteRequestCtx) :
    ServerM (QuoteRequestCtx × GasSponsorshipInfo) := do
  let (order, g) ← self.maybeSponsorOrder ctx.body.externalOrder ctx
  return ({ ctx with body := { ctx.body with externalOrder := order } }, g)

def quotePreRequest (ctx : QuoteRequestCtx) : ServerM QuoteRequestCtx := do
  -- both limits are checked before either is looked at
  let quoteRes ← ask (self.consumeQuoteRateLimitToken · ctx.keyId ctx.user)
  let bundleRes ← ask (self.peekBundleRateLimit · ctx.keyId ctx.user)
  if !quoteRes.isOk || !bundleRes.isOk then throw (.error .noMatchFound)
  let ctx ← self.routeQuoteReq ctx
  let (ctx, g) ← self.sponsorQuoteRequest ctx
  return { ctx with sponsorshipInfo := some g }

def sponsorResponse (ctx : QuoteResponseCtx) :
    ServerM (SponsoredQuoteResponse × Option CachedSponsorshipInfo) := do
  let resp ← responseOf ctx
  match ctx.sponsorshipInfoWithNonce with
  | none => return (⟨resp.signedQuote, none⟩, none)
  | some (g, _) => lift (constructSponsoredQuoteResponse self.fp resp g)

def quotePostRequest (resp : BytesResponse) (ctx : QuoteResponseCtx) : ServerM BytesResponse := do
  if ¬ ctx.isSuccess then return resp
  let (sponsoredResp, cachedInfo) ← self.sponsorResponse ctx
  let stringify := shouldStringifyNumbers ctx.headers
  let resp ← lift (self.overwriteResponseBody resp (.quote sponsoredResp stringify))
  spawn (.quoteMetrics (ctx.withResponse sponsoredResp) cachedInfo)
  return resp

def handleQuoteRequest (req : RawRequest) : ServerM BytesResponse := do
  let ctx ← self.preprocessRequest self.quoteType req
  let ctx ← self.quotePreRequest ctx
  let (rawResp, ctx) ← self.forwardRequest self.quoteType self.json.quoteResponse ctx
  self.quotePostRequest rawResp ctx

/-! ## The assembly endpoint -/

abbrev AssembleMatchRequestCtx := RequestContext AssembleExternalMatchRequest

abbrev ExternalMatchResponseCtx :=
  ResponseContext AssembleExternalMatchRequest ExternalMatchResponse

def routeAssemblyReq (ctx : AssembleMatchRequestCtx) : ServerM AssembleMatchRequestCtx := do
  let ticker ← lift (self.baseTicker self.assembleType ctx.body)
  let global ← self.shouldRouteToGlobal ctx.keyId ticker
  return { ctx with body := { ctx.body with options := routeTo global ctx.body.options } }

/-- Take the cached sponsorship out of the quote, and work it into the updated order. -/
def unsponsorQuote (cached : CachedSponsorshipInfo) (signedQuote : ApiSignedQuote)
    (updatedOrder : Option ExternalOrder) :
    Except AuthServerError (ApiSignedQuote × Option ExternalOrder) := do
  let g := cached.gasSponsorshipInfo
  let quote ←
    if g.requiresMatchResultUpdate then removeGasSponsorshipFromQuote signedQuote.quote cached
    else pure signedQuote.quote
  let updatedOrder ←
    match updatedOrder with
    | some order => some <$> updateExactOutput applyGasSponsorshipToExactOutputAmount order g
    | none => pure none
  return ({ signedQuote with quote }, updatedOrder)

/-- The order to forward, and the sponsorship cached with the quote, or none at all. -/
def sponsorQuotedOrder (signedQuote : ApiSignedQuote) (updatedOrder : Option ExternalOrder) :
    ServerM (ExternalMatchAssemblyType × GasSponsorshipInfo) := do
  let redisKey := self.generateQuoteUuid signedQuote
  -- an error of the cache is as good as a miss
  let cachedInfo := (← self.readSponsorshipInfoFromRedis redisKey).toOption.join
  match cachedInfo with
  | none => return (.quotedOrder signedQuote updatedOrder, .zero)
  | some cached =>
      let (signedQuote, updatedOrder) ← lift (unsponsorQuote cached signedQuote updatedOrder)
      return (.quotedOrder signedQuote updatedOrder, cached.gasSponsorshipInfo)

def sponsorDirectOrder (ctx : AssembleMatchRequestCtx) (externalOrder : ExternalOrder) :
    ServerM (ExternalMatchAssemblyType × GasSponsorshipInfo) := do
  let (order, g) ← self.maybeSponsorOrder externalOrder ctx
  return (.directOrder order, g)

def sponsorAssemblyRequest (ctx : AssembleMatchRequestCtx) :
    ServerM (AssembleMatchRequestCtx × GasSponsorshipInfo) := do
  let (order, g) ←
    match ctx.body.order with
    | .quotedOrder signedQuote updatedOrder => self.sponsorQuotedOrder signedQuote updatedOrder
    | .directOrder externalOrder => self.sponsorDirectOrder ctx externalOrder
  return ({ ctx with body := { ctx.body with order } }, g)

def assemblyPreRequest (ctx : AssembleMatchRequestCtx) : ServerM AssembleMatchRequestCtx := do
  let bundleRes ← ask (self.consumeBundleRateLimitToken · ctx.keyId ctx.user)
  if !bundleRes.isOk then throw (.error .noMatchFound)
  let ctx ← self.routeAssemblyReq ctx
  let (ctx, g) ← self.sponsorAssemblyRequest ctx
  return { ctx with sponsorshipInfo := some g }

def sponsorMatchResponse (ctx : ExternalMatchResponseCtx) : ServerM SponsoredMatchResponse := do
  let resp ← responseOf ctx
  match ctx.sponsorshipInfoWithNonce with
  | none => return ⟨resp.matchBundle, none⟩
  | some (g, nonce) =>
      Effect.ofExcept (self.toSponsor.constructSponsoredMatchResponse resp g nonce)

def assemblyPostRequest (resp : BytesResponse) (ctx : ExternalMatchResponseCtx) :
    ServerM BytesResponse := do
  if ¬ ctx.isSuccess then return resp
  let sponsoredResp ← self.sponsorMatchResponse ctx
  let stringify := shouldStringifyNumbers ctx.headers
  let resp ← lift (self.overwriteResponseBody resp (.bundle sponsoredResp stringify))
  spawn (.assemblyMetrics (ctx.withResponse sponsoredResp))
  return resp

def handleAssembleMatchBundleRequest (req : RawRequest) : ServerM BytesResponse := do
  let ctx ← self.preprocessRequest self.assembleType req
  let ctx ← self.assemblyPreRequest ctx
  let (rawResp, ctx) ← self.forwardRequest self.assembleType self.json.matchResponse ctx
  self.assemblyPostRequest rawResp ctx

/-! ## Spawned tasks -/

def errNoNonce : String := "No sponsorship nonce found"

/-- The nonce of the sponsorship is the id of the bundle. -/
def writeBundleContext (priceTimestamp : Nat) (assembledTimestamp : Option Nat)
    (ctx : SponsoredExternalMatchResponseCtx) : ServerM U256 := do
  match ctx.sponsorshipInfoWithNonce with
  | none => throw (.error (.gasSponsorship errNoNonce))
  | some (g, bundleId) =>
      let bundleCtx : BundleContext :=
        { keyDescription := ctx.user
          bundleId
          requestId := ctx.requestId
          sdkVersion := ctx.sdkVersion
          gasSponsorshipInfo := some (g, bundleId)
          isSponsored := true
          priceTimestamp
          assembledTimestamp }
      modify fun w => { w with bundles := Function.update w.bundles bundleId (some bundleCtx) }
      return bundleId

/-- What a task does besides recording metrics; an error is logged and goes nowhere. -/
def runJob : Job → ServerM Unit
  | .quoteMetrics ctx cachedInfo => do
      match cachedInfo with
      | none => return ()
      | some info =>
          let resp ← responseOf ctx
          self.cacheQuoteGasSponsorshipInfo resp info
  | .assemblyMetrics ctx => do
      let now ← ask self.now
      match ctx.request.order with
      | .quotedOrder signedQuote _ =>
          discard (writeBundleContext signedQuote.quote.price.timestamp (some now) ctx)
      | .directOrder _ =>
          discard (writeBundleContext now none ctx)

end Server

end RelayerExtensions.Auth
