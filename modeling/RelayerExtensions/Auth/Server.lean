import Mathlib.Algebra.Group.Int.Defs
import Mathlib.Data.Rat.Defs
import RelayerExtensions.Auth.Fees
import RelayerExtensions.Auth.Sponsorship

/-!
# The server, its state and what it talks to

A handler works on a `ServerState`: the key and fee stores, the sponsorship infos in
Redis, the bundle store, and two logs, of the requests sent to the relayer and of
the tasks spawned. `Server` is the container of the source (`server/mod.rs`) with
the library code the handlers call.

Everything outside the process may answer in any way at any time. `Services` has
its answers, by the number of questions asked so far: `ask` puts the next one. So a
statement about every `Services` is a statement about every behaviour of the
database, Redis, the rate limiters, the price reporter, the relayer and the clock.

A handler stops with an error or a panic (`Abort`); what it did before stays done.
-/

namespace RelayerExtensions.Auth

open Effect

/-! ## Contexts -/

structure RequestContext (Req : Type) where
  path : String
  queryStr : String
  user : String
  keyId : Uuid
  sdkVersion : String
  headers : HeaderMap
  body : Req
  sponsorshipInfo : Option GasSponsorshipInfo
  requestId : Uuid

/-- `response` is `none` where the relayer did not answer with a 200. -/
structure ResponseContext (Req Resp : Type) where
  path : String
  queryStr : String
  user : String
  sdkVersion : String
  headers : HeaderMap
  request : Req
  status : Nat
  response : Option Resp
  sponsorshipInfoWithNonce : Option (GasSponsorshipInfo × U256)
  requestId : Uuid

def statusOk : Nat := 200

def ResponseContext.isSuccess {Req Resp : Type} (ctx : ResponseContext Req Resp) : Bool :=
  ctx.status = statusOk

def ResponseContext.withResponse {Req Resp Resp' : Type} (ctx : ResponseContext Req Resp)
    (resp : Resp') : ResponseContext Req Resp' :=
  { ctx with response := some resp }

/-! ## Responses and requests on the wire -/

/-- A body: bytes as the relayer sent them, or a value rendered as JSON, with its numbers as
strings or not. -/
inductive Body where
  | raw (bytes : Bytes)
  | quote (resp : SponsoredQuoteResponse) (stringify : Bool)
  | bundle (resp : SponsoredMatchResponse) (stringify : Bool)
  | rfqt (resp : RfqtQuoteResponse) (stringify : Bool)

structure BytesResponse where
  status : Nat
  headers : HeaderMap
  body : Body

inductive RelayerRequest where
  | quote (req : ExternalQuoteRequest)
  | assemble (req : AssembleExternalMatchRequest)

def RelayerRequest.options : RelayerRequest → ExternalMatchingEngineOptions
  | .quote req => req.options
  | .assemble req => req.options

/-- A POST to the relayer's admin API. -/
structure Forwarded where
  path : String
  headers : HeaderMap
  request : RelayerRequest

/-- How the relayer answers: not at all, not to the end, or with a status, headers and bytes. -/
inductive RelayerReply where
  | unreachable (msg : String)
  | cutOff (msg : String)
  | answered (status : Nat) (headers : HeaderMap) (body : Bytes)

/-! ## State -/

structure BundleContext where
  keyDescription : String
  bundleId : U256
  requestId : Uuid
  sdkVersion : String
  gasSponsorshipInfo : Option (GasSponsorshipInfo × U256)
  isSponsored : Bool
  priceTimestamp : Nat
  assembledTimestamp : Option Nat
deriving DecidableEq

abbrev SponsoredQuoteResponseCtx := ResponseContext ExternalQuoteRequest SponsoredQuoteResponse

abbrev SponsoredExternalMatchResponseCtx :=
  ResponseContext AssembleExternalMatchRequest SponsoredMatchResponse

/-- What `tokio::spawn` is called with. -/
inductive Job where
  | quoteMetrics (ctx : SponsoredQuoteResponseCtx) (cached : Option CachedSponsorshipInfo)
  | assemblyMetrics (ctx : SponsoredExternalMatchResponseCtx)

structure ServerState where
  /-- The number of questions asked. -/
  clock : Nat
  keys : KeyStore
  fees : FeeStore
  /-- The sponsorship infos in Redis that have not expired. -/
  sponsorships : Uuid → Option CachedSponsorshipInfo
  bundles : U256 → Option BundleContext
  forwarded : List Forwarded
  spawned : List Job

abbrev ServerM (α : Type) := Effect Abort ServerState α

/-- Use an `AuthServerError` value with `?`. -/
def lift {α : Type} (x : Except AuthServerError α) : ServerM α := Effect.ofExcept (orAbort x)

/-- Put the next question. -/
def ask {α : Type} (answer : Nat → α) : ServerM α := do
  let t ← look (·.clock)
  modify fun w => { w with clock := w.clock + 1 }
  return answer t

def onKeys {α : Type} (m : KeyM α) : ServerM α :=
  zoom ServerState.keys (fun w keys => { w with keys }) .error m

def onFees {α : Type} (m : FeeM α) : ServerM α :=
  zoom ServerState.fees (fun w fees => { w with fees }) .error m

def spawn (job : Job) : ServerM Unit := modify fun w => { w with spawned := w.spawned ++ [job] }

/-! ## What a handler leaves behind

Most steps of a handler ask questions and fill the caches of keys and fees. What others can
see of a call afterwards is the rest of the world. -/

structure Traces where
  sponsorships : Uuid → Option CachedSponsorshipInfo
  bundles : U256 → Option BundleContext
  forwarded : List Forwarded
  spawned : List Job

def ServerState.traces (w : ServerState) : Traces :=
  ⟨w.sponsorships, w.bundles, w.forwarded, w.spawned⟩

section Frame

variable {α : Type} {x : Except AuthServerError α}

@[simp] theorem exec_lift (x : Except AuthServerError α) (w : ServerState) :
    exec (lift x) w = (orAbort x, w) := exec_ofExcept ..

@[simp] theorem exec_ask (answer : Nat → α) (w : ServerState) :
    exec (ask answer) w = (.ok (answer w.clock), { w with clock := w.clock + 1 }) := rfl

theorem exec_ask_bind {β : Type} (answer : Nat → α) (k : α → ServerM β) (w : ServerState) :
    exec (ask answer >>= k) w = exec (k (answer w.clock)) { w with clock := w.clock + 1 } := by
  rw [exec_bind, exec_ask]

theorem orAbort_ok {a : α} : orAbort x = .ok a ↔ x = .ok a :=
  mapError_ok

/-- A value that `?` let through. -/
theorem exec_lift_ok {a : α} {w w' : ServerState} :
    exec (lift x) w = (.ok a, w') ↔ x = .ok a ∧ w' = w := by
  rw [exec_lift, Prod.mk.injEq, orAbort_ok, eq_comm (a := w)]

theorem exec_lift_bind_ok {β : Type} {k : α → ServerM β} {b : β} {w w' : ServerState} :
    exec (lift x >>= k) w = (.ok b, w') ↔ ∃ a, x = .ok a ∧ exec (k a) w = (.ok b, w') := by
  rw [exec_bind_ok]
  constructor
  · rintro ⟨a, w₁, hlift, hk⟩
    obtain ⟨hx, hw⟩ := exec_lift_ok.mp hlift
    exact ⟨a, hx, hw ▸ hk⟩
  · rintro ⟨a, hx, hk⟩
    exact ⟨a, w, exec_lift_ok.mpr ⟨hx, rfl⟩, hk⟩

theorem keeps_lift (x : Except AuthServerError α) : Keeps ServerState.traces (lift x) :=
  keeps_ofExcept _ _

theorem keeps_ask (answer : Nat → α) : Keeps ServerState.traces (ask answer) := fun _ => rfl

theorem keeps_onKeys (m : KeyM α) : Keeps ServerState.traces (onKeys m) := by
  refine keeps_zoom ?_ _ _
  intro w keys
  rfl

theorem keeps_onFees (m : FeeM α) : Keeps ServerState.traces (onFees m) := by
  refine keeps_zoom ?_ _ _
  intro w fees
  rfl

end Frame

/-! ## Library code and services -/

/-- `renegade_types_core::Token`; a token is its address on the server's chain. -/
structure TokenLib where
  usdc : Address
  getTicker : Address → Option String
  isNamed : Address → Bool
  isNativeAsset : Address → Bool
  getAddr : Address → String
  addressToHexString : Address → String
  /-- `Token::from_ticker("WETH").get_addr()` -/
  wethAddr : String
  /-- `NATIVE_ASSET_ADDRESS.to_lowercase()` -/
  nativeAssetAddress : String
  /-- `Token::usdc().convert_to_decimal` -/
  usdcToDecimal : Amount → Float
  getProtocolFee : Address → Address → FixedPoint

/-- Serialization; errors are the library's texts. -/
structure JsonLib where
  /-- `json_deserialize`, with numbers as strings or not. -/
  quoteRequest : Bytes → Bool → Except String ExternalQuoteRequest
  assembleRequest : Bytes → Bool → Except String AssembleExternalMatchRequest
  rfqtRequest : Bytes → Bool → Except String RfqtQuoteRequest
  quoteResponse : Bytes → Except String ExternalQuoteResponse
  matchResponse : Bytes → Except String ExternalMatchResponse
  /-- `serde_json::to_vec` -/
  toVec : RelayerRequest → Except String Bytes
  /-- `json_serialize`, which also takes the form of the numbers. -/
  serialize : Body → Except String Bytes
  /-- `serde_urlencoded::from_str` -/
  queryParams : String → Except String GasSponsorshipQueryParams

/-- `BigDecimal`, as rational numbers; division rounds to the library's precision. -/
structure DecimalLib where
  fromF64 : Float → Option ℚ
  div : ℚ → ℚ → ℚ
  round : ℚ → ℤ
  /-- The text for an integer that is not a `U256`. -/
  notU256 : ℤ → String

/-- The answers from outside, by the number of the question. -/
structure Services where
  /-- Milliseconds. -/
  now : Nat → Nat
  db : Nat → DbReply
  redis : Nat → Except String Unit
  consumeQuoteRateLimitToken : Nat → Uuid → String → Except AuthServerError Unit
  peekBundleRateLimit : Nat → Uuid → String → Except AuthServerError Unit
  consumeBundleRateLimitToken : Nat → Uuid → String → Except AuthServerError Unit
  checkGasSponsorshipRateLimit : Nat → String → Except AuthServerError Bool
  checkExecutionCostExceeded : Nat → String → Bool
  getPrice : Nat → String → Except PriceReporterClientError Float
  getEthPrice : Nat → Except PriceReporterClientError Float
  getPriceUsd : Nat → String → Except PriceReporterClientError ℚ
  getGasCostEstimate : Nat → U256
  relayer : Nat → Forwarded → RelayerReply
  /-- `U256::random` -/
  randomU256 : Nat → U256
  /-- `Uuid::new_v4` -/
  newUuid : Nat → Uuid
  traceContext : Nat → HeaderMap

structure Server extends Sponsor, Services where
  auth : AuthLib
  tokens : TokenLib
  json : JsonLib
  decimal : DecimalLib
  minSponsoredOrderQuoteAmount : Float
  keccak256 : Bytes → BitVec 256
  /-- The text for a refund above `u128`. -/
  refundTooLarge : U256 → String
  /-- `get_external_order_ref` -/
  getExternalOrder : ExternalMatchAssemblyType → ExternalOrder
  /-- `create_request_signature` with the relayer's admin key, in base 64. -/
  adminSignature : String → HeaderMap → Bytes → String
  /-- `f64::to_string` -/
  f64ToString : Float → String

end RelayerExtensions.Auth
