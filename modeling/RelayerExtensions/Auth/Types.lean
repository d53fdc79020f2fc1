import RelayerExtensions.Lib.Hex
import RelayerExtensions.Auth.Basic

/-!
# Orders, quotes, bundles and gas sponsorship

The API types of the external match endpoints, as far as the server looks into them
or passes them on, and the sponsorship types of `auth/auth-server-api/src/lib.rs`.

Amounts are `u128` and wrap around, as they do in a release build. Fixed-point
numbers come from a library: only their representation is known here, and the
operations on them are in `FixedPointLib`.
-/

namespace RelayerExtensions.Auth

abbrev Address := BitVec 160

abbrev U256 := BitVec 256

/-- A `u128` token amount. -/
abbrev Amount := BitVec 128

namespace Address

/-- `Address::ZERO` -/
def zero : Address := 0

/-- `format!("{:#x}", address)` -/
def format (a : Address) : String := Hex.format 40 a.toNat

/-- `s.parse::<Address>()` -/
def parse (s : String) : Option Address := (Hex.parse 40 s).map (BitVec.ofNat 160)

theorem parse_format (a : Address) : parse a.format = some a := by
  have hlt : a.toNat < 16 ^ 40 := a.isLt
  unfold parse format
  rw [Hex.parse_format hlt, Option.map_some, BitVec.ofNat_toNat, BitVec.setWidth_eq]

/-- An optional address in text: the zero address if there is none or it is malformed. -/
def parseOrZero (s : Option String) : Address := (s.bind parse).getD zero

end Address

/-! ## Fixed-point numbers -/

structure FixedPoint where
  repr : Nat
deriving DecidableEq

/-- The fixed-point operations of the circuit library. -/
structure FixedPointLib where
  /-- `from_integer_ratio`; the denominator must not be zero. -/
  fromIntegerRatio : Amount → Amount → FixedPoint
  fromF64RoundDown : Float → FixedPoint
  toF64 : FixedPoint → Float
  zero : FixedPoint
  one : FixedPoint
  add : FixedPoint → FixedPoint → FixedPoint
  sub : FixedPoint → FixedPoint → FixedPoint
  /-- `self >= other` -/
  ge : FixedPoint → FixedPoint → Bool
  /-- `scalar_to_u128(&(self * amount).floor())` -/
  mulFloor : FixedPoint → Amount → Amount
  /-- `scalar_to_u128(&self.floor_div_int(amount))` -/
  floorDivInt : FixedPoint → Amount → Amount

/-! ## Orders and quotes -/

structure ExternalOrder where
  inputMint : Address
  outputMint : Address
  inputAmount : Amount
  outputAmount : Amount
  useExactOutputAmount : Bool
  minFillSize : Amount
deriving DecidableEq

/-- An amount of one token that changes hands. -/
structure ApiExternalAssetTransfer where
  mint : Address
  amount : Amount
deriving DecidableEq

structure ApiTimestampedPriceFp where
  price : FixedPoint
  timestamp : Nat
deriving DecidableEq

structure ApiTimestampedPrice where
  price : Float
  timestamp : Nat

structure ApiExternalMatchResult where
  inputMint : Address
  outputMint : Address
  inputAmount : Amount
  outputAmount : Amount
  priceFp : ApiTimestampedPriceFp
deriving DecidableEq

structure FeeTake where
  relayerFee : Amount
  protocolFee : Amount
deriving DecidableEq

structure ApiExternalQuote where
  order : ExternalOrder
  matchResult : ApiExternalMatchResult
  fees : FeeTake
  send : ApiExternalAssetTransfer
  receive : ApiExternalAssetTransfer
  price : ApiTimestampedPrice
  timestamp : Nat

/-- A quote with the relayer's signature over it. -/
structure ApiSignedQuote where
  quote : ApiExternalQuote
  signature : Bytes
  deadline : Nat

/-! ## Match bundles -/

inductive TxKind where
  | create
  | call (address : Address)
deriving DecidableEq

/-- Calldata under its new name, its old name, or both. -/
structure TransactionInput where
  input : Option Bytes
  data : Option Bytes
deriving DecidableEq

/-- `TransactionInput::input`: the calldata that counts. -/
def TransactionInput.effective (i : TransactionInput) : Option Bytes := i.input.or i.data

structure TransactionRequest where
  «to» : Option TxKind
  input : TransactionInput
  /-- The sender, value, gas and fees, nonce, access list and so on: nothing looks at them. -/
  rest : Bytes
deriving DecidableEq

structure ApiBoundedMatchResult where
  inputMint : Address
  outputMint : Address
  priceFp : FixedPoint
  minInputAmount : Amount
  maxInputAmount : Amount
deriving DecidableEq

structure FeeTakeRate where
  relayerFeeRate : FixedPoint
  protocolFeeRate : FixedPoint
deriving DecidableEq

structure BoundedExternalMatchApiBundle where
  matchResult : ApiBoundedMatchResult
  feeRates : FeeTakeRate
  maxReceive : ApiExternalAssetTransfer
  minReceive : ApiExternalAssetTransfer
  maxSend : ApiExternalAssetTransfer
  minSend : ApiExternalAssetTransfer
  settlementTx : TransactionRequest
  deadline : Nat
deriving DecidableEq

/-- The calldata of the bundle's transaction. -/
def BoundedExternalMatchApiBundle.calldata (b : BoundedExternalMatchApiBundle) : Option Bytes :=
  b.settlementTx.input.effective

/-! ## Requests to the relayer and its responses -/

/-- `default` is what a caller gets who sets nothing. -/
structure ExternalMatchingEngineOptions where
  relayerFeeRate : Option Float := none
  matchingPool : Option String := none
deriving Inhabited

structure ExternalQuoteRequest where
  externalOrder : ExternalOrder
  options : ExternalMatchingEngineOptions

inductive ExternalMatchAssemblyType where
  | quotedOrder (signedQuote : ApiSignedQuote) (updatedOrder : Option ExternalOrder)
  | directOrder (externalOrder : ExternalOrder)

structure AssembleExternalMatchRequest where
  doGasEstimation : Bool
  receiverAddress : Option Address
  order : ExternalMatchAssemblyType
  options : ExternalMatchingEngineOptions

structure ExternalQuoteResponse where
  signedQuote : ApiSignedQuote

structure ExternalMatchResponse where
  matchBundle : BoundedExternalMatchApiBundle
deriving DecidableEq

/-! ## Gas sponsorship -/

/-- Metadata regarding gas sponsorship for a quote. -/
structure GasSponsorshipInfo where
  refundAmount : Amount
  refundNativeEth : Bool
  refundAddress : Option String
deriving DecidableEq

namespace GasSponsorshipInfo

/-- `GasSponsorshipInfo::new`; `tooLarge` is the library's text for a refund above `u128`. -/
def new (tooLarge : U256 → String) (refundAmount : U256) (refundNativeEth : Bool)
    (refundAddress : Address) : Except String GasSponsorshipInfo :=
  if refundAmount.toNat < 2 ^ 128 then
    .ok
      { refundAmount := refundAmount.setWidth 128
        refundNativeEth
        refundAddress :=
          if refundAddress = Address.zero then none else some refundAddress.format }
  else .error (tooLarge refundAmount)

def zero : GasSponsorshipInfo where
  refundAmount := 0
  refundNativeEth := false
  refundAddress := none

/-- Whether the refund changes what the external party receives. -/
def requiresMatchResultUpdate (g : GasSponsorshipInfo) : Bool :=
  !g.refundNativeEth && decide (0 < g.refundAmount)

def getRefundAmount (g : GasSponsorshipInfo) : U256 := g.refundAmount.setWidth 256

def getRefundAddress (g : GasSponsorshipInfo) : Address := Address.parseOrZero g.refundAddress

/-- The address an info is made for is the one read from it. -/
theorem getRefundAddress_new {tooLarge : U256 → String} {amount : U256} {native : Bool}
    {address : Address} {g : GasSponsorshipInfo} (h : new tooLarge amount native address = .ok g) :
    g.getRefundAddress = address := by
  unfold new at h
  split at h
  · cases h
    unfold getRefundAddress Address.parseOrZero
    by_cases hz : address = Address.zero
    · simp [hz]
    · simp [hz, Address.parse_format]
  · cases h

end GasSponsorshipInfo

structure GasSponsorshipQueryParams where
  useGasSponsorship : Option Bool
  disableGasSponsorship : Option Bool
  refundAddress : Option String
  refundNativeEth : Option Bool
deriving DecidableEq

namespace GasSponsorshipQueryParams

def getRefundAddress (p : GasSponsorshipQueryParams) : Address :=
  Address.parseOrZero p.refundAddress

/-- Whether sponsorship is disabled, the refund address, and whether to refund native ETH. -/
def getOrDefault (p : GasSponsorshipQueryParams) : Bool × Address × Bool :=
  (p.disableGasSponsorship.getD false, p.getRefundAddress, p.refundNativeEth.getD false)

end GasSponsorshipQueryParams

/-- Sponsorship info with what has to be restored of the quote it was applied to. -/
structure CachedSponsorshipInfo where
  gasSponsorshipInfo : GasSponsorshipInfo
  originalPrice : Float
  originalPriceFp : ApiTimestampedPriceFp

structure SponsoredQuoteResponse where
  signedQuote : ApiSignedQuote
  gasSponsorshipInfo : Option GasSponsorshipInfo

structure SponsoredMatchResponse where
  matchBundle : BoundedExternalMatchApiBundle
  gasSponsorshipInfo : Option GasSponsorshipInfo
deriving DecidableEq

/-! ## RFQT (`auth/auth-server-api/src/rfqt.rs`) -/

structure RfqtQuoteRequest where
  chainId : Nat
  makerToken : Address
  takerToken : Address
  takerAmount : Option Amount
  makerAmount : Option Amount
  taker : String
  nonce : String
  partialFillAllowed : Bool
  spender : String
  zid : String
  appId : String
  feeToken : Address
  feeAmountBps : Float
  feeTokenConversionRate : Float

structure TokenAmount where
  token : String
  amount : String
deriving DecidableEq

structure Consideration where
  token : String
  amount : String
  counterparty : String
  partialFillAllowed : Bool
deriving DecidableEq

structure OrderDetails where
  permitted : TokenAmount
  spender : String
  nonce : String
  deadline : String
  consideration : Consideration
deriving DecidableEq

structure RfqtQuoteResponse where
  order : OrderDetails
  signature : String
  feeToken : String
  feeAmountBps : String
  feeTokenConversionRate : String
  maker : String
  calldata : Bytes
  price : Option Float
  maxTakerReceive : Option Amount
  minTakerReceive : Option Amount
  maxTakerSend : Option Amount
  minTakerSend : Option Amount

/-! ## How a handler stops -/

/-- A handler that does not return stops with an error, or panics. -/
inductive Abort where
  | error (err : AuthServerError)
  | panic (msg : String)
deriving DecidableEq

/-- An `AuthServerError` passed on with `?`. -/
def orAbort {α : Type} (x : Except AuthServerError α) : Except Abort α := x.mapError .error

end RelayerExtensions.Auth
