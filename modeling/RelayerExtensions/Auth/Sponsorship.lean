import RelayerExtensions.Lib.Codec
import RelayerExtensions.Auth.Types

/-!
# Applying gas sponsorship, and taking it back

The pure half of `auth/auth-server/src/server/gas_sponsorship`: how a refund is
worked into an order, a quote and a match bundle (`refund_calculation.rs`), the
calldata that makes the contract pay it (`contract_interaction.rs`), and the two
responses the server builds from the relayer's (`mod.rs`).

A refund that is paid in the token the external party receives (in kind) changes
what the party receives, so quotes and bundles are updated. The relayer signed the
quote as it was before the update. When the quote comes back for assembly the
update is undone, from what the server cached, and `quote_restored` says that this
gives back what was signed.

The calls are ABI encoded by library code. `Abi` holds its functions and
`Abi.Lawful` the two facts about them that matter: decoding undoes encoding, and
calldata of one function is not calldata of the other.
-/

namespace RelayerExtensions.Auth

/-- `x as f64`, rounding to nearest. -/
def u128AsF64 (x : Amount) : Float := .ofModel (Float.Model.ofNat x.toNat)

/-! ## Exact output amounts -/

/-- Change the output amount of an order that fixes it. -/
def adjustExactOutput (f : Amount → Amount) (order : ExternalOrder) :
    Except AuthServerError ExternalOrder :=
  if order.useExactOutputAmount then .ok { order with outputAmount := f order.outputAmount }
  else .error (.custom "order does not use exact output amount")

def requiresExactOutputAmountUpdate (order : ExternalOrder) (g : GasSponsorshipInfo) : Bool :=
  order.useExactOutputAmount && g.requiresMatchResultUpdate

/-- The relayer is to match less, by the refund. -/
def applyGasSponsorshipToExactOutputAmount (order : ExternalOrder) (g : GasSponsorshipInfo) :
    Except AuthServerError ExternalOrder :=
  adjustExactOutput (· - g.refundAmount) order

/-- Back to what the client asked for. -/
def removeGasSponsorshipFromExactOutputAmount (order : ExternalOrder) (g : GasSponsorshipInfo) :
    Except AuthServerError ExternalOrder :=
  adjustExactOutput (· + g.refundAmount) order

/-- Apply a change to the order where the refund calls for one. -/
def updateExactOutput
    (change : ExternalOrder → GasSponsorshipInfo → Except AuthServerError ExternalOrder)
    (order : ExternalOrder) (g : GasSponsorshipInfo) : Except AuthServerError ExternalOrder :=
  if requiresExactOutputAmountUpdate order g then change order g else .ok order

/-! ## Quotes -/

def errInputAmountZero : String :=
  "cannot update sponsored quote price_fp: input_amount is zero"

/-- The updated quote, and the price it had before. -/
def applyGasSponsorshipToQuote (fp : FixedPointLib) (quote : ApiExternalQuote)
    (g : GasSponsorshipInfo) : Except AuthServerError (ApiExternalQuote × Float) := do
  let originalPrice := quote.price.price
  let inputAmount := quote.matchResult.inputAmount
  let outputAmount := quote.matchResult.outputAmount + g.refundAmount
  let price := u128AsF64 outputAmount / u128AsF64 inputAmount
  if inputAmount = 0 then throw (.gasSponsorship errInputAmountZero)
  let order ← updateExactOutput removeGasSponsorshipFromExactOutputAmount quote.order g
  let priceFp := { quote.matchResult.priceFp with
    price := fp.fromIntegerRatio outputAmount inputAmount }
  let updated := { quote with
    order
    matchResult := { quote.matchResult with outputAmount, priceFp }
    receive := { quote.receive with amount := quote.receive.amount + g.refundAmount }
    price := { quote.price with price } }
  return (updated, originalPrice)

/-- The prices are restored from the cache, the amounts by subtraction. -/
def removeGasSponsorshipFromQuote (quote : ApiExternalQuote) (cached : CachedSponsorshipInfo) :
    Except AuthServerError ApiExternalQuote := do
  let g := cached.gasSponsorshipInfo
  let order ← updateExactOutput applyGasSponsorshipToExactOutputAmount quote.order g
  let matchResult := { quote.matchResult with
    outputAmount := quote.matchResult.outputAmount - g.refundAmount
    priceFp := cached.originalPriceFp }
  return { quote with
    order
    matchResult
    receive := { quote.receive with amount := quote.receive.amount - g.refundAmount }
    price := { quote.price with price := cached.originalPrice } }

/-- The response to the client, and what to cache for the assembly, if anything. -/
def constructSponsoredQuoteResponse (fp : FixedPointLib) (resp : ExternalQuoteResponse)
    (g : GasSponsorshipInfo) :
    Except AuthServerError (SponsoredQuoteResponse × Option CachedSponsorshipInfo) := do
  let signed := resp.signedQuote
  if g.requiresMatchResultUpdate then
    let (quote, originalPrice) ← applyGasSponsorshipToQuote fp signed.quote g
    let cached : CachedSponsorshipInfo :=
      ⟨g, originalPrice, signed.quote.matchResult.priceFp⟩
    return (⟨{ signed with quote }, some g⟩, some cached)
  else
    return (⟨signed, some g⟩, none)

/-! ## Calldata -/

/-- `IDarkpoolV2::settleExternalMatchCall`; the last two arguments stay encoded. -/
structure SettleExternalMatchCall where
  externalPartyAmountIn : U256
  recipient : Address
  matchResult : Bytes
  internalPartySettlementBundle : Bytes
deriving DecidableEq

structure GasSponsorOptions where
  refundAddress : Address
  refundAmount : U256
  refundNativeEth : Bool
  nonce : U256
  signature : Bytes
deriving DecidableEq

/-- `IDarkpoolV2::sponsorExternalMatchCall` -/
structure SponsorExternalMatchCall extends SettleExternalMatchCall where
  options : GasSponsorOptions
deriving DecidableEq

structure Abi where
  decodeSettle : Bytes → Except String SettleExternalMatchCall
  encodeSponsor : SponsorExternalMatchCall → Bytes
  decodeSponsor : Bytes → Except String SponsorExternalMatchCall
  /-- The tuple of refund address, native flag, refund amount, nonce and chain id. -/
  encodeOptions : Address → Bool → U256 → U256 → U256 → Bytes

/-- What the ABI codec guarantees. -/
structure Abi.Lawful (abi : Abi) : Prop where
  decode_encode : ∀ call, abi.decodeSponsor (abi.encodeSponsor call) = .ok call
  /-- The two functions have different selectors. -/
  settle_ne : ∀ call settle, abi.decodeSettle (abi.encodeSponsor call) ≠ .ok settle

section PlainAbi

open Codec

/-! A codec with these properties, to run the model with: a tag for the function, then the
arguments one after the other. -/

def writeSettleArgs (call : SettleExternalMatchCall) : Bytes :=
  writeNat call.externalPartyAmountIn.toNat ++ (writeNat call.recipient.toNat ++
    (writeBytes call.matchResult ++ (writeBytes call.internalPartySettlementBundle ++ [])))

def readSettleArgs : Codec.Reader SettleExternalMatchCall := do
  let amountIn ← readNat
  let recipient ← readNat
  let matchResult ← readBytes
  let settlementBundle ← readBytes
  return ⟨BitVec.ofNat 256 amountIn, BitVec.ofNat 160 recipient, matchResult, settlementBundle⟩

def writeOptions (o : GasSponsorOptions) : Bytes :=
  writeNat o.refundAddress.toNat ++ (writeNat o.refundAmount.toNat ++
    (writeBool o.refundNativeEth ++ (writeNat o.nonce.toNat ++ (writeBytes o.signature ++ []))))

def readOptions : Codec.Reader GasSponsorOptions := do
  let refundAddress ← readNat
  let refundAmount ← readNat
  let refundNativeEth ← readBool
  let nonce ← readNat
  let signature ← readBytes
  return ⟨BitVec.ofNat 160 refundAddress, BitVec.ofNat 256 refundAmount, refundNativeEth,
    BitVec.ofNat 256 nonce, signature⟩

def readSponsorArgs : Codec.Reader SponsorExternalMatchCall := do
  let settle ← readSettleArgs
  let options ← readOptions
  return { settle with options }

theorem reads_settleArgs (call : SettleExternalMatchCall) :
    Reads readSettleArgs (writeSettleArgs call) call := by
  refine (reads_nat _).bind ((reads_nat _).bind ((reads_bytes _).bind ((reads_bytes _).bind ?_)))
  simp only [BitVec.ofNat_toNat, BitVec.setWidth_eq]
  exact reads_pure call

theorem reads_options (o : GasSponsorOptions) : Reads readOptions (writeOptions o) o := by
  refine (reads_nat _).bind ((reads_nat _).bind ((reads_bool _).bind ((reads_nat _).bind
    ((reads_bytes _).bind ?_))))
  simp only [BitVec.ofNat_toNat, BitVec.setWidth_eq]
  exact reads_pure o

theorem reads_sponsorArgs (call : SponsorExternalMatchCall) :
    Reads readSponsorArgs
      (writeSettleArgs call.toSettleExternalMatchCall ++ (writeOptions call.options ++ [])) call :=
  (reads_settleArgs _).bind ((reads_options _).bind (reads_pure call))

/-- The calldata of a tagged call. -/
def readTagged {α : Type} (tag : UInt8) (r : Codec.Reader α) : Bytes → Except String α
  | [] => .error "no selector"
  | b :: args =>
      if b = tag then
        match whole r args with
        | some a => .ok a
        | none => .error "malformed arguments"
      else .error "wrong selector"

def encodeSettle (call : SettleExternalMatchCall) : Bytes := 1 :: writeSettleArgs call

def plainAbi : Abi where
  decodeSettle := readTagged 1 readSettleArgs
  encodeSponsor call :=
    2 :: (writeSettleArgs call.toSettleExternalMatchCall ++ (writeOptions call.options ++ []))
  decodeSponsor := readTagged 2 readSponsorArgs
  encodeOptions address native amount nonce chainId :=
    writeNat address.toNat ++ writeBool native ++ writeNat amount.toNat ++
      writeNat nonce.toNat ++ writeNat chainId.toNat

theorem plainAbi_lawful : plainAbi.Lawful where
  decode_encode call := by
    change readTagged 2 readSponsorArgs (2 :: _) = _
    rw [readTagged, if_pos rfl, (reads_sponsorArgs call).whole]
  settle_ne call settle := by
    have herr : plainAbi.decodeSettle (plainAbi.encodeSponsor call) = .error "wrong selector" := rfl
    rw [herr]
    intro h
    cases h

end PlainAbi

/-- What the server knows that sponsoring a bundle takes. -/
structure Sponsor where
  fp : FixedPointLib
  abi : Abi
  /-- `sign_message` with the server's gas sponsor key. -/
  signMessage : Bytes → Except String Bytes
  gasSponsorAddress : Address
  chainId : U256

namespace Sponsor

variable (self : Sponsor)

def signGasSponsorOptions (nonce : U256) (g : GasSponsorshipInfo) : Except AuthServerError Bytes :=
  let message := self.abi.encodeOptions g.getRefundAddress g.refundNativeEth g.getRefundAmount
    nonce self.chainId
  (self.signMessage message).mapError .signing

def getGasSponsorOptions (nonce : U256) (g : GasSponsorshipInfo) :
    Except AuthServerError GasSponsorOptions := do
  let signature ← self.signGasSponsorOptions nonce g
  return {
    refundAddress := g.getRefundAddress
    refundAmount := g.getRefundAmount
    refundNativeEth := g.refundNativeEth
    nonce
    signature }

def generateGasSponsorCalldata (resp : ExternalMatchResponse) (g : GasSponsorshipInfo)
    (nonce : U256) : Except AuthServerError Bytes := do
  let txData := resp.matchBundle.calldata.getD []
  let tx ← (self.abi.decodeSettle txData).mapError .custom
  let options ← self.getGasSponsorOptions nonce g
  return self.abi.encodeSponsor { tx with options }

def errAmountInZero : String :=
  "cannot update sponsored match bundle price_fp: externalPartyAmountIn is zero"

/-- Both receive amounts and the price; the amount in is read from the sponsored calldata. -/
def applyGasSponsorshipToMatchBundle (bundle : BoundedExternalMatchApiBundle)
    (refundAmount : Amount) : Except Abort BoundedExternalMatchApiBundle := do
  let tx ← orAbort ((self.abi.decodeSponsor (bundle.calldata.getD [])).mapError .gasSponsorship)
  -- the conversion to `u128` panics on a larger number
  if 2 ^ 128 ≤ tx.externalPartyAmountIn.toNat then throw (.panic "Uint conversion error")
  let amountIn : Amount := tx.externalPartyAmountIn.setWidth 128
  if amountIn = 0 then throw (.error (.gasSponsorship errAmountInZero))
  let priceDelta := self.fp.fromIntegerRatio refundAmount amountIn
  return { bundle with
    maxReceive := { bundle.maxReceive with amount := bundle.maxReceive.amount + refundAmount }
    minReceive := { bundle.minReceive with amount := bundle.minReceive.amount + refundAmount }
    matchResult := { bundle.matchResult with
      priceFp := self.fp.add bundle.matchResult.priceFp priceDelta } }

/-- Send the transaction to the gas sponsor instead. -/
def redirect (bundle : BoundedExternalMatchApiBundle) (calldata : Bytes) :
    BoundedExternalMatchApiBundle :=
  { bundle with
    settlementTx := { bundle.settlementTx with
      «to» := some (.call self.gasSponsorAddress)
      input := { bundle.settlementTx.input with input := some calldata } } }

def constructSponsoredMatchResponse (resp : ExternalMatchResponse) (g : GasSponsorshipInfo)
    (nonce : U256) : Except Abort SponsoredMatchResponse := do
  let calldata ← orAbort (self.generateGasSponsorCalldata resp g nonce)
  let bundle := self.redirect resp.matchBundle calldata
  if g.requiresMatchResultUpdate then
    let bundle ← self.applyGasSponsorshipToMatchBundle bundle g.refundAmount
    return ⟨bundle, some g⟩
  else
    return ⟨bundle, some g⟩

/-! What a bundle that was sponsored looks like. -/

section Sponsored

open Effect

variable {self} {g : GasSponsorshipInfo} {nonce : U256}

theorem generateGasSponsorCalldata_ok {resp : ExternalMatchResponse} {calldata : Bytes}
    (h : self.generateGasSponsorCalldata resp g nonce = .ok calldata) :
    ∃ settle signature,
      self.abi.decodeSettle (resp.matchBundle.calldata.getD []) = .ok settle ∧
      calldata = self.abi.encodeSponsor { settle with
        options :=
          ⟨g.getRefundAddress, g.getRefundAmount, g.refundNativeEth, nonce, signature⟩ } := by
  unfold generateGasSponsorCalldata at h
  obtain ⟨settle, hsettle, h⟩ := bind_ok.mp h
  obtain ⟨options, hoptions, h⟩ := bind_ok.mp h
  unfold getGasSponsorOptions at hoptions
  obtain ⟨signature, -, hoptions⟩ := bind_ok.mp hoptions
  cases hoptions
  cases h
  exact ⟨settle, signature, mapError_ok.mp hsettle, rfl⟩

/-- Apart from the price, an in-kind refund changes the two receive amounts. -/
theorem applyGasSponsorshipToMatchBundle_ok {bundle bundle' : BoundedExternalMatchApiBundle}
    {refund : Amount} (h : self.applyGasSponsorshipToMatchBundle bundle refund = .ok bundle') :
    ∃ matchResult, bundle' = { bundle with
      maxReceive := { bundle.maxReceive with amount := bundle.maxReceive.amount + refund }
      minReceive := { bundle.minReceive with amount := bundle.minReceive.amount + refund }
      matchResult } := by
  unfold applyGasSponsorshipToMatchBundle at h
  obtain ⟨tx, -, h⟩ := bind_ok.mp h
  dsimp only at h
  split at h
  · cases h
  · split at h
    · cases h
    · cases h
      exact ⟨_, rfl⟩

/-- What the refund adds to what the external party receives. -/
def received (g : GasSponsorshipInfo) : Amount :=
  if g.requiresMatchResultUpdate then g.refundAmount else 0

/-- The calldata of the relayer with the options of the sponsorship added, sent to the sponsor,
and the receive amounts with the refund. -/
theorem constructSponsoredMatchResponse_ok {resp : ExternalMatchResponse}
    {shown : SponsoredMatchResponse}
    (h : self.constructSponsoredMatchResponse resp g nonce = .ok shown) :
    shown.gasSponsorshipInfo = some g ∧
    (∃ settle signature,
      self.abi.decodeSettle (resp.matchBundle.calldata.getD []) = .ok settle ∧
      shown.matchBundle.calldata = some (self.abi.encodeSponsor { settle with
        options :=
          ⟨g.getRefundAddress, g.getRefundAmount, g.refundNativeEth, nonce, signature⟩ })) ∧
    shown.matchBundle.settlementTx.to = some (.call self.gasSponsorAddress) ∧
    shown.matchBundle.maxReceive.amount = resp.matchBundle.maxReceive.amount + received g ∧
    shown.matchBundle.minReceive.amount = resp.matchBundle.minReceive.amount + received g := by
  unfold constructSponsoredMatchResponse at h
  obtain ⟨calldata, hcall, h⟩ := bind_ok.mp h
  obtain ⟨settle, signature, hsettle, rfl⟩ := generateGasSponsorCalldata_ok (mapError_ok.mp hcall)
  unfold received
  by_cases hreq : g.requiresMatchResultUpdate = true
  · rw [if_pos hreq] at h ⊢
    obtain ⟨bundle, happly, h⟩ := bind_ok.mp h
    obtain ⟨matchResult, rfl⟩ := applyGasSponsorshipToMatchBundle_ok happly
    cases h
    exact ⟨rfl, ⟨settle, signature, hsettle, rfl⟩, rfl, rfl, rfl⟩
  · rw [if_neg hreq] at h ⊢
    cases h
    exact ⟨rfl, ⟨settle, signature, hsettle, rfl⟩, rfl, (BitVec.add_zero _).symm,
      (BitVec.add_zero _).symm⟩

end Sponsored

end Sponsor

/-! ## The quote the relayer signed -/

section Restore

open Effect

variable {fp : FixedPointLib} {g : GasSponsorshipInfo} {quote updated : ApiExternalQuote}
  {cached : Option CachedSponsorshipInfo} {resp : ExternalQuoteResponse}
  {res : SponsoredQuoteResponse}

/-- What is asked of the order is the same before and after it is changed. -/
theorem requiresExactOutputAmountUpdate_output (order : ExternalOrder) (amount : Amount) :
    requiresExactOutputAmountUpdate { order with outputAmount := amount } g
      = requiresExactOutputAmountUpdate order g := rfl

theorem updateExactOutput_cancel {order order' : ExternalOrder}
    (h : updateExactOutput removeGasSponsorshipFromExactOutputAmount order g = .ok order') :
    updateExactOutput applyGasSponsorshipToExactOutputAmount order' g = .ok order := by
  unfold updateExactOutput at h ⊢
  by_cases hreq : requiresExactOutputAmountUpdate order g = true
  · -- both changes are made, and the order fixes its output before and after
    have hexact : order.useExactOutputAmount = true := by
      unfold requiresExactOutputAmountUpdate at hreq
      exact (Bool.and_eq_true_iff.mp hreq).1
    rw [if_pos hreq, removeGasSponsorshipFromExactOutputAmount, adjustExactOutput,
      if_pos hexact, Except.ok.injEq] at h
    subst h
    rw [requiresExactOutputAmountUpdate_output, if_pos hreq,
      applyGasSponsorshipToExactOutputAmount, adjustExactOutput, if_pos hexact]
    simp only [BitVec.add_sub_cancel]
  · rw [if_neg hreq, Except.ok.injEq] at h
    subst h
    rw [if_neg hreq]

/-- What a successful update of a quote changes. -/
theorem applyGasSponsorshipToQuote_ok {price : Float}
    (h : applyGasSponsorshipToQuote fp quote g = .ok (updated, price)) :
    price = quote.price.price ∧
    ∃ order priceFp newPrice,
      updateExactOutput removeGasSponsorshipFromExactOutputAmount quote.order g = .ok order ∧
      updated = { quote with
        order
        matchResult := { quote.matchResult with
          outputAmount := quote.matchResult.outputAmount + g.refundAmount, priceFp }
        receive := { quote.receive with amount := quote.receive.amount + g.refundAmount }
        price := { quote.price with price := newPrice } } := by
  unfold applyGasSponsorshipToQuote at h
  by_cases hzero : quote.matchResult.inputAmount = 0
  · rw [if_pos hzero] at h
    cases h
  · rw [if_neg hzero] at h
    obtain ⟨order, horder, h⟩ := bind_ok.mp h
    injection h with h
    injection h with hquote hprice
    exact ⟨hprice.symm, order, _, _, horder, hquote.symm⟩

/-- Undoing an update with the prices from before it gives back the quote. -/
theorem removeGasSponsorshipFromQuote_apply {price : Float}
    (h : applyGasSponsorshipToQuote fp quote g = .ok (updated, price)) :
    removeGasSponsorshipFromQuote updated ⟨g, price, quote.matchResult.priceFp⟩ = .ok quote := by
  obtain ⟨rfl, order, priceFp, newPrice, horder, rfl⟩ := applyGasSponsorshipToQuote_ok h
  unfold removeGasSponsorshipFromQuote
  refine bind_ok.mpr ⟨quote.order, updateExactOutput_cancel horder, ?_⟩
  -- addition on 128 bits is undone by subtraction, whether or not it wrapped
  simp only [BitVec.add_sub_cancel]
  rfl

/-- A quote with a refund in kind is updated, and the info is to be cached. -/
theorem constructSponsoredQuoteResponse_inKind (hreq : g.requiresMatchResultUpdate = true)
    (h : constructSponsoredQuoteResponse fp resp g = .ok (res, cached)) :
    ∃ quote price, applyGasSponsorshipToQuote fp resp.signedQuote.quote g = .ok (quote, price) ∧
      res = ⟨{ resp.signedQuote with quote }, some g⟩ ∧
      cached = some ⟨g, price, resp.signedQuote.quote.matchResult.priceFp⟩ := by
  unfold constructSponsoredQuoteResponse at h
  rw [if_pos hreq] at h
  obtain ⟨⟨quote, price⟩, happly, h⟩ := bind_ok.mp h
  cases h
  exact ⟨quote, price, happly, rfl, rfl⟩

/-- Any other quote is passed on as it is, and nothing is cached. -/
theorem constructSponsoredQuoteResponse_other (hreq : ¬ g.requiresMatchResultUpdate = true)
    (h : constructSponsoredQuoteResponse fp resp g = .ok (res, cached)) :
    res = ⟨resp.signedQuote, some g⟩ ∧ cached = none := by
  unfold constructSponsoredQuoteResponse at h
  rw [if_neg hreq] at h
  cases h
  exact ⟨rfl, rfl⟩

/-- Either way the quote announces the sponsorship. -/
theorem constructSponsoredQuoteResponse_info
    (h : constructSponsoredQuoteResponse fp resp g = .ok (res, cached)) :
    res.gasSponsorshipInfo = some g := by
  by_cases hreq : g.requiresMatchResultUpdate = true
  · obtain ⟨_, _, -, rfl, -⟩ := constructSponsoredQuoteResponse_inKind hreq h
    rfl
  · obtain ⟨rfl, -⟩ := constructSponsoredQuoteResponse_other hreq h
    rfl

/-- **The signed quote comes back.** A quote that was sponsored in kind and is returned
unmodified is, after the sponsorship is taken out with the info produced for the cache,
the quote the relayer signed, under the signature and deadline it was signed with. -/
theorem quote_restored (fp : FixedPointLib) (resp : ExternalQuoteResponse) (g : GasSponsorshipInfo)
    (hkind : g.refundNativeEth = false) (hpos : 0 < g.refundAmount) {res : SponsoredQuoteResponse}
    {cached : Option CachedSponsorshipInfo}
    (hok : constructSponsoredQuoteResponse fp resp g = .ok (res, cached)) :
    ∃ info, cached = some info ∧
      removeGasSponsorshipFromQuote res.signedQuote.quote info = .ok resp.signedQuote.quote ∧
      { res.signedQuote with quote := resp.signedQuote.quote } = resp.signedQuote := by
  have hreq : g.requiresMatchResultUpdate = true := by
    unfold GasSponsorshipInfo.requiresMatchResultUpdate
    rw [hkind, decide_eq_true hpos]
    rfl
  obtain ⟨updated, price, happly, rfl, rfl⟩ := constructSponsoredQuoteResponse_inKind hreq hok
  exact ⟨_, rfl, removeGasSponsorshipFromQuote_apply happly, rfl⟩

/-- Fixed-point numbers with 63 fractional bits, to run the model with; prices are all one. -/
def plainFixedPoint : FixedPointLib where
  fromIntegerRatio a b := ⟨a.toNat * 2 ^ 63 / b.toNat⟩
  fromF64RoundDown _ := ⟨2 ^ 63⟩
  toF64 x := .ofModel (Float.Model.ofNat x.repr) / 9223372036854775808
  zero := ⟨0⟩
  one := ⟨2 ^ 63⟩
  add x y := ⟨x.repr + y.repr⟩
  sub x y := ⟨x.repr - y.repr⟩
  ge x y := decide (y.repr ≤ x.repr)
  mulFloor x a := BitVec.ofNat 128 (x.repr * a.toNat / 2 ^ 63)
  floorDivInt x a := BitVec.ofNat 128 (a.toNat * 2 ^ 63 / x.repr)

/-- Tokens to buy (1) with to sell (2): 7 out for 5 in, all of the output fixed. -/
def sampleQuote : ApiExternalQuote where
  order :=
    { inputMint := 2
      outputMint := 1
      inputAmount := 0
      outputAmount := 7
      useExactOutputAmount := true
      minFillSize := 0 }
  matchResult :=
    { inputMint := 2
      outputMint := 1
      inputAmount := 5
      outputAmount := 7
      priceFp := ⟨⟨11⟩, 100⟩ }
  fees := ⟨0, 0⟩
  send := ⟨2, 5⟩
  receive := ⟨1, 7⟩
  price := ⟨1.4, 100⟩
  timestamp := 100

def sampleQuoteResponse : ExternalQuoteResponse := ⟨⟨sampleQuote, [1, 2, 3], 200⟩⟩

/-- Three of the token bought are refunded, to the receiver. -/
def inKindInfo : GasSponsorshipInfo := ⟨3, false, none⟩

theorem quote_restored_sample :
    ∃ res cached info,
      constructSponsoredQuoteResponse plainFixedPoint sampleQuoteResponse inKindInfo
        = .ok (res, cached) ∧
      cached = some info ∧ res.signedQuote.quote.receive.amount = 10 ∧
      removeGasSponsorshipFromQuote res.signedQuote.quote info = .ok sampleQuote := by
  obtain ⟨res, cached, hok, hten⟩ : ∃ res cached,
      constructSponsoredQuoteResponse plainFixedPoint sampleQuoteResponse inKindInfo
        = .ok (res, cached) ∧ res.signedQuote.quote.receive.amount = 10 := ⟨_, _, rfl, rfl⟩
  obtain ⟨info, hcached, hrestore, -⟩ :=
    quote_restored plainFixedPoint sampleQuoteResponse inKindInfo rfl (by decide) hok
  exact ⟨res, cached, info, hok, hcached, hten, hrestore⟩

end Restore

end RelayerExtensions.Auth
