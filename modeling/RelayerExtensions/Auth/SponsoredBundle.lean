import RelayerExtensions.Auth.FixedPoint
import RelayerExtensions.Auth.Rfqt

/-!
# What a sponsored bundle is

`construct_sponsored_match_response` rewrites the bundle of the relayer in two steps. The first
one takes the calldata of the settlement apart, adds the options of the sponsorship and sends the
result to the gas sponsor. The second one, for a refund in kind, adds the refund to the receive
amounts and to the price; the price is per unit of input, so it has to know the amount in, and
reads it from the calldata that the first step has just written.

Whenever the relayer's calldata can be read and no amount leaves `u128`, the result is the
relayer's bundle with exactly these changes (`sponsored_bundle`).
-/

namespace RelayerExtensions.Auth

namespace Sponsor

/-! ## What is to hold -/

/-- No amount leaves `u128`. -/
structure Fits (bundle : BoundedExternalMatchApiBundle) (settle : SettleExternalMatchCall)
    (refund : Amount) : Prop where
  amountIn : settle.externalPartyAmountIn.toNat < 2 ^ 128
  maxReceive : bundle.maxReceive.amount.toNat + refund.toNat < 2 ^ 128
  minReceive : bundle.minReceive.amount.toNat + refund.toNat < 2 ^ 128

/-- A price grows by a refund spread over the amount in: by the quotient rounded down, in the
field. What all of the input is paid for more than before is the refund, up to less than one unit
of the last place for each unit of input. -/
structure Repriced (precision modulus amountIn refund : Nat) (old new : FixedPoint) : Prop where
  grows : new.repr ≡ old.repr + refund * 2 ^ precision / amountIn [MOD modulus]
  exact : old.repr + refund * 2 ^ precision / amountIn < modulus →
    new.repr = old.repr + refund * 2 ^ precision / amountIn
  accounts : refund * 2 ^ precision / amountIn * amountIn ≤ refund * 2 ^ precision ∧
    refund * 2 ^ precision < (refund * 2 ^ precision / amountIn + 1) * amountIn

/-- A bundle with a refund in it. All but the settlement transaction, the receive amounts and the
price is as before. -/
structure Refunded (precision modulus amountIn : Nat) (refund : Amount)
    (bundle shown : BoundedExternalMatchApiBundle) : Prop where
  frame : ∃ max min price, shown = { bundle with
    settlementTx := shown.settlementTx
    maxReceive := { bundle.maxReceive with amount := max }
    minReceive := { bundle.minReceive with amount := min }
    matchResult := { bundle.matchResult with priceFp := price } }
  maxReceive : shown.maxReceive.amount.toNat = bundle.maxReceive.amount.toNat + refund.toNat
  minReceive : shown.minReceive.amount.toNat = bundle.minReceive.amount.toNat + refund.toNat
  price : Repriced precision modulus amountIn refund.toNat bundle.matchResult.priceFp
    shown.matchResult.priceFp

/-- The response for a bundle whose calldata is this settlement. -/
structure Sponsored (sponsor : Sponsor) (precision modulus : Nat)
    (bundle : BoundedExternalMatchApiBundle) (settle : SettleExternalMatchCall)
    (g : GasSponsorshipInfo) (nonce : U256) (shown : SponsoredMatchResponse) : Prop where
  info : shown.gasSponsorshipInfo = some g
  target : shown.matchBundle.settlementTx.to = some (.call sponsor.gasSponsorAddress)
  transaction : ∃ input, shown.matchBundle.settlementTx = { bundle.settlementTx with
    «to» := some (.call sponsor.gasSponsorAddress)
    input := { bundle.settlementTx.input with input := some input } }
  calldata : ∃ signature,
    sponsor.signMessage (sponsor.abi.encodeOptions g.getRefundAddress g.refundNativeEth
      g.getRefundAmount nonce sponsor.chainId) = .ok signature ∧
    sponsor.abi.decodeSponsor (shown.matchBundle.calldata.getD []) = .ok { settle with
      options := ⟨g.getRefundAddress, g.getRefundAmount, g.refundNativeEth, nonce, signature⟩ }
  inKind : g.requiresMatchResultUpdate = true → Refunded precision modulus
    settle.externalPartyAmountIn.toNat g.refundAmount bundle shown.matchBundle
  other : g.requiresMatchResultUpdate = false →
    shown.matchBundle = { bundle with settlementTx := shown.matchBundle.settlementTx }

/-! ## The two steps -/

variable {self : Sponsor} {g : GasSponsorshipInfo} {nonce : U256} {resp : ExternalMatchResponse}

/-- The first step, if the calldata can be read and the options are signed. -/
theorem generateGasSponsorCalldata_eq {settle : SettleExternalMatchCall} {signature : Bytes}
    (hdecode : self.abi.decodeSettle (resp.matchBundle.calldata.getD []) = .ok settle)
    (hsign : self.signMessage (self.abi.encodeOptions g.getRefundAddress g.refundNativeEth
      g.getRefundAmount nonce self.chainId) = .ok signature) :
    self.generateGasSponsorCalldata resp g nonce = .ok (self.abi.encodeSponsor { settle with
      options :=
        ⟨g.getRefundAddress, g.getRefundAmount, g.refundNativeEth, nonce, signature⟩ }) := by
  unfold generateGasSponsorCalldata getGasSponsorOptions signGasSponsorOptions
  dsimp only
  rw [hdecode, hsign]
  rfl

theorem toNat_setWidth_of_lt {x : U256} (h : x.toNat < 2 ^ 128) :
    (x.setWidth 128 : Amount).toNat = x.toNat := by
  rw [BitVec.toNat_setWidth, Nat.mod_eq_of_lt h]

theorem setWidth_ne_zero {x : U256} (hne : x ≠ 0) (h : x.toNat < 2 ^ 128) :
    (x.setWidth 128 : Amount) ≠ 0 := by
  intro hzero
  have htoNat := congrArg BitVec.toNat hzero
  rw [toNat_setWidth_of_lt h] at htoNat
  exact hne (BitVec.eq_of_toNat_eq htoNat)

/-- The second step, on a bundle whose calldata is that of a sponsored call. -/
theorem applyGasSponsorshipToMatchBundle_eq {bundle : BoundedExternalMatchApiBundle}
    (refund : Amount) {call : SponsorExternalMatchCall}
    (hdecode : self.abi.decodeSponsor (bundle.calldata.getD []) = .ok call)
    (hne : call.externalPartyAmountIn ≠ 0) (hfits : call.externalPartyAmountIn.toNat < 2 ^ 128) :
    self.applyGasSponsorshipToMatchBundle bundle refund = .ok { bundle with
      maxReceive := { bundle.maxReceive with amount := bundle.maxReceive.amount + refund }
      minReceive := { bundle.minReceive with amount := bundle.minReceive.amount + refund }
      matchResult := { bundle.matchResult with
        priceFp := self.fp.add bundle.matchResult.priceFp
          (self.fp.fromIntegerRatio refund (call.externalPartyAmountIn.setWidth 128)) } } := by
  unfold applyGasSponsorshipToMatchBundle
  rw [hdecode]
  change (if 2 ^ 128 ≤ call.externalPartyAmountIn.toNat then _ else _) = _
  rw [if_neg (Nat.not_le_of_lt hfits)]
  change (if call.externalPartyAmountIn.setWidth 128 = (0 : Amount) then _ else _) = _
  rw [if_neg (setWidth_ne_zero hne hfits)]
  rfl

theorem repriced {precision modulus : Nat} (hfp : self.fp.Lawful precision modulus)
    {amountIn : U256} {refund : Amount} {old : FixedPoint} (hne : amountIn ≠ 0)
    (hfits : amountIn.toNat < 2 ^ 128) :
    Repriced precision modulus amountIn.toNat refund.toNat old
      (self.fp.add old (self.fp.fromIntegerRatio refund (amountIn.setWidth 128))) := by
  have hratio := hfp.fromIntegerRatio refund (amountIn.setWidth 128) (setWidth_ne_zero hne hfits)
  rw [toNat_setWidth_of_lt hfits] at hratio
  have hpos : 0 < amountIn.toNat := Nat.pos_of_ne_zero fun hzero =>
    hne (BitVec.eq_of_toNat_eq hzero)
  refine ⟨?_, fun hlt => ?_, Nat.div_mul_le_self _ _, ?_⟩
  · rw [← hratio]
    exact hfp.add _ _
  · rw [← hratio] at hlt ⊢
    exact hfp.add_of_lt _ _ hlt
  · exact (Nat.div_lt_iff_lt_mul hpos).mp (Nat.lt_succ_self _)

/-! ## Both together -/

theorem constructSponsoredMatchResponse_inKind {calldata : Bytes}
    {bundle : BoundedExternalMatchApiBundle} (hreq : g.requiresMatchResultUpdate = true)
    (hcalldata : self.generateGasSponsorCalldata resp g nonce = .ok calldata)
    (happly : self.applyGasSponsorshipToMatchBundle (self.redirect resp.matchBundle calldata)
      g.refundAmount = .ok bundle) :
    self.constructSponsoredMatchResponse resp g nonce = .ok ⟨bundle, some g⟩ := by
  refine Effect.bind_ok.mpr ⟨calldata, orAbort_ok.mpr hcalldata, ?_⟩
  dsimp only
  rw [if_pos hreq]
  exact Effect.bind_ok.mpr ⟨bundle, happly, rfl⟩

theorem constructSponsoredMatchResponse_other {calldata : Bytes}
    (hreq : g.requiresMatchResultUpdate = false)
    (hcalldata : self.generateGasSponsorCalldata resp g nonce = .ok calldata) :
    self.constructSponsoredMatchResponse resp g nonce =
      .ok ⟨self.redirect resp.matchBundle calldata, some g⟩ := by
  refine Effect.bind_ok.mpr ⟨calldata, orAbort_ok.mpr hcalldata, ?_⟩
  dsimp only
  rw [if_neg (by rw [hreq]; exact Bool.false_ne_true)]
  rfl

/-- **A sponsored bundle is the relayer's bundle with the sponsorship added**, and nothing else is
changed. -/
theorem sponsored_bundle (self : Sponsor) (habi : self.abi.Lawful) {precision modulus : Nat}
    (hfp : self.fp.Lawful precision modulus) (hsign : ∀ message, (self.signMessage message).isOk)
    (resp : ExternalMatchResponse) (g : GasSponsorshipInfo) (nonce : U256)
    (settle : SettleExternalMatchCall)
    (hdecode : self.abi.decodeSettle (resp.matchBundle.calldata.getD []) = .ok settle)
    (hne : settle.externalPartyAmountIn ≠ 0)
    (hfits : g.requiresMatchResultUpdate = true → Fits resp.matchBundle settle g.refundAmount) :
    ∃ shown, self.constructSponsoredMatchResponse resp g nonce = .ok shown ∧
      Sponsored self precision modulus resp.matchBundle settle g nonce shown := by
  obtain ⟨signature, hsigned⟩ : ∃ signature, self.signMessage (self.abi.encodeOptions
      g.getRefundAddress g.refundNativeEth g.getRefundAmount nonce self.chainId) =
        .ok signature := by
    have hok := hsign (self.abi.encodeOptions g.getRefundAddress g.refundNativeEth
      g.getRefundAmount nonce self.chainId)
    cases hs : self.signMessage (self.abi.encodeOptions g.getRefundAddress g.refundNativeEth
        g.getRefundAmount nonce self.chainId) with
    | ok signature => exact ⟨signature, rfl⟩
    | error e =>
        rw [hs] at hok
        cases hok
  have hcalldata := generateGasSponsorCalldata_eq hdecode hsigned
  generalize hcall : ({ settle with options := ⟨g.getRefundAddress, g.getRefundAmount,
    g.refundNativeEth, nonce, signature⟩ } : SponsorExternalMatchCall) = call at hcalldata
  have hamountIn : call.externalPartyAmountIn = settle.externalPartyAmountIn := hcall ▸ rfl
  -- what the first step writes is what the second step reads
  have hread : self.abi.decodeSponsor ((self.redirect resp.matchBundle
      (self.abi.encodeSponsor call)).calldata.getD []) = .ok call := habi.decode_encode call
  cases hreq : g.requiresMatchResultUpdate with
  | false =>
      refine ⟨_, constructSponsoredMatchResponse_other hreq hcalldata, rfl, rfl, ⟨_, rfl⟩,
        ⟨signature, hsigned, hcall ▸ hread⟩, fun h => ?_, fun _ => rfl⟩
      rw [hreq] at h
      cases h
  | true =>
      have hfits := hfits hreq
      have happly := applyGasSponsorshipToMatchBundle_eq g.refundAmount hread
        (hamountIn ▸ hne) (hamountIn ▸ hfits.amountIn)
      refine ⟨_, constructSponsoredMatchResponse_inKind hreq hcalldata happly, rfl, rfl,
        ⟨_, rfl⟩, ⟨signature, hsigned, hcall ▸ hread⟩, fun _ => ?_, fun h => ?_⟩
      · refine ⟨⟨_, _, _, rfl⟩, ?_, ?_, ?_⟩
        · exact BitVec.toNat_add_of_lt hfits.maxReceive
        · exact BitVec.toNat_add_of_lt hfits.minReceive
        · rw [hamountIn]
          exact repriced hfp hne hfits.amountIn
      · rw [hreq] at h
        cases h

/-! ## The sample bundle -/

/-- The scalars are those below `2 ^ 254`. -/
def plainSponsor : Sponsor where
  fp := fieldFixedPoint (2 ^ 254)
  abi := plainAbi
  signMessage _ := .ok [9]
  gasSponsorAddress := 8
  chainId := 1

/-- Five in and seven out, with a refund of three. -/
theorem sponsored_bundle_sample :
    ∃ shown, plainSponsor.constructSponsoredMatchResponse ⟨settledBundle⟩ inKindInfo 77 =
        .ok shown ∧
      Sponsored plainSponsor 63 (2 ^ 254) settledBundle ⟨5, 4, [], []⟩ inKindInfo 77 shown ∧
      shown.matchBundle.maxReceive.amount = 10 := by
  obtain ⟨shown, hok, hsponsored⟩ := sponsored_bundle plainSponsor plainAbi_lawful
    (fieldFixedPoint_lawful _) (fun _ => rfl) ⟨settledBundle⟩ inKindInfo 77 ⟨5, 4, [], []⟩
    (by decide +kernel) (by decide) (fun _ => ⟨by decide, by decide, by decide⟩)
  refine ⟨shown, hok, hsponsored, BitVec.eq_of_toNat_eq ?_⟩
  rw [(hsponsored.inKind rfl).maxReceive]
  rfl

end Sponsor

end RelayerExtensions.Auth
