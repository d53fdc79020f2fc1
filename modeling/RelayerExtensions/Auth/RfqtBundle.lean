import RelayerExtensions.Auth.RelayerFee

/-!
# The bundle an RFQT response is made from

An RFQT call ends in the assembly of a match bundle, as a call of the assemble endpoint
does: the bundle is sponsored, and a task stores its context under the nonce of the
sponsorship, by which the settlement is attributed later. The RFQT response should
describe that bundle.

It is made from the context of the relayer's response, which is passed by value: the
sponsored bundle replaces it in the body and in the task, not in the context the RFQT
handler still holds. So the response has the relayer's calldata, a call of the darkpool
without refund and nonce. `rfqt_not_sponsored` says that this is so for every RFQT
response, on both paths.
-/

namespace RelayerExtensions.Auth.Server

open Effect

/-- The response is about the sponsored bundle that is recorded in `ctx`, and submitting its
calldata settles under the nonce that is recorded. -/
structure Describes (server : Server) (ctx : SponsoredExternalMatchResponseCtx)
    (bundle : BoundedExternalMatchApiBundle) (r : RfqtQuoteResponse) : Prop where
  maker : ∃ address, bundle.settlementTx.to = some (.call address) ∧ r.maker = address.format
  calldata : bundle.calldata = some r.calldata
  nonce : ∃ call g, server.abi.decodeSponsor r.calldata = .ok call ∧
    ctx.sponsorshipInfoWithNonce = some (g, call.options.nonce)
  makerAmount : r.order.permitted.amount = amountText bundle.maxReceive.amount
  takerAmount : r.order.consideration.amount = amountText bundle.maxSend.amount
  price : ∀ p ∈ r.price, p = server.fp.toF64 bundle.matchResult.priceFp
  receive : (∀ a ∈ r.maxTakerReceive, a = bundle.maxReceive.amount) ∧
    ∀ a ∈ r.minTakerReceive, a = bundle.minReceive.amount
  send : (∀ a ∈ r.maxTakerSend, a = bundle.maxSend.amount) ∧
    ∀ a ∈ r.minTakerSend, a = bundle.minSend.amount

variable {self : Server} {r : RfqtQuoteResponse} {stringify : Bool} {rfq : RfqtQuoteRequest}
  {resp : BytesResponse} {w w' : ServerState}

theorem transformMatchBundleToRfqtResponse_ok {bundle : BoundedExternalMatchApiBundle}
    {malleable : Bool} {now : Nat}
    (h : self.transformMatchBundleToRfqtResponse bundle rfq malleable now = .ok r) :
    ∃ address calldata, bundle.settlementTx.to = some (.call address) ∧
      bundle.calldata = some calldata ∧
      r = self.buildRfqtQuoteResponse rfq bundle address.format calldata malleable now := by
  unfold transformMatchBundleToRfqtResponse at h
  split at h
  · rename_i address hto
    split at h
    · rename_i calldata hcalldata
      cases h
      exact ⟨address, calldata, hto, hcalldata, rfl⟩
    · cases h
  · cases h

/-- An RFQT response is made from the response in the context. -/
theorem rfqtPostRequest_ok {malleable : Bool} {raw resp : BytesResponse}
    {rctx : ExternalMatchResponseCtx} (hok : rctx.isSuccess = true)
    (h : exec (self.rfqtPostRequest malleable rfq raw rctx) w = (.ok resp, w'))
    (hbody : resp.body = .rfqt r stringify) :
    ∃ res now, rctx.response = some res ∧
      self.transformMatchBundleToRfqtResponse res.matchBundle rfq malleable now = .ok r := by
  unfold rfqtPostRequest at h
  rw [if_neg (not_not_intro hok)] at h
  obtain ⟨res, w₁, hread, h⟩ := exec_bind_ok.mp h
  obtain ⟨hres, -⟩ := responseOf_ok hread
  rw [exec_ask_bind] at h
  obtain ⟨r', hr, h⟩ := exec_lift_bind_ok.mp h
  have hbody' := overwriteResponseBody_ok (exec_lift_ok.mp h).1
  rw [hbody] at hbody'
  cases hbody'
  exact ⟨res, _, hres, hr⟩

/-- How an RFQT response came about: the relayer's response `res` was sponsored and recorded as
`shown`, and the RFQT response was made from `res`. -/
structure MadeFrom (server : Server) (res : ExternalMatchResponse) (shown : SponsoredMatchResponse)
    (ctx : SponsoredExternalMatchResponseCtx) (r : RfqtQuoteResponse) : Prop where
  built : ∃ g nonce, server.toSponsor.constructSponsoredMatchResponse res g nonce = .ok shown ∧
    ctx.sponsorshipInfoWithNonce = some (g, nonce)
  recorded : ctx.response = some shown
  transformed : ∃ rfq malleable now,
    server.transformMatchBundleToRfqtResponse res.matchBundle rfq malleable now = .ok r

/-- The assembly at the end of both paths. -/
theorem rfqtAssembly_ok {malleable : Bool} {ctx : AssembleMatchRequestCtx} (h : exec (do
      let c ← self.assemblyPreRequest ctx
      let p ← self.forwardRequest self.assembleType self.json.matchResponse c
      let res ← self.assemblyPostRequest p.1 p.2
      self.rfqtPostRequest malleable rfq res p.2) w = (.ok resp, w'))
    (hbody : resp.body = .rfqt r stringify) :
    ∃ res shown sctx, MadeFrom self res shown sctx r ∧
      w'.spawned = w.spawned ++ [.assemblyMetrics sctx] := by
  obtain ⟨c, w₁, hpre, h⟩ := exec_bind_ok.mp h
  obtain ⟨⟨raw, rctx⟩, w₂, hforward, h⟩ := exec_bind_ok.mp h
  obtain ⟨assembled, w₃, hpost, hrfqt⟩ := exec_bind_ok.mp h
  have hkeep : w'.spawned = w₃.spawned :=
    congrArg Traces.spawned ((keeps_rfqtPostRequest malleable rfq assembled rctx).of_exec hrfqt)
  by_cases hok : rctx.isSuccess = true
  · obtain ⟨res, now, hres, hr⟩ := rfqtPostRequest_ok hok hrfqt hbody
    rcases assembly_ok hpre hforward hpost with ⟨hfail, -⟩ |
      ⟨g, sent, x, res', nonce, shown, hassembled, hres', hinfo, -, htraces⟩
    · rw [hok] at hfail
      cases hfail
    · -- the context has the response as it was before it was sponsored
      cases hres.symm.trans hres'
      refine ⟨res, shown, rctx.withResponse shown,
        ⟨⟨g, nonce, hassembled.built, hinfo⟩, rfl, ⟨rfq, malleable, now, hr⟩⟩, ?_⟩
      rw [hkeep]
      exact congrArg Traces.spawned htraces
  · -- what the relayer sent reaches the taker, and that is no RFQT response
    obtain ⟨x, bytes, hraw, -⟩ := forwardRequest_ok hforward
    rw [raw_of_failed hok hrfqt, raw_of_failed hok hpost, hraw] at hbody
    cases hbody

/-- The malleable path: what comes before the assembly spawns nothing. -/
theorem handleQuoteAndAssemble_ok {ctx : QuoteRequestCtx}
    (h : exec (self.handleQuoteAndAssemble ctx rfq) w = (.ok resp, w'))
    (hbody : resp.body = .rfqt r stringify) :
    ∃ res shown sctx, MadeFrom self res shown sctx r ∧
      w'.spawned = w.spawned ++ [.assemblyMetrics sctx] := by
  unfold handleQuoteAndAssemble at h
  obtain ⟨c, w₁, hpre, h⟩ := exec_bind_ok.mp h
  obtain ⟨⟨raw, rctx⟩, w₂, hforward, h⟩ := exec_bind_ok.mp h
  obtain ⟨x, bytes, hraw, -, hlog⟩ := forwardRequest_ok hforward
  have hkeep₂ : w₂.spawned = w.spawned :=
    (congrArg Traces.spawned hlog).trans
      (congrArg Traces.spawned ((keeps_quotePreRequest ctx).of_exec hpre))
  dsimp only at h
  split at h
  · -- the relayer did not quote
    obtain ⟨rfl, -⟩ := exec_pure_ok.mp h
    rw [hraw] at hbody
    cases hbody
  · obtain ⟨⟨sponsored, cached⟩, w₃, hsponsor, h⟩ := exec_bind_ok.mp h
    have hkeep₃ : w₃.spawned = w.spawned :=
      (congrArg Traces.spawned ((keeps_sponsorResponse rctx).of_exec hsponsor)).trans hkeep₂
    cases cached with
    | none =>
        rw [← hkeep₃]
        exact rfqtAssembly_ok h hbody
    | some info =>
        obtain ⟨u, w₄, hcache, h⟩ := exec_bind_ok.mp h
        have hkeep₄ : w₄.spawned = w.spawned :=
          (congrArg Prod.snd ((keeps_cacheQuote sponsored info).of_exec hcache)).trans hkeep₃
        rw [← hkeep₄]
        exact rfqtAssembly_ok h hbody

theorem handleRfqtQuoteRequest_ok {req : RawRequest}
    (h : exec (self.handleRfqtQuoteRequest req) w = (.ok resp, w'))
    (hbody : resp.body = .rfqt r stringify) :
    ∃ res shown sctx, MadeFrom self res shown sctx r ∧
      w'.spawned = w.spawned ++ [.assemblyMetrics sctx] := by
  unfold handleRfqtQuoteRequest at h
  obtain ⟨⟨variant, rfq⟩, w₁, hpre, h⟩ := exec_bind_ok.mp h
  have hkeep : w₁.spawned = w.spawned :=
    congrArg Traces.spawned ((keeps_rfqtPreRequest req).of_exec hpre)
  rw [← hkeep]
  cases variant with
  | malleable ctx => exact handleQuoteAndAssemble_ok h hbody
  | direct ctx => exact rfqtAssembly_ok h hbody

/-! ## What the taker submits -/

/-- The calldata of the response is the relayer's call of the darkpool, and that of the
sponsored bundle is not. -/
theorem MadeFrom.calldata_ne {res : ExternalMatchResponse} {shown : SponsoredMatchResponse}
    {sctx : SponsoredExternalMatchResponseCtx} (habi : self.abi.Lawful)
    (h : MadeFrom self res shown sctx r) :
    (∃ settle, self.abi.decodeSettle r.calldata = .ok settle) ∧
      shown.matchBundle.calldata ≠ some r.calldata := by
  obtain ⟨g, nonce, hbuilt, -⟩ := h.built
  obtain ⟨rfq, malleable, now, htransform⟩ := h.transformed
  obtain ⟨address, calldata, -, hcalldata, rfl⟩ :=
    transformMatchBundleToRfqtResponse_ok htransform
  obtain ⟨-, ⟨settle, signature, hsettle, hshown⟩, -⟩ :=
    Sponsor.constructSponsoredMatchResponse_ok hbuilt
  rw [hcalldata, Option.getD_some] at hsettle
  refine ⟨⟨settle, hsettle⟩, ?_⟩
  intro hsame
  -- a call of the sponsor would have to decode as a call of the darkpool
  have hsame' : self.abi.encodeSponsor _ = calldata := Option.some.inj (hshown.symm.trans hsame)
  rw [← hsame'] at hsettle
  exact habi.settle_ne _ settle hsettle

/-- **No RFQT response describes the sponsored bundle.** Whatever the request and the path, a
call that is answered with an RFQT response has recorded a sponsored bundle, and the calldata
of the response is another: it settles on the darkpool without the refund and the nonce. -/
theorem rfqt_not_sponsored (self : Server) (habi : self.abi.Lawful) {req : RawRequest}
    {w w' : ServerState} {resp : BytesResponse} {r : RfqtQuoteResponse} {stringify : Bool}
    (h : exec (self.handleRfqtQuoteRequest req) w = (.ok resp, w'))
    (hbody : resp.body = .rfqt r stringify) :
    ∃ sctx shown, w'.spawned = w.spawned ++ [.assemblyMetrics sctx] ∧
      sctx.response = some shown ∧
      (∃ settle, self.abi.decodeSettle r.calldata = .ok settle) ∧
      ¬ Describes self sctx shown.matchBundle r := by
  obtain ⟨res, shown, sctx, hmade, hspawned⟩ := handleRfqtQuoteRequest_ok h hbody
  obtain ⟨hsettle, hne⟩ := hmade.calldata_ne habi
  refine ⟨sctx, shown, hspawned, hmade.recorded, hsettle, ?_⟩
  intro hdescribes
  exact hne hdescribes.calldata

/-! ## A taker of the sample deployment, on either path

It wants exactly 10 and is refunded 3, so that the relayer settles 7. -/

/-- The amount the taker is told it receives. -/
def takerAmountTold (resp : BytesResponse) : Option String :=
  match resp.body with
  | .rfqt r _ => some r.order.permitted.amount
  | _ => none

theorem takerAmountTold_eq_some {text : String} (h : takerAmountTold resp = some text) :
    ∃ r stringify, resp.body = .rfqt r stringify ∧ r.order.permitted.amount = text := by
  unfold takerAmountTold at h
  split at h
  · exact ⟨_, _, by assumption, Option.some.inj h⟩
  · cases h

/-- The amount in the bundle a task records. -/
def recordedReceive : Job → Option Amount
  | .assemblyMetrics ctx => ctx.response.map (·.matchBundle.maxReceive.amount)
  | .quoteMetrics _ _ => none

/-- With malleable calldata: the bundle that is recorded has the taker receive 10, the response
is about another one, which pays 7. -/
theorem rfqt_response_of_relayer_bundle :
    ∃ resp r stringify sctx shown,
      (exec (plainServer.handleRfqtQuoteRequest (plainRequest "" [])) plainState).1 = .ok resp ∧
      resp.body = .rfqt r stringify ∧
      (exec (plainServer.handleRfqtQuoteRequest (plainRequest "" [])) plainState).2.spawned
        = [.assemblyMetrics sctx] ∧
      sctx.response = some shown ∧ shown.matchBundle.maxReceive.amount = 10 ∧
      r.order.permitted.amount = amountText 7 ∧
      ¬ Describes plainServer sctx shown.matchBundle r := by
  obtain ⟨resp, hrun, htold⟩ := exec_of_observe
    (show observe takerAmountTold (plainServer.handleRfqtQuoteRequest (plainRequest "" []))
      plainState = some (amountText 7) by decide +kernel)
  obtain ⟨r, stringify, hbody, hamount⟩ := takerAmountTold_eq_some htold
  obtain ⟨res, shown, sctx, hmade, hspawned⟩ := handleRfqtQuoteRequest_ok hrun hbody
  have hrecorded : (exec (plainServer.handleRfqtQuoteRequest (plainRequest "" []))
      plainState).2.spawned.map recordedReceive = [some 10] := by
    decide +kernel
  rw [hspawned] at hrecorded
  change [sctx.response.map (·.matchBundle.maxReceive.amount)] = _ at hrecorded
  rw [hmade.recorded] at hrecorded
  have hten : shown.matchBundle.maxReceive.amount = 10 :=
    Option.some.inj (List.cons.inj hrecorded).1
  refine ⟨resp, r, stringify, sctx, shown, congrArg Prod.fst hrun, hbody, hspawned,
    hmade.recorded, hten, hamount, ?_⟩
  intro hdescribes
  have hsame := hdescribes.makerAmount
  rw [hamount, hten] at hsame
  exact absurd hsame (by decide +kernel)

/-- The same without malleable calldata. -/
theorem rfqt_not_sponsored_direct :
    ∃ resp r stringify sctx shown,
      (exec (plainServer.handleRfqtQuoteRequest (plainRequest "malleableCalldata=false" []))
        plainState).1 = .ok resp ∧
      resp.body = .rfqt r stringify ∧ sctx.response = some shown ∧
      ¬ Describes plainServer sctx shown.matchBundle r := by
  obtain ⟨resp, hrun, htold⟩ := exec_of_observe
    (show observe takerAmountTold
      (plainServer.handleRfqtQuoteRequest (plainRequest "malleableCalldata=false" [])) plainState
        = some (amountText 7) by decide +kernel)
  obtain ⟨r, stringify, hbody, -⟩ := takerAmountTold_eq_some htold
  obtain ⟨sctx, shown, -, hrecorded, -, hnot⟩ :=
    rfqt_not_sponsored plainServer plainAbi_lawful hrun hbody
  exact ⟨resp, r, stringify, sctx, shown, congrArg Prod.fst hrun, hbody, hrecorded, hnot⟩

end RelayerExtensions.Auth.Server
