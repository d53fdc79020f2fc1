import RelayerExtensions.Auth.FirmRefund

/-!
# Orders that fix what is received

A client may fix the amount it wants to receive. If it also gets a refund in that
token, the server asks the relayer for less, by the refund, and adds the refund to
the amounts it shows: match and refund together should come to what was asked for.

They do only if the refund goes to the receiver. The `refund_address` of the query
string sends it elsewhere, but nothing on the way looks at the address: the order is
reduced and the amounts are raised all the same. `exactOutput_iff` says, for direct
orders and for orders that were quoted before, that the receiver gets the amount if
and only if the address is unset, unreadable, or the receiver's own.
-/

namespace RelayerExtensions.Auth.Server

open Effect

/-- To whom the gas sponsor pays the refund: to the receiver, if no address is given. -/
def refundTarget (call : SponsorExternalMatchCall) : Address :=
  if call.options.refundAddress = Address.zero then call.recipient else call.options.refundAddress

/-- What the receiver ends up with of the token it buys: what the match pays, and a refund in
kind, if that is paid to the receiver. -/
def endsUpWith (call : SponsorExternalMatchCall) (matched : Amount) : Nat :=
  matched.toNat +
    if call.options.refundNativeEth = false ∧ refundTarget call = call.recipient then
      call.options.refundAmount.toNat
    else 0

/-- The order that is matched: the client may update the one of the quote. -/
def assembledOrder : ExternalMatchAssemblyType → ExternalOrder
  | .quotedOrder signed updated => updated.getD signed.quote.order
  | .directOrder order => order

/-- The refund is this amount of the token that is bought. -/
def InKind (refund : Amount) (g : GasSponsorshipInfo) : Prop :=
  g.refundNativeEth = false ∧ g.refundAmount = refund

section Statement

variable (self : Server)

/-- The relayer answers the request with the receive amount the order fixes. A quote is for the
order that was forwarded. -/
def FillsExactly (x : Forwarded) : Prop :=
  match x.request with
  | .quote req => req.externalOrder.useExactOutputAmount = true →
      ∀ res, Answers self self.json.quoteResponse x res →
        res.signedQuote.quote.order = req.externalOrder ∧
          res.signedQuote.quote.receive.amount = req.externalOrder.outputAmount
  | .assemble req => (assembledOrder req.order).useExactOutputAmount = true →
      ∀ res, Answers self self.json.matchResponse x res →
        res.matchBundle.minReceive.amount = (assembledOrder req.order).outputAmount ∧
          res.matchBundle.maxReceive.amount = (assembledOrder req.order).outputAmount

/-- The receiver ends up with the amount, and every receive amount that was shown says so. -/
def Delivers (amount matched : Amount) (bundle : SponsoredMatchResponse) (shown : List Amount) :
    Prop :=
  ∃ calldata call, bundle.matchBundle.calldata = some calldata ∧
    self.abi.decodeSponsor calldata = .ok call ∧
    endsUpWith call matched = amount.toNat ∧
    ∀ a ∈ shown, a.toNat = endsUpWith call matched

/-- What led to the assembly request `req` in state `w`: an order that fixes `amount`, with a
refund of `refund` in kind, under these query parameters. The last argument has the receive
amounts of a quote for the order. -/
inductive ExactTrade (self : Server) (amount refund : Amount) (params : GasSponsorshipQueryParams)
    (req : RawRequest) (w : ServerState) (bundle : SponsoredMatchResponse) :
    List Amount → Prop where
  | direct {client : AssembleExternalMatchRequest} {order : ExternalOrder}
      {g : GasSponsorshipInfo} :
      self.json.assembleRequest req.body (shouldStringifyNumbers req.headers) = .ok client →
      client.order = .directOrder order →
      order.useExactOutputAmount = true → order.outputAmount = amount →
      self.json.queryParams req.queryStr = .ok params →
      bundle.gasSponsorshipInfo = some g → InKind refund g →
      ExactTrade self amount refund params req w bundle []
  /-- The query parameters are those of the quote request, and the order is too, unless the
  client replaces it. -/
  | quoted {req₁ : RawRequest} {w₁ w₁' : ServerState} {quote : SponsoredQuoteResponse}
      {g : GasSponsorshipInfo} {client₁ : ExternalQuoteRequest}
      {client : AssembleExternalMatchRequest} {updated : Option ExternalOrder} :
      Announced self req₁ w₁ w₁' quote g → InKind refund g →
      self.json.quoteRequest req₁.body (shouldStringifyNumbers req₁.headers) = .ok client₁ →
      self.json.queryParams req₁.queryStr = .ok params →
      (∀ x ∈ w₁'.forwarded.drop w₁.forwarded.length, self.FillsExactly x) →
      self.CacheWritten (w₁'.spawned.drop w₁.spawned.length) quote.signedQuote w →
      (∀ t, self.redis t = .ok ()) →
      self.json.assembleRequest req.body (shouldStringifyNumbers req.headers) = .ok client →
      client.order = .quotedOrder quote.signedQuote updated →
      (updated.getD client₁.externalOrder).useExactOutputAmount = true →
      (updated.getD client₁.externalOrder).outputAmount = amount →
      ExactTrade self amount refund params req w bundle
        (if updated.isNone then [quote.signedQuote.quote.receive.amount] else [])

end Statement

variable {self : Server} {amount refund : Amount} {g : GasSponsorshipInfo}
  {params : GasSponsorshipQueryParams}

theorem InKind.requires_update (h : InKind refund g) (hpos : 0 < refund) :
    g.requiresMatchResultUpdate = true := by
  unfold GasSponsorshipInfo.requiresMatchResultUpdate
  rw [h.1, h.2, decide_eq_true hpos]
  rfl

theorem InKind.address (h : InKind refund g) (hpos : 0 < refund) (hquery : FromQuery params g) :
    g.getRefundAddress = params.getRefundAddress := by
  rcases hquery with rfl | ⟨haddress, -⟩
  · -- no refund at all
    rw [← h.2] at hpos
    exact absurd hpos (by decide)
  · exact haddress

/-- An exact order is reduced by the refund. -/
theorem updateExactOutput_inKind {order order' : ExternalOrder} (h : InKind refund g)
    (hpos : 0 < refund) (hexact : order.useExactOutputAmount = true)
    (hupdate : updateExactOutput applyGasSponsorshipToExactOutputAmount order g = .ok order') :
    order' = { order with outputAmount := order.outputAmount - refund } := by
  unfold updateExactOutput requiresExactOutputAmountUpdate at hupdate
  rw [hexact, h.requires_update hpos, Bool.and_true, if_pos rfl,
    applyGasSponsorshipToExactOutputAmount, adjustExactOutput, if_pos hexact, h.2,
    Except.ok.injEq] at hupdate
  exact hupdate.symm

/-- What the refund adds to the amounts the receiver is shown. -/
theorem InKind.received (h : InKind refund g) (hpos : 0 < refund) :
    Sponsor.received g = refund := by
  rw [Sponsor.received, if_pos (h.requires_update hpos), h.2]

/-- What the receiver ends up with, if the match pays the reduced amount. -/
theorem endsUpWith_eq_iff (call : SponsorExternalMatchCall)
    (hnative : call.options.refundNativeEth = false)
    (hamount : call.options.refundAmount = refund.setWidth 256) (hpos : 0 < refund)
    (hle : refund ≤ amount) :
    endsUpWith call (amount - refund) = amount.toNat ↔
      call.options.refundAddress = Address.zero ∨ call.options.refundAddress = call.recipient := by
  have hsub : (amount - refund).toNat = amount.toNat - refund.toNat :=
    BitVec.toNat_sub_of_le hle
  have hwide : (refund.setWidth 256).toNat = refund.toNat := by
    rw [BitVec.toNat_setWidth]
    exact Nat.mod_eq_of_lt (lt_of_lt_of_le refund.isLt (by decide))
  have hpos' : 0 < refund.toNat := BitVec.lt_def.mp hpos
  have hle' : refund.toNat ≤ amount.toNat := BitVec.le_def.mp hle
  have htarget : refundTarget call = call.recipient ↔
      call.options.refundAddress = Address.zero ∨ call.options.refundAddress = call.recipient := by
    unfold refundTarget
    by_cases hzero : call.options.refundAddress = Address.zero <;> simp [hzero]
  rw [← htarget, endsUpWith, hnative, hamount, hsub, hwide]
  by_cases hto : refundTarget call = call.recipient
  · simp only [hto, and_self, if_true, iff_true]
    omega
  · simp only [hto, and_false, if_false, iff_false]
    omega

/-! ## What is forwarded -/

/-- The request a call added to the log is among the new ones. -/
theorem mem_new_forwarded {w w' : ServerState} {x : Forwarded}
    (h : w'.forwarded = w.forwarded ++ [x]) : x ∈ w'.forwarded.drop w.forwarded.length := by
  rw [h, List.drop_left]
  exact List.mem_singleton_self x

/-- What the two flows have in common, when the assembly is forwarded: the refund, its address,
and an order for the amount without the refund. -/
structure Reduced (amount refund : Amount) (params : GasSponsorshipQueryParams)
    (g : GasSponsorshipInfo) (sent : ExternalMatchAssemblyType) (shown : List Amount) : Prop where
  inKind : InKind refund g
  address : g.getRefundAddress = params.getRefundAddress
  exact : (assembledOrder sent).useExactOutputAmount = true
  output : (assembledOrder sent).outputAmount = amount - refund
  shown : ∀ a ∈ shown, a = amount

/-- The order of a quote that was sent back is the one the relayer quoted, or the client's new
order without the refund. -/
theorem unsponsorQuote_ok {cached : CachedSponsorshipInfo} {signed signed' : ApiSignedQuote}
    {updated updated' : Option ExternalOrder}
    (hreq : cached.gasSponsorshipInfo.requiresMatchResultUpdate = true)
    (h : unsponsorQuote cached signed updated = .ok (signed', updated')) :
    removeGasSponsorshipFromQuote signed.quote cached = .ok signed'.quote ∧
      (updated = none → updated' = none) ∧
      ∀ order, updated = some order → ∃ order', updated' = some order' ∧
        updateExactOutput applyGasSponsorshipToExactOutputAmount order cached.gasSponsorshipInfo
          = .ok order' := by
  unfold unsponsorQuote at h
  rw [if_pos hreq] at h
  obtain ⟨quote, hquote, h⟩ := bind_ok.mp h
  cases updated with
  | none =>
      cases h
      exact ⟨hquote, fun _ => rfl, fun order hsome => absurd hsome.symm (Option.some_ne_none order)⟩
  | some order =>
      obtain ⟨updated'', hupdated, h⟩ := bind_ok.mp h
      obtain ⟨order', horder, hsome⟩ := map_ok.mp hupdated
      subst hsome
      cases h
      refine ⟨hquote, fun hnone => absurd hnone (Option.some_ne_none order), ?_⟩
      rintro _ ⟨⟩
      exact ⟨order', rfl, horder⟩

/-- The receive amount of an exact quote is raised back to the amount that was asked for. -/
theorem quoted_receive {client : ExternalQuoteRequest} {sent : ExternalOrder} {x : Forwarded}
    {res : ExternalQuoteResponse} {quote : SponsoredQuoteResponse} {queryStr : String}
    {cached : Option CachedSponsorshipInfo} (hkind : InKind refund g) (hpos : 0 < refund)
    (hexact : client.externalOrder.useExactOutputAmount = true)
    (hquoted : Quoted self queryStr client g sent x res quote cached)
    (hfills : self.FillsExactly x) :
    res.signedQuote.quote.order = sent ∧
      quote.signedQuote.quote.receive.amount = client.externalOrder.outputAmount := by
  have hsent := updateExactOutput_inKind hkind hpos hexact hquoted.order
  obtain ⟨options, hrequest⟩ := hquoted.request
  unfold FillsExactly at hfills
  rw [hrequest] at hfills
  have hexact' : sent.useExactOutputAmount = true := by
    rw [hsent]
    exact hexact
  obtain ⟨horder, hreceive⟩ := hfills hexact' res hquoted.answer
  refine ⟨horder, ?_⟩
  obtain ⟨updated, price, happly, hquote, -⟩ :=
    constructSponsoredQuoteResponse_inKind (hkind.requires_update hpos) hquoted.built
  obtain ⟨-, _, _, _, -, hupdated⟩ := applyGasSponsorshipToQuote_ok happly
  -- less the refund for the relayer, plus the refund for the client
  calc quote.signedQuote.quote.receive.amount
      = res.signedQuote.quote.receive.amount + g.refundAmount := by rw [hquote, hupdated]
    _ = client.externalOrder.outputAmount - refund + refund := by rw [hreceive, hsent, hkind.2]
    _ = client.externalOrder.outputAmount := BitVec.sub_add_cancel _ _

/-- A quote that is assembled with the info it was cached with. -/
theorem reduced_of_cached {client : ExternalQuoteRequest} {sent : ExternalOrder} {x : Forwarded}
    {res : ExternalQuoteResponse} {quote : SponsoredQuoteResponse} {queryStr : String}
    {cached : Option CachedSponsorshipInfo} {updatedQuote : ApiExternalQuote} {price : Float}
    {signed' : ApiSignedQuote} {updated updated' : Option ExternalOrder} (hkind : InKind refund g)
    (hpos : 0 < refund) (haddress : g.getRefundAddress = params.getRefundAddress)
    (hquoted : Quoted self queryStr client g sent x res quote cached) (hfills : self.FillsExactly x)
    (happly : applyGasSponsorshipToQuote self.fp res.signedQuote.quote g
      = .ok (updatedQuote, price))
    (hsigned : quote.signedQuote = { res.signedQuote with quote := updatedQuote })
    (hun : unsponsorQuote ⟨g, price, res.signedQuote.quote.matchResult.priceFp⟩ quote.signedQuote
      updated = .ok (signed', updated'))
    (hexact : (updated.getD client.externalOrder).useExactOutputAmount = true)
    (hamount : (updated.getD client.externalOrder).outputAmount = amount) :
    Reduced amount refund params g (.quotedOrder signed' updated')
      (if updated.isNone then [quote.signedQuote.quote.receive.amount] else []) := by
  obtain ⟨hrestored, hnone, hsome⟩ := unsponsorQuote_ok (hkind.requires_update hpos) hun
  cases updated with
  | none =>
      -- the order is the one the relayer quoted, which is the one it was sent
      rw [hsigned, removeGasSponsorshipFromQuote_apply happly, Except.ok.injEq] at hrestored
      obtain ⟨hsame, hreceive⟩ := quoted_receive hkind hpos hexact hquoted hfills
      have hsent := updateExactOutput_inKind hkind hpos hexact hquoted.order
      have horder : assembledOrder (.quotedOrder signed' updated') = sent := by
        rw [hnone rfl, assembledOrder, Option.getD_none, ← hrestored, hsame]
      refine ⟨hkind, haddress, ?_, ?_, ?_⟩
      · rw [horder, hsent]
        exact hexact
      · rw [horder, hsent]
        exact congrArg (· - refund) hamount
      · intro a ha
        rw [List.mem_singleton.mp ha, hreceive]
        exact hamount
  | some order =>
      obtain ⟨order', hupdated, hupdate⟩ := hsome order rfl
      have hsent := updateExactOutput_inKind hkind hpos hexact hupdate
      refine ⟨hkind, haddress, ?_, ?_, fun a ha => absurd ha List.not_mem_nil⟩
      · rw [hupdated, assembledOrder, Option.getD_some, hsent]
        exact hexact
      · rw [hupdated, assembledOrder, Option.getD_some, hsent]
        exact congrArg (· - refund) hamount

/-- On either flow, the order is forwarded without the refund. -/
theorem ExactTrade.reduced {req : RawRequest} {w : ServerState} {bundle : SponsoredMatchResponse}
    {shown : List Amount} {client : AssembleExternalMatchRequest} {sent : ExternalMatchAssemblyType}
    {x : Forwarded} {res : ExternalMatchResponse} {nonce : U256}
    (htrade : ExactTrade self amount refund params req w bundle shown) (hpos : 0 < refund)
    (hclient : self.json.assembleRequest req.body (shouldStringifyNumbers req.headers) = .ok client)
    (hassembled : Assembled self req.queryStr w.sponsorships client g sent x res nonce bundle) :
    Reduced amount refund params g sent shown := by
  have hsponsors := hassembled.sponsors
  cases htrade with
  | direct hparsed horder hexact hamount hquery hinfo hkind =>
      cases hclient.symm.trans hparsed
      obtain ⟨hg, -⟩ := Sponsor.constructSponsoredMatchResponse_ok hassembled.built
      cases hg.symm.trans hinfo
      rw [horder] at hsponsors
      cases hsponsors with
      | direct hquery' hfrom hupdate =>
          cases hquery.symm.trans hquery'
          have hsent := updateExactOutput_inKind hkind hpos hexact hupdate
          refine ⟨hkind, hkind.address hpos hfrom, ?_, ?_, fun a ha => absurd ha List.not_mem_nil⟩
          · rw [assembledOrder, hsent]
            exact hexact
          · rw [assembledOrder, hsent, hamount]
  | quoted hquote hkind hclient₁ hquery hfills hcache hredis hparsed horder hexact hamount =>
      cases hclient.symm.trans hparsed
      obtain ⟨client₁', sent₁, x₁, res₁, cached, updatedQuote, price, hclient₁', hquoted, hlog,
        happly, hsigned, hentry⟩ := quote_cached hquote (hkind.requires_update hpos) hcache
      cases hclient₁.symm.trans hclient₁'
      have hfilled := hfills x₁ (mem_new_forwarded hlog)
      obtain ⟨params', hquery', hfrom⟩ := hquoted.query
      cases hquery.symm.trans hquery'
      rw [horder] at hsponsors
      cases hsponsors with
      | unsponsored hnone =>
          rw [hnone hredis] at hentry
          cases hentry
      | cached hstored hun =>
          -- the entry is the one the quote call wrote
          cases hentry.symm.trans hstored
          exact reduced_of_cached hkind hpos (hkind.address hpos hfrom) hquoted hfilled happly
            hsigned hun hexact hamount

/-! ## What is received -/

/-- **When the receiver gets the amount it fixed.** An order fixes `amount` and is refunded
`refund` in kind; the relayer fills what it is sent exactly. Then the receiver ends up with the
amount, and the quote and the bundle say so, if and only if the refund address of the query
parameters is zero (also: unset or malformed) or the recipient in the relayer's settlement. -/
theorem exactOutput_iff (self : Server) (habi : self.abi.Lawful) {amount refund : Amount}
    (hpos : 0 < refund) (hle : refund ≤ amount) {params : GasSponsorshipQueryParams}
    {req : RawRequest} {w w' : ServerState} {resp : BytesResponse} {bundle : SponsoredMatchResponse}
    {stringify : Bool} {announced : List Amount}
    (htrade : ExactTrade self amount refund params req w bundle announced)
    (hassemble : exec (self.handleAssembleMatchBundleRequest req) w = (.ok resp, w'))
    (hbody : resp.body = .bundle bundle stringify)
    (hfills : ∀ x ∈ w'.forwarded.drop w.forwarded.length, self.FillsExactly x) :
    ∃ x body res settle, w'.forwarded = w.forwarded ++ [x] ∧ x.request = .assemble body ∧
      Answers self self.json.matchResponse x res ∧
      self.abi.decodeSettle (res.matchBundle.calldata.getD []) = .ok settle ∧
      (self.Delivers amount (assembledOrder body.order).outputAmount bundle
          (bundle.matchBundle.minReceive.amount :: bundle.matchBundle.maxReceive.amount ::
            announced) ↔
        params.getRefundAddress = Address.zero ∨ params.getRefundAddress = settle.recipient) := by
  obtain ⟨client, g, sent, x, res, nonce, hclient, hassembled, hlog⟩ :=
    handleAssembleMatchBundleRequest_ok hassemble hbody
  obtain ⟨hkind, haddress, hexact, houtput, hannounced⟩ :=
    htrade.reduced hpos hclient hassembled
  obtain ⟨options, hrequest⟩ := hassembled.request
  obtain ⟨-, ⟨settle, signature, hsettle, hcalldata⟩, -, hmax, hmin⟩ :=
    Sponsor.constructSponsoredMatchResponse_ok hassembled.built
  refine ⟨x, _, res, settle, hlog, hrequest, hassembled.answer, hsettle, ?_⟩
  -- the relayer matches the reduced amount, and the refund is added to what it says
  have hfilled := hfills x (mem_new_forwarded hlog)
  unfold FillsExactly at hfilled
  rw [hrequest] at hfilled
  obtain ⟨hresMin, hresMax⟩ := hfilled hexact res hassembled.answer
  rw [hresMin, hkind.received hpos, houtput, BitVec.sub_add_cancel] at hmin
  rw [hresMax, hkind.received hpos, houtput, BitVec.sub_add_cancel] at hmax
  rw [hmin, hmax, ← haddress]
  change self.Delivers amount (assembledOrder sent).outputAmount bundle _ ↔ _
  rw [houtput]
  have hends := endsUpWith_eq_iff { settle with options :=
    ⟨g.getRefundAddress, g.getRefundAmount, g.refundNativeEth, nonce, signature⟩ }
    hkind.1 (by rw [← hkind.2]; rfl) hpos hle
  constructor
  · rintro ⟨calldata, call, hcall, hdecode, hgets, -⟩
    cases hcalldata.symm.trans hcall
    cases (habi.decode_encode _).symm.trans hdecode
    exact hends.mp hgets
  · intro haddr
    refine ⟨_, _, hcalldata, habi.decode_encode _, hends.mpr haddr, ?_⟩
    intro a ha
    have heq : a = amount := by
      rcases List.mem_cons.mp ha with rfl | ha
      · rfl
      · rcases List.mem_cons.mp ha with rfl | ha
        · rfl
        · exact hannounced a ha
    rw [heq, hends.mpr haddr]

/-! ## Two clients of the sample deployment

Both want exactly 10 and are refunded 3, so that the relayer is asked for 7. -/

/-- The orders the relayer of the deployment fills exactly. -/
def asksForSeven (x : Forwarded) : Bool :=
  match x.request with
  | .quote req => decide (req.externalOrder = sampleQuote.order)
  | .assemble req => decide ((assembledOrder req.order).outputAmount = 7)

theorem fillsExactly_plain {xs : List Forwarded} (h : xs.all asksForSeven = true) :
    ∀ x ∈ xs, plainServer.FillsExactly x := by
  intro x hx
  have hseven := List.all_eq_true.mp h x hx
  unfold asksForSeven at hseven
  unfold FillsExactly
  cases hreq : x.request with
  | quote req =>
      rw [hreq] at hseven
      rintro - res ⟨t, headers, body, -, hparse⟩
      have hres : sampleQuoteResponse = res := Except.ok.inj hparse
      subst hres
      rw [of_decide_eq_true hseven]
      exact ⟨rfl, rfl⟩
  | assemble req =>
      rw [hreq] at hseven
      rintro - res ⟨t, headers, body, -, hparse⟩
      have hres : ExternalMatchResponse.mk settledBundle = res := Except.ok.inj hparse
      subst hres
      dsimp only
      rw [of_decide_eq_true hseven]
      exact ⟨rfl, rfl⟩

/-- What the receiver ends up with if the match pays 7. -/
def receipt (resp : BytesResponse) : Option (GasSponsorshipInfo × Nat) :=
  match resp.body with
  | .bundle bundle _ => do
      let g ← bundle.gasSponsorshipInfo
      let calldata ← bundle.matchBundle.calldata
      let call ← (plainAbi.decodeSponsor calldata).toOption
      return (g, endsUpWith call 7)
  | _ => none

theorem receipt_eq_some {resp : BytesResponse} {g : GasSponsorshipInfo} {n : Nat}
    (h : receipt resp = some (g, n)) :
    ∃ bundle stringify, resp.body = .bundle bundle stringify ∧
      bundle.gasSponsorshipInfo = some g ∧
      ∀ amount shown, plainServer.Delivers amount 7 bundle shown → amount.toNat = n := by
  unfold receipt at h
  split at h
  case h_2 => cases h
  case h_1 bundle stringify hbody =>
    obtain ⟨g', hg, h⟩ := Option.bind_eq_some_iff.mp h
    obtain ⟨calldata, hcalldata, h⟩ := Option.bind_eq_some_iff.mp h
    obtain ⟨call, hcall, h⟩ := Option.bind_eq_some_iff.mp h
    cases h
    refine ⟨bundle, stringify, hbody, hg, ?_⟩
    rintro amount shown ⟨calldata', call', hcalldata', hcall', hgets, -⟩
    cases hcalldata.symm.trans hcalldata'
    change plainAbi.decodeSponsor calldata = _ at hcall'
    rw [hcall'] at hcall
    cases hcall
    exact hgets.symm

/-- One of them sends its refund to address 9, and places a direct order. It is shown 10 and
the receiver, address 4, gets 7. -/
theorem refund_elsewhere_short :
    ∃ params resp bundle stringify,
      (exec (plainServer.handleAssembleMatchBundleRequest (plainRequest "refund_address=9" []))
        plainState).1 = .ok resp ∧
      resp.body = .bundle bundle stringify ∧
      ExactTrade plainServer 10 3 params (plainRequest "refund_address=9" []) plainState bundle [] ∧
      (∀ x ∈ (exec (plainServer.handleAssembleMatchBundleRequest
          (plainRequest "refund_address=9" [])) plainState).2.forwarded,
        plainServer.FillsExactly x) ∧
      ∀ shown, ¬ plainServer.Delivers 10 7 bundle shown := by
  obtain ⟨resp, hassemble, hreceipt⟩ := exec_of_observe
    (show observe receipt
      (plainServer.handleAssembleMatchBundleRequest (plainRequest "refund_address=9" [])) plainState
        = some (⟨3, false, some (Address.format 9)⟩, 7) by decide +kernel)
  obtain ⟨bundle, stringify, hbody, hinfo, hgets⟩ := receipt_eq_some hreceipt
  refine ⟨_, resp, bundle, stringify, congrArg Prod.fst hassemble, hbody,
    .direct rfl rfl rfl rfl rfl hinfo ⟨rfl, rfl⟩, fillsExactly_plain (by decide +kernel), ?_⟩
  intro shown hdelivers
  exact absurd (hgets 10 shown hdelivers) (by decide)

/-- The other one leaves its refund with the receiver, and asks for a quote first. It is shown
10, twice, and the receiver gets 10. -/
theorem refund_to_receiver_exact :
    ∃ quote resp bundle stringify, ∃ (x : Forwarded) (body : AssembleExternalMatchRequest),
      Announced plainServer (plainRequest "" []) plainState (quoteRun "").2 quote inKindInfo ∧
      (exec (plainServer.handleAssembleMatchBundleRequest (plainRequest "" [2]))
        (afterTasks "")).1 = .ok resp ∧
      resp.body = .bundle bundle stringify ∧ x.request = .assemble body ∧
      plainServer.Delivers 10 (assembledOrder body.order).outputAmount bundle
        [bundle.matchBundle.minReceive.amount, bundle.matchBundle.maxReceive.amount,
          quote.signedQuote.quote.receive.amount] := by
  obtain ⟨quote, cached, ctx, hquote, hbuilt, hspawned⟩ :=
    @quoteRun_shown "" inKindInfo (by decide +kernel)
  obtain ⟨resp, hassemble, hinfo⟩ := exec_of_observe
    (show observe bundleInfo (plainServer.handleAssembleMatchBundleRequest (plainRequest "" [2]))
      (afterTasks "") = some inKindInfo by decide +kernel)
  obtain ⟨bundle, stringify, hbody, -⟩ := bundleInfo_eq_some hinfo
  have htrade : ExactTrade plainServer 10 3 _ (plainRequest "" [2]) (afterTasks "") bundle
      (if (none : Option ExternalOrder).isNone then [quote.signedQuote.quote.receive.amount]
        else []) :=
    .quoted hquote ⟨rfl, rfl⟩ rfl rfl (fillsExactly_plain (by decide +kernel))
      (cacheWritten_afterTasks hspawned (by decide +kernel)) (fun _ => rfl) rfl
      (readAssembly_sponsored hbuilt) rfl rfl
  obtain ⟨x, body, res, settle, -, hrequest, -, -, hiff⟩ :=
    exactOutput_iff plainServer plainAbi_lawful (by decide) (by decide) htrade hassemble hbody
      (fillsExactly_plain (by decide +kernel))
  exact ⟨quote, resp, bundle, stringify, x, body, hquote, congrArg Prod.fst hassemble, hbody,
    hrequest, hiff.mpr (.inl rfl)⟩

end RelayerExtensions.Auth.Server
