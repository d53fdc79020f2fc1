import RelayerExtensions.Auth.Endpoint

/-!
# Whether an announced refund is firm

A quote announces a refund, and the documentation of the API calls the amount firm: it
will not change when the quote is assembled. Between the two requests the server
remembers the sponsorship in Redis, under a hash of the quote's signature, and the
assembly goes by what it finds there.

Only a refund in kind is written there, because only then does the quote have to be
restored. `firm_refund_iff` says what this means for the client: the bundle carries the
announced sponsorship exactly if the refund was in kind, or Redis holds that very
sponsorship for some other reason. A refund in native ETH is announced and then dropped.
-/

namespace RelayerExtensions.Auth.Server

open Effect

section Statement

variable (self : Server)

/-- The bundle is sponsored with exactly this info: it says so, and its calldata makes the
contract pay it. -/
def SponsoredWith (g : GasSponsorshipInfo) (shown : SponsoredMatchResponse) : Prop :=
  shown.gasSponsorshipInfo = some g ∧
    ∃ calldata call, shown.matchBundle.calldata = some calldata ∧
      self.abi.decodeSponsor calldata = .ok call ∧
      call.options.refundAmount = g.getRefundAmount ∧
      call.options.refundNativeEth = g.refundNativeEth ∧
      call.options.refundAddress = g.getRefundAddress

/-- The sponsorship Redis has for a quote, which is none if it has no entry. -/
def storedInfo (w : ServerState) (signed : ApiSignedQuote) : GasSponsorshipInfo :=
  ((w.sponsorships (self.generateQuoteUuid signed)).map (·.gasSponsorshipInfo)).getD .zero

/-- Every task in `jobs` that has an info to cache has run to its end, and what it left in Redis
for the quote is still there in state `w`. -/
def CacheWritten (jobs : List Job) (signed : ApiSignedQuote) (w : ServerState) : Prop :=
  ∀ ctx info, .quoteMetrics ctx (some info) ∈ jobs →
    ∃ before after, exec (self.runJob (.quoteMetrics ctx (some info))) before = (.ok (), after) ∧
      w.sponsorships (self.generateQuoteUuid signed)
        = after.sponsorships (self.generateQuoteUuid signed)

/-- A call of the quote endpoint, from state `w` to state `w'`, returned this quote and announced
this sponsorship with it. -/
structure Announced (server : Server) (req : RawRequest) (w w' : ServerState)
    (quote : SponsoredQuoteResponse) (g : GasSponsorshipInfo) : Prop where
  returned : ∃ resp stringify, exec (server.handleQuoteRequest req) w = (.ok resp, w') ∧
    resp.body = .quote quote stringify
  info : quote.gasSponsorshipInfo = some g

/-- The request assembles the quote, as it was signed or with an updated order. -/
def Assembles (req : RawRequest) (signed : ApiSignedQuote) : Prop :=
  ∃ client updated,
    self.json.assembleRequest req.body (shouldStringifyNumbers req.headers) = .ok client ∧
      client.order = .quotedOrder signed updated

end Statement

variable {self : Server}

/-- A task that ran to its end has written its info under the quote it was spawned for. -/
theorem runJob_quote {ctx : SponsoredQuoteResponseCtx} {shown : SponsoredQuoteResponse}
    {info : CachedSponsorshipInfo} {w w' : ServerState} (hshown : ctx.response = some shown)
    (h : exec (self.runJob (.quoteMetrics ctx (some info))) w = (.ok (), w')) :
    w'.sponsorships (self.generateQuoteUuid shown.signedQuote) = some info := by
  unfold runJob at h
  obtain ⟨resp, w₁, hread, hwrite⟩ := exec_bind_ok.mp h
  obtain ⟨hresp, -⟩ := responseOf_ok hread
  cases hshown.symm.trans hresp
  unfold cacheQuoteGasSponsorshipInfo writeSponsorshipInfoToRedis onRedis at hwrite
  obtain ⟨u, w₂, hset, hexpire⟩ := exec_bind_ok.mp hwrite
  -- neither command failed, and only the first one changes the entry
  rw [exec_ask_bind] at hset hexpire
  split at hset
  · rw [exec_modify, Prod.mk.injEq] at hset
    obtain ⟨-, rfl⟩ := hset
    split at hexpire
    · obtain ⟨-, rfl⟩ := exec_pure_ok.mp hexpire
      exact Function.update_self ..
    · exact absurd hexpire exec_throw_ne_ok
  · exact absurd hset exec_throw_ne_ok

/-- Assembling goes by what Redis has, if Redis answers. -/
theorem sponsors_stored {w : ServerState} {queryStr : String} {signed : ApiSignedQuote}
    {updated : Option ExternalOrder} {sent : ExternalMatchAssemblyType} {g : GasSponsorshipInfo}
    (hredis : ∀ t, self.redis t = .ok ())
    (h : Sponsors self w.sponsorships queryStr (.quotedOrder signed updated) sent g) :
    g = self.storedInfo w signed := by
  unfold storedInfo
  cases h with
  | unsponsored hnone =>
      rw [hnone hredis]
      rfl
  | cached hentry _ =>
      rw [hentry]
      rfl

/-- The info a bundle was built with is the only one it is sponsored with. -/
theorem sponsoredWith_iff {res : ExternalMatchResponse} {g g' : GasSponsorshipInfo} {nonce : U256}
    {shown : SponsoredMatchResponse} (habi : self.abi.Lawful)
    (h : self.toSponsor.constructSponsoredMatchResponse res g' nonce = .ok shown) :
    self.SponsoredWith g shown ↔ g' = g := by
  obtain ⟨hinfo, ⟨settle, signature, -, hcalldata⟩, -⟩ :=
    Sponsor.constructSponsoredMatchResponse_ok h
  constructor
  · rintro ⟨hg, -⟩
    rw [hinfo, Option.some.injEq] at hg
    exact hg
  · rintro rfl
    exact ⟨hinfo, _, _, hcalldata, habi.decode_encode _, rfl, rfl, rfl⟩

/-- A refund announced in kind is in Redis when the quote is assembled, with all it takes to
restore the quote. -/
theorem quote_cached {req : RawRequest} {w w' w₂ : ServerState} {quote : SponsoredQuoteResponse}
    {g : GasSponsorshipInfo} (hquote : Announced self req w w' quote g)
    (hreq : g.requiresMatchResultUpdate = true)
    (hcache : self.CacheWritten (w'.spawned.drop w.spawned.length) quote.signedQuote w₂) :
    ∃ client sent x res cached updated price,
      self.json.quoteRequest req.body (shouldStringifyNumbers req.headers) = .ok client ∧
      Quoted self req.queryStr client g sent x res quote cached ∧
      w'.forwarded = w.forwarded ++ [x] ∧
      applyGasSponsorshipToQuote self.fp res.signedQuote.quote g = .ok (updated, price) ∧
      quote.signedQuote = { res.signedQuote with quote := updated } ∧
      w₂.sponsorships (self.generateQuoteUuid quote.signedQuote)
        = some ⟨g, price, res.signedQuote.quote.matchResult.priceFp⟩ := by
  obtain ⟨resp, stringify, hrun, hbody⟩ := hquote.returned
  obtain ⟨client, g', sent, x, res, cached, ctx, hclient, hquoted, hshown, htraces⟩ :=
    handleQuoteRequest_ok hrun hbody
  have hg' : g' = g :=
    Option.some.inj ((constructSponsoredQuoteResponse_info hquoted.built).symm.trans hquote.info)
  subst hg'
  obtain ⟨updated, price, happly, hres, hcached⟩ :=
    constructSponsoredQuoteResponse_inKind hreq hquoted.built
  refine ⟨client, sent, x, res, cached, updated, price, hclient, hquoted,
    congrArg Traces.forwarded htraces, happly, by rw [hres], ?_⟩
  -- the task of the call has run, and what it wrote is still there
  have hspawned : w'.spawned = w.spawned ++ [.quoteMetrics ctx cached] :=
    congrArg Traces.spawned htraces
  rw [hspawned, List.drop_left, hcached] at hcache
  obtain ⟨before, after, htask, hkept⟩ := hcache ctx _ (List.mem_singleton_self _)
  rw [hkept, runJob_quote hshown htask]

/-- **When the announced refund is firm.** A quote call announced `g`, and the quote is
assembled unmodified, with the cache written if the quote call writes it, and Redis answering.
Then the bundle is sponsored with exactly `g` if and only if the refund is in kind and not zero,
or Redis has `g` for the quote (no refund, if it has nothing). -/
theorem firm_refund_iff (self : Server) (habi : self.abi.Lawful)
    (hredis : ∀ t, self.redis t = .ok ()) {req₁ req₂ : RawRequest} {w₁ w₁' w₂ w₂' : ServerState}
    {quote : SponsoredQuoteResponse} {g : GasSponsorshipInfo} {resp : BytesResponse}
    {bundle : SponsoredMatchResponse} {stringify : Bool}
    (hquote : Announced self req₁ w₁ w₁' quote g)
    (hcache : self.CacheWritten (w₁'.spawned.drop w₁.spawned.length) quote.signedQuote w₂)
    (hsame : self.Assembles req₂ quote.signedQuote)
    (hassemble : exec (self.handleAssembleMatchBundleRequest req₂) w₂ = (.ok resp, w₂'))
    (hbody : resp.body = .bundle bundle stringify) :
    self.SponsoredWith g bundle ↔
      g.requiresMatchResultUpdate = true ∨ self.storedInfo w₂ quote.signedQuote = g := by
  obtain ⟨client₂, g₂, sent₂, x₂, res₂, nonce, hclient₂, hassembled, -⟩ :=
    handleAssembleMatchBundleRequest_ok hassemble hbody
  -- the assembly uses the info in Redis
  have hg₂ : g₂ = self.storedInfo w₂ quote.signedQuote := by
    obtain ⟨client, updated, hparsed, horder⟩ := hsame
    cases hclient₂.symm.trans hparsed
    have hsponsors := hassembled.sponsors
    rw [horder] at hsponsors
    exact sponsors_stored hredis hsponsors
  rw [sponsoredWith_iff habi hassembled.built, hg₂]
  constructor
  · exact Or.inr
  · rintro (hreq | hstored)
    · obtain ⟨_, _, _, _, _, _, _, -, -, -, -, -, hentry⟩ :=
        quote_cached hquote hreq hcache
      unfold storedInfo
      rw [hentry]
      rfl
    · exact hstored

/-! ## Two clients of the sample deployment

Both ask for the same quote; one wants the refund in native ETH. -/

/-- The quote call of a client, from the initial state. -/
def quoteRun (queryStr : String) : Except Abort BytesResponse × ServerState :=
  exec (plainServer.handleQuoteRequest (plainRequest queryStr [])) plainState

/-- The tasks of the quote call have run. -/
def afterTasks (queryStr : String) : ServerState :=
  (quoteRun queryStr).2.spawned.foldl (fun w job => (exec (plainServer.runJob job) w).2)
    (quoteRun queryStr).2

/-- What a quote of the deployment looks like, given what it announces. -/
theorem quoteRun_shown {queryStr : String} {g : GasSponsorshipInfo}
    (h : observe quotedInfo (plainServer.handleQuoteRequest (plainRequest queryStr [])) plainState
      = some g) :
    ∃ quote cached ctx,
      Announced plainServer (plainRequest queryStr []) plainState (quoteRun queryStr).2 quote g ∧
      constructSponsoredQuoteResponse plainFixedPoint sampleQuoteResponse g = .ok (quote, cached) ∧
      (quoteRun queryStr).2.spawned = [.quoteMetrics ctx cached] := by
  obtain ⟨resp, hrun, hinfo⟩ := exec_of_observe h
  obtain ⟨quote, stringify, hbody, hg⟩ := quotedInfo_eq_some hinfo
  obtain ⟨client, g', sent, x, res, cached, ctx, -, hquoted, -, htraces⟩ :=
    handleQuoteRequest_ok hrun hbody
  obtain ⟨t, headers, body, -, hparse⟩ := hquoted.answer
  have hbuilt := hquoted.built
  have hres : sampleQuoteResponse = res := Except.ok.inj hparse
  have hg' : g' = g :=
    Option.some.inj ((constructSponsoredQuoteResponse_info hbuilt).symm.trans hg)
  subst hres hg'
  exact ⟨quote, cached, ctx, ⟨⟨resp, stringify, hrun, hbody⟩, hg⟩, hbuilt,
    congrArg Traces.spawned htraces⟩

theorem readAssembly_sponsored {quote : SponsoredQuoteResponse}
    {cached : Option CachedSponsorshipInfo}
    (h : constructSponsoredQuoteResponse plainFixedPoint sampleQuoteResponse inKindInfo
      = .ok (quote, cached)) :
    readAssembly [2] = .quotedOrder quote.signedQuote none := by
  change ExternalMatchAssemblyType.quotedOrder sponsoredQuote none = _
  unfold sponsoredQuote
  rw [h]

/-- The only task of a quote call has run, and it succeeded. -/
theorem cacheWritten_afterTasks {queryStr : String} {job : Job} {signed : ApiSignedQuote}
    (hspawned : (quoteRun queryStr).2.spawned = [job]) (hok : (quoteRun queryStr).2.spawned.all
      (fun job => (exec (plainServer.runJob job) (quoteRun queryStr).2).1.isOk) = true) :
    plainServer.CacheWritten (quoteRun queryStr).2.spawned signed (afterTasks queryStr) := by
  intro ctx info hmem
  have hrun := List.all_eq_true.mp hok _ hmem
  rw [hspawned, List.mem_singleton] at hmem
  subst hmem
  rcases hexec : exec (plainServer.runJob (.quoteMetrics ctx (some info))) (quoteRun queryStr).2
    with ⟨r, after⟩
  rw [hexec] at hrun
  cases r with
  | error e => cases hrun
  | ok u =>
      refine ⟨_, after, hexec, ?_⟩
      unfold afterTasks
      rw [hspawned, List.foldl_cons, List.foldl_nil, hexec]

/-- A refund of 3 in native ETH is announced. There is nothing to cache, and the assembly of the
quote finds nothing: the bundle is not sponsored with what was announced. -/
theorem native_refund_dropped :
    ∃ quote resp bundle stringify,
      Announced plainServer (plainRequest "refund_native_eth=true" []) plainState
        (quoteRun "refund_native_eth=true").2 quote ⟨3, true, none⟩ ∧
      plainServer.CacheWritten (quoteRun "refund_native_eth=true").2.spawned quote.signedQuote
        (afterTasks "refund_native_eth=true") ∧
      plainServer.Assembles (plainRequest "" [1]) quote.signedQuote ∧
      (exec (plainServer.handleAssembleMatchBundleRequest (plainRequest "" [1]))
        (afterTasks "refund_native_eth=true")).1 = .ok resp ∧
      resp.body = .bundle bundle stringify ∧
      ¬ plainServer.SponsoredWith ⟨3, true, none⟩ bundle := by
  obtain ⟨quote, cached, ctx, hquote, hbuilt, hspawned⟩ :=
    @quoteRun_shown "refund_native_eth=true" ⟨3, true, none⟩ (by decide +kernel)
  obtain ⟨resp, hassemble, hinfo⟩ := exec_of_observe
    (show observe bundleInfo (plainServer.handleAssembleMatchBundleRequest (plainRequest "" [1]))
      (afterTasks "refund_native_eth=true") = some .zero by decide +kernel)
  obtain ⟨bundle, stringify, hbody, hzero⟩ := bundleInfo_eq_some hinfo
  obtain ⟨rfl, rfl⟩ := constructSponsoredQuoteResponse_other (by decide) hbuilt
  refine ⟨_, resp, bundle, stringify, hquote, ?_, ⟨_, none, rfl, rfl⟩,
    congrArg Prod.fst hassemble, hbody, ?_⟩
  · rw [hspawned]
    intro ctx' info hmem
    cases List.mem_singleton.mp hmem
  · rintro ⟨hsome, -⟩
    rw [hzero] at hsome
    exact absurd hsome (by decide)

/-- The client that takes the refund of 3 in kind gets the bundle it was promised. -/
theorem in_kind_refund_firm :
    ∃ resp bundle stringify,
      (exec (plainServer.handleAssembleMatchBundleRequest (plainRequest "" [2]))
        (afterTasks "")).1 = .ok resp ∧
      resp.body = .bundle bundle stringify ∧ plainServer.SponsoredWith inKindInfo bundle := by
  obtain ⟨quote, cached, ctx, hquote, hbuilt, hspawned⟩ :=
    @quoteRun_shown "" inKindInfo (by decide +kernel)
  obtain ⟨resp, hassemble, hinfo⟩ := exec_of_observe
    (show observe bundleInfo (plainServer.handleAssembleMatchBundleRequest (plainRequest "" [2]))
      (afterTasks "") = some inKindInfo by decide +kernel)
  obtain ⟨bundle, stringify, hbody, -⟩ := bundleInfo_eq_some hinfo
  refine ⟨resp, bundle, stringify, congrArg Prod.fst hassemble, hbody, ?_⟩
  refine (firm_refund_iff plainServer plainAbi_lawful (fun _ => rfl) hquote ?_ ?_
    hassemble hbody).mpr (.inl (by decide))
  · exact cacheWritten_afterTasks hspawned (by decide +kernel)
  · exact ⟨_, none, rfl, readAssembly_sponsored hbuilt⟩

end RelayerExtensions.Auth.Server
