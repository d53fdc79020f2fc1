import RelayerExtensions.Auth.Endpoint

/-!
# The fee on forwarded requests

The server charges each key a relayer fee of its own, by writing the fee into the
options of every request it forwards; whatever fee the client put there is
overwritten. `set_relayer_fee` does this once, when the context of the request is
built, and routing and sponsorship do not touch it afterwards.

The assembly that follows the quote of a malleable RFQT request is made in a context
that is built in the middle of the handler, with options of its own, and nothing sets
the fee there. `relayerFee_iff` says that this is the only request of its kind.
-/

namespace RelayerExtensions.Auth.Server

open Effect

def RelayerRequest.isAssemble : RelayerRequest → Bool
  | .quote _ => false
  | .assemble _ => true

section Statement

variable (self : Server)

/-- The base ticker of what the client asks for. -/
def requestTicker (endpoint : Endpoint) (req : RawRequest) : Except AuthServerError String :=
  match endpoint with
  | .quote => do
      let client ← (self.json.quoteRequest req.body
        (shouldStringifyNumbers req.headers)).mapError .serde
      self.baseTicker self.quoteType client
  | .assemble => do
      let client ← (self.json.assembleRequest req.body
        (shouldStringifyNumbers req.headers)).mapError .serde
      self.baseTicker self.assembleType client
  | .rfqt => do
      let rfq ← (self.json.rfqtRequest req.body false).mapError .serde
      if shouldUseMalleableCalldata req.queryStr then
        self.baseTicker self.quoteType (createQuoteRequest rfq)
      else
        let client ← createDirectMatchRequest rfq
        self.baseTicker self.assembleType client

/-- The fee of the request's key for the asset it asks for: what `get_user_fee` returns. -/
def FeeOf (endpoint : Endpoint) (req : RawRequest) (fees : FeeStore) (fee : Float) : Prop :=
  ∃ key ticker, requestKey self.auth req = .ok key ∧
    self.requestTicker endpoint req = .ok ticker ∧ Charges fees key ticker fee

/-- The second request of an RFQT call with malleable calldata. -/
def RfqtAssembly (endpoint : Endpoint) (req : RawRequest) (x : Forwarded) : Prop :=
  endpoint = .rfqt ∧ shouldUseMalleableCalldata req.queryStr = true ∧
    RelayerRequest.isAssemble x.request = true

/-- The request carries the fee of its key, unless it is that one. -/
def FeeIff (endpoint : Endpoint) (req : RawRequest) (fees : FeeStore) (x : Forwarded) : Prop :=
  ∃ fee, self.FeeOf endpoint req fees fee ∧
    (x.request.options.relayerFeeRate = some fee ↔ ¬ RfqtAssembly endpoint req x)

end Statement

variable {self : Server} {endpoint : Endpoint} {req : RawRequest} {fees : FeeStore}

theorem feeIff_charged {x : Forwarded} {fee : Float} (hfee : self.FeeOf endpoint req fees fee)
    (hx : x.request.options.relayerFeeRate = some fee)
    (hnot : ¬ RfqtAssembly endpoint req x) : self.FeeIff endpoint req fees x :=
  ⟨fee, hfee, fun _ => hnot, fun _ => hx⟩

theorem feeIff_free {x : Forwarded} {fee : Float} (hfee : self.FeeOf endpoint req fees fee)
    (hx : x.request.options.relayerFeeRate = none)
    (hrfqt : RfqtAssembly endpoint req x) : self.FeeIff endpoint req fees x := by
  refine ⟨fee, hfee, ?_, fun hnot => absurd hrfqt hnot⟩
  intro hsome
  rw [hx] at hsome
  cases hsome

/-! ## From a context on -/

/-- A quote is forwarded with the fee of its context. -/
theorem quote_appends {β : Type} {ctx : QuoteRequestCtx} {P : Forwarded → Prop} {w : ServerState}
    {k : QuoteRequestCtx → BytesResponse × QuoteResponseCtx → ServerM β}
    (hP : ∀ x, RelayerRequest.isAssemble x.request = false →
      x.request.options.relayerFeeRate = ctx.body.options.relayerFeeRate → P x)
    (hk : ∀ c p w, Appends ServerState.forwarded P (k c p) w) :
    Appends ServerState.forwarded P (do
      let c ← self.quotePreRequest ctx
      let p ← self.forwardRequest self.quoteType self.json.quoteResponse c
      k c p) w := by
  refine (Appends.of_keeps (keeps_forwarded (keeps_quotePreRequest ctx)) w).bind
    fun c w₁ hpre => ?_
  obtain ⟨global, order, g, rfl, -, -⟩ := quotePreRequest_ok hpre
  refine Appends.bind (forwardRequest_appends ?_ w₁) fun p w₂ _ => hk _ p w₂
  intro x hx
  refine hP x (by rw [hx]; rfl) ?_
  rw [hx]
  exact routeTo_fee global ctx.body.options

/-- So is an assembly, and nothing else is forwarded after it. -/
theorem assembly_appends {β : Type} {ctx : AssembleMatchRequestCtx} {P : Forwarded → Prop}
    {w : ServerState} {k : BytesResponse × ExternalMatchResponseCtx → ServerM β}
    (hP : ∀ x, RelayerRequest.isAssemble x.request = true →
      x.request.options.relayerFeeRate = ctx.body.options.relayerFeeRate → P x)
    (hk : ∀ p, Keeps ServerState.forwarded (k p)) :
    Appends ServerState.forwarded P (do
      let c ← self.assemblyPreRequest ctx
      let p ← self.forwardRequest self.assembleType self.json.matchResponse c
      k p) w := by
  refine (Appends.of_keeps (keeps_forwarded (keeps_assemblyPreRequest ctx)) w).bind
    fun c w₁ hpre => ?_
  obtain ⟨global, order, g, rfl, -⟩ := assemblyPreRequest_ok hpre
  refine Appends.bind (forwardRequest_appends ?_ w₁) fun p w₂ _ => Appends.of_keeps (hk p) w₂
  intro x hx
  refine hP x (by rw [hx]; rfl) ?_
  rw [hx]
  exact routeTo_fee global ctx.body.options

/-! ## The endpoints -/

theorem feeIff_quote (req : RawRequest) (w : ServerState) :
    Appends ServerState.forwarded (self.FeeIff .quote req w.fees)
      (self.handleQuoteRequest req) w := by
  refine (Appends.of_keeps (keeps_forwarded (keeps_preprocessRequest req)) w).bind
    fun ctx w₁ hpre => ?_
  obtain ⟨client, hclient, hctx⟩ := preprocessRequest_ok hpre
  obtain ⟨ticker, fee, hticker, hcharges, hbody⟩ := hctx.fee
  have hfee : self.FeeOf .quote req w.fees fee :=
    ⟨ctx.keyId, ticker, hctx.key,
      bind_ok.mpr ⟨client, mapError_ok.mpr hclient, hticker⟩, hcharges⟩
  refine quote_appends ?_ fun _ p w₂ => Appends.of_keeps (keeps_quotePostRequest _ _) w₂
  intro x _ hx
  rw [hbody] at hx
  refine feeIff_charged hfee hx ?_
  rintro ⟨hrfqt, -⟩
  cases hrfqt

theorem feeIff_assemble (req : RawRequest) (w : ServerState) :
    Appends ServerState.forwarded (self.FeeIff .assemble req w.fees)
      (self.handleAssembleMatchBundleRequest req) w := by
  refine (Appends.of_keeps (keeps_forwarded (keeps_preprocessRequest req)) w).bind
    fun ctx w₁ hpre => ?_
  obtain ⟨client, hclient, hctx⟩ := preprocessRequest_ok hpre
  obtain ⟨ticker, fee, hticker, hcharges, hbody⟩ := hctx.fee
  have hfee : self.FeeOf .assemble req w.fees fee :=
    ⟨ctx.keyId, ticker, hctx.key,
      bind_ok.mpr ⟨client, mapError_ok.mpr hclient, hticker⟩, hcharges⟩
  refine assembly_appends ?_ fun p => keeps_assemblyPostRequest _ _
  intro x _ hx
  rw [hbody] at hx
  refine feeIff_charged hfee hx ?_
  rintro ⟨hrfqt, -⟩
  cases hrfqt

/-- How the context of an RFQT request is built, on either path. -/
theorem rfqtPreRequest_ok {req : RawRequest} {variant : RequestContextVariant}
    {rfq : RfqtQuoteRequest} {w w' : ServerState}
    (h : exec (self.rfqtPreRequest req) w = (.ok (variant, rfq), w')) :
    self.json.rfqtRequest req.body false = .ok rfq ∧
    ((∃ ctx, variant = .malleable ctx ∧ shouldUseMalleableCalldata req.queryStr = true ∧
        ∃ w₁, w₁.fees = w.fees ∧
          Preprocessed self self.quoteType req w₁ (createQuoteRequest rfq) ctx) ∨
      ∃ ctx client, variant = .direct ctx ∧ shouldUseMalleableCalldata req.queryStr = false ∧
        createDirectMatchRequest rfq = .ok client ∧
        ∃ w₁, w₁.fees = w.fees ∧ Preprocessed self self.assembleType req w₁ client ctx) := by
  unfold rfqtPreRequest at h
  obtain ⟨⟨desc, key⟩, w₁, hauth, h⟩ := exec_bind_ok.mp h
  obtain ⟨hkey, hfees⟩ := authorize_ok hauth
  obtain ⟨rfq', hrfq, h⟩ := exec_lift_bind_ok.mp h
  by_cases hm : shouldUseMalleableCalldata req.queryStr = true
  · rw [if_pos hm] at h
    obtain ⟨ctx, w₂, hctx, h⟩ := exec_bind_ok.mp h
    obtain ⟨hp, -⟩ := exec_pure_ok.mp h
    cases hp
    exact ⟨mapError_ok.mp hrfq, .inl ⟨ctx, rfl, hm, w₁, hfees, rfqtContext_ok hkey hctx⟩⟩
  · rw [if_neg hm] at h
    obtain ⟨client, hclient, h⟩ := exec_lift_bind_ok.mp h
    obtain ⟨ctx, w₂, hctx, h⟩ := exec_bind_ok.mp h
    obtain ⟨hp, -⟩ := exec_pure_ok.mp h
    cases hp
    exact ⟨mapError_ok.mp hrfq, .inr ⟨ctx, client, rfl, Bool.eq_false_iff.mpr hm, hclient, w₁,
      hfees, rfqtContext_ok hkey hctx⟩⟩

/-- The malleable path: the quote carries the fee, the assembly carries none. -/
theorem feeIff_malleable {ctx : QuoteRequestCtx} {rfq : RfqtQuoteRequest} {fee : Float}
    (hm : shouldUseMalleableCalldata req.queryStr = true) (hfee : self.FeeOf .rfqt req fees fee)
    (hctx : ctx.body.options.relayerFeeRate = some fee) (w : ServerState) :
    Appends ServerState.forwarded (self.FeeIff .rfqt req fees)
      (self.handleQuoteAndAssemble ctx rfq) w := by
  refine quote_appends ?_ fun c p w₁ => ?_
  · intro x hquote hx
    refine feeIff_charged hfee (hx.trans hctx) ?_
    rintro ⟨-, -, hassemble⟩
    rw [hquote] at hassemble
    cases hassemble
  · dsimp only
    split
    · exact Appends.of_keeps (keeps_pure _ _) w₁
    · refine (Appends.of_keeps (keeps_forwarded (keeps_sponsorResponse _)) w₁).bind
        fun sponsored w₂ _ => ?_
      -- the context of the assembly starts from options that set nothing
      have hassembly : ∀ w, Appends ServerState.forwarded (self.FeeIff .rfqt req fees) (do
          let c ← self.assemblyPreRequest (transformQuoteToAssembleMalleableCtx sponsored.1 c)
          let p ← self.forwardRequest self.assembleType self.json.matchResponse c
          let resp ← self.assemblyPostRequest p.1 p.2
          self.rfqtPostRequestMalleable rfq resp p.2) w := by
        intro w
        refine assembly_appends ?_ fun p => (keeps_assemblyPostRequest _ _).bind fun _ =>
          keeps_forwarded (keeps_rfqtPostRequest _ _ _ _)
        intro x hassemble hx
        exact feeIff_free hfee hx ⟨rfl, hm, hassemble⟩
      split
      · exact (Appends.of_keeps ((keeps_cacheQuote _ _).comp Prod.fst) w₂).bind
          fun _ w₃ _ => hassembly w₃
      · exact hassembly w₂

theorem feeIff_rfqt (req : RawRequest) (w : ServerState) :
    Appends ServerState.forwarded (self.FeeIff .rfqt req w.fees)
      (self.handleRfqtQuoteRequest req) w := by
  refine (Appends.of_keeps (keeps_forwarded (keeps_rfqtPreRequest req)) w).bind
    fun p w₁ hpre => ?_
  obtain ⟨variant, rfq⟩ := p
  obtain ⟨hrfq, hpaths⟩ := rfqtPreRequest_ok hpre
  rcases hpaths with ⟨ctx, rfl, hm, w₂, hfees, hctx⟩ |
    ⟨ctx, client, rfl, hd, hclient, w₂, hfees, hctx⟩
  · obtain ⟨ticker, fee, hticker, hcharges, hbody⟩ := hctx.fee
    have hreq : self.requestTicker .rfqt req = .ok ticker :=
      bind_ok.mpr ⟨rfq, mapError_ok.mpr hrfq, by rw [if_pos hm]; exact hticker⟩
    refine feeIff_malleable hm ⟨ctx.keyId, ticker, hctx.key, hreq, hfees ▸ hcharges⟩ ?_ w₁
    rw [hbody]
    rfl
  · obtain ⟨ticker, fee, hticker, hcharges, hbody⟩ := hctx.fee
    have hreq : self.requestTicker .rfqt req = .ok ticker :=
      bind_ok.mpr ⟨rfq, mapError_ok.mpr hrfq, by
        rw [if_neg (Bool.eq_false_iff.mp hd)]
        exact bind_ok.mpr ⟨client, hclient, hticker⟩⟩
    refine assembly_appends ?_ fun p => (keeps_assemblyPostRequest _ _).bind fun _ =>
      keeps_forwarded (keeps_rfqtPostRequest _ _ _ _)
    intro x _ hx
    rw [hbody] at hx
    refine feeIff_charged ⟨ctx.keyId, ticker, hctx.key, hreq, hfees ▸ hcharges⟩ hx ?_
    rintro ⟨-, hmall, -⟩
    rw [hd] at hmall
    cases hmall

/-- **Which forwarded requests carry the fee.** However a call of an endpoint goes, each
request it forwards has as its fee rate the fee `get_user_fee` returns for the key and the base
ticker of the client's request, exactly if it is not the assembly of a malleable RFQT call. -/
theorem relayerFee_iff (self : Server) (endpoint : Endpoint) (req : RawRequest) (w : ServerState) :
    ∃ new, (exec (self.handle endpoint req) w).2.forwarded = w.forwarded ++ new ∧
      ∀ x ∈ new, ∃ fee, self.FeeOf endpoint req w.fees fee ∧
        (x.request.options.relayerFeeRate = some fee ↔ ¬ RfqtAssembly endpoint req x) := by
  cases endpoint with
  | quote => exact feeIff_quote req w
  | assemble => exact feeIff_assemble req w
  | rfqt => exact feeIff_rfqt req w

/-- A malleable RFQT call of a key with the default fee: the quote is asked for with the fee,
and assembled without one. -/
theorem rfqt_assembly_without_fee :
    ((exec (plainServer.handle .rfqt (plainRequest "" [])) plainState).2.forwarded.map fun x =>
        (RelayerRequest.isAssemble x.request, x.request.options.relayerFeeRate.isSome))
      = [(false, true), (true, false)] ∧
    ∃ fee, plainServer.FeeOf .rfqt (plainRequest "" []) plainState.fees fee := by
  refine ⟨by decide +kernel, _, 1, "WETH", rfl, rfl, .ok (), _, rfl⟩

end RelayerExtensions.Auth.Server
