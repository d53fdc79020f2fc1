import RelayerExtensions.Auth.Rfqt

/-!
# What the parts of a handler do

One lemma for each part of the external match handlers: what is known when it has
returned. The statements about whole handlers are put together from these, and no
proof further up looks into the definitions of `ExternalMatch`.

`Keeps ServerState.traces` says of the steps before and after the request is proxied that
they leave nothing behind. Only `forwardRequest` adds to the log of forwarded
requests, and it adds the request it was given.
-/

namespace RelayerExtensions.Auth.Server

open Effect

variable {self : Server} {Req Resp : Type} {ty : RequestType Req}

/-! ## Nothing left behind -/

theorem keeps_forwarded {α : Type} {m : ServerM α} (h : Keeps ServerState.traces m) :
    Keeps ServerState.forwarded m := fun w => congrArg Traces.forwarded (h w)

theorem keeps_authorize (req : RawRequest) : Keeps ServerState.traces (self.authorize req) :=
  (keeps_ask _).bind fun _ => (keeps_ask _).bind fun _ => keeps_onKeys _

theorem keeps_setRelayerFee (ctx : RequestContext Req) :
    Keeps ServerState.traces (self.setRelayerFee ty ctx) :=
  (keeps_lift _).bind fun _ => (keeps_ask _).bind fun _ => (keeps_onFees _).bind fun _ =>
    keeps_pure _ _

theorem keeps_preprocessRequest (req : RawRequest) :
    Keeps ServerState.traces (self.preprocessRequest ty req) :=
  (keeps_authorize _).bind fun _ => (keeps_lift _).bind fun _ => (keeps_lift _).bind fun _ =>
    (keeps_ask _).bind fun _ => keeps_setRelayerFee _

theorem keeps_rfqtContext (path : String) (req : RawRequest) (keyDesc : String) (keyId : Uuid)
    (body : Req) : Keeps ServerState.traces (self.rfqtContext ty path req keyDesc keyId body) :=
  (keeps_lift _).bind fun _ => (keeps_ask _).bind fun _ => keeps_setRelayerFee _

theorem keeps_rfqtPreRequest (req : RawRequest) :
    Keeps ServerState.traces (self.rfqtPreRequest req) := by
  refine (keeps_authorize _).bind fun _ => (keeps_lift _).bind fun _ => ?_
  split
  · exact (keeps_rfqtContext _ _ _ _ _).bind fun _ => keeps_pure _ _
  · exact (keeps_lift _).bind fun _ => (keeps_rfqtContext _ _ _ _ _).bind fun _ => keeps_pure _ _

theorem keeps_shouldRouteToGlobal (keyId : Uuid) (ticker : String) :
    Keeps ServerState.traces (self.shouldRouteToGlobal keyId ticker) :=
  (keeps_ask _).bind fun _ =>
    ((keeps_ask _).bind fun _ => (keeps_onKeys _).bind fun _ => keeps_pure _ _).bind fun _ =>
      keeps_pure _ _

theorem keeps_quotePreRequest (ctx : QuoteRequestCtx) :
    Keeps ServerState.traces (self.quotePreRequest ctx) := by
  have hrest : ∀ c : QuoteRequestCtx, Keeps ServerState.traces (do
      let c ← self.routeQuoteReq c
      let p ← self.sponsorQuoteRequest c
      return { p.1 with sponsorshipInfo := some p.2 }) := fun c =>
    ((keeps_lift _).bind fun _ => (keeps_shouldRouteToGlobal _ _).bind fun _ =>
        keeps_pure _ _).bind fun _ =>
      ((keeps_maybeSponsorOrder _ _).bind fun _ => keeps_pure _ _).bind fun _ => keeps_pure _ _
  unfold quotePreRequest
  refine (keeps_ask _).bind fun _ => (keeps_ask _).bind fun _ => ?_
  dsimp only
  split
  · exact (keeps_throw _ _).bind fun _ => hrest ctx
  · exact hrest ctx

theorem keeps_readSponsorshipInfo (key : Uuid) :
    Keeps ServerState.traces (self.readSponsorshipInfoFromRedis key) := by
  refine (keeps_ask _).bind fun _ => ?_
  split
  · exact (keeps_look _ _).bind fun _ => keeps_pure _ _
  · exact keeps_pure _ _

theorem keeps_sponsorAssemblyRequest (ctx : AssembleMatchRequestCtx) :
    Keeps ServerState.traces (self.sponsorAssemblyRequest ctx) := by
  have hquoted : ∀ q o, Keeps ServerState.traces (self.sponsorQuotedOrder q o) := by
    intro q o
    refine (keeps_readSponsorshipInfo _).bind fun _ => ?_
    dsimp only
    split
    · exact keeps_pure _ _
    · exact (keeps_lift _).bind fun _ => keeps_pure _ _
  have hdirect : ∀ o, Keeps ServerState.traces (self.sponsorDirectOrder ctx o) := fun o =>
    (keeps_maybeSponsorOrder _ _).bind fun _ => keeps_pure _ _
  unfold sponsorAssemblyRequest
  split
  · exact (hquoted _ _).bind fun _ => keeps_pure _ _
  · exact (hdirect _).bind fun _ => keeps_pure _ _

theorem keeps_routeAssemblyReq (ctx : AssembleMatchRequestCtx) :
    Keeps ServerState.traces (self.routeAssemblyReq ctx) :=
  (keeps_lift _).bind fun _ => (keeps_shouldRouteToGlobal _ _).bind fun _ => keeps_pure _ _

theorem keeps_assemblyPreRequest (ctx : AssembleMatchRequestCtx) :
    Keeps ServerState.traces (self.assemblyPreRequest ctx) := by
  have hrest : ∀ c : AssembleMatchRequestCtx, Keeps ServerState.traces (do
      let c ← self.routeAssemblyReq c
      let p ← self.sponsorAssemblyRequest c
      return { p.1 with sponsorshipInfo := some p.2 }) := fun c =>
    (keeps_routeAssemblyReq c).bind fun _ =>
      (keeps_sponsorAssemblyRequest _).bind fun _ => keeps_pure _ _
  unfold assemblyPreRequest
  refine (keeps_ask _).bind fun _ => ?_
  dsimp only
  split
  · exact (keeps_throw _ _).bind fun _ => hrest ctx
  · exact hrest ctx

theorem keeps_responseOf (ctx : ResponseContext Req Resp) :
    Keeps ServerState.traces (responseOf ctx) := by
  unfold responseOf
  split
  · exact keeps_pure _ _
  · exact keeps_throw _ _

theorem keeps_sponsorResponse (ctx : QuoteResponseCtx) :
    Keeps ServerState.traces (self.sponsorResponse ctx) := by
  refine (keeps_responseOf _).bind fun _ => ?_
  split
  · exact keeps_pure _ _
  · exact keeps_lift _

theorem keeps_sponsorMatchResponse (ctx : ExternalMatchResponseCtx) :
    Keeps ServerState.traces (self.sponsorMatchResponse ctx) := by
  refine (keeps_responseOf _).bind fun _ => ?_
  split
  · exact keeps_pure _ _
  · exact keeps_ofExcept _ _

theorem keeps_rfqtPostRequest (malleable : Bool) (req : RfqtQuoteRequest) (resp : BytesResponse)
    (ctx : ExternalMatchResponseCtx) :
    Keeps ServerState.traces (self.rfqtPostRequest malleable req resp ctx) := by
  unfold rfqtPostRequest
  split
  · exact keeps_pure _ _
  · exact (keeps_responseOf _).bind fun _ => (keeps_ask _).bind fun _ =>
      (keeps_lift _).bind fun _ => keeps_lift _

/-! ## Before the request is proxied -/

/-- `get_user_fee` for this key and asset returns this fee. -/
def Charges (fees : FeeStore) (key : Uuid) (ticker : String) (fee : Float) : Prop :=
  ∃ db fees', exec (getUserFee db key ticker) fees = (.ok fee, fees')

variable {w w' : ServerState} {req : RawRequest}

theorem authorize_ok {desc : String} {key : Uuid}
    (h : exec (self.authorize req) w = (.ok (desc, key), w')) :
    requestKey self.auth req = .ok key ∧ w'.fees = w.fees := by
  unfold authorize at h
  rw [exec_ask_bind, exec_ask_bind, onKeys, exec_zoom, Prod.mk.injEq, mapError_ok] at h
  obtain ⟨hok, rfl⟩ := h
  refine ⟨?_, rfl⟩
  unfold authorizeRequest at hok
  rw [exec_bind, exec_ofExcept] at hok
  cases hkey : requestKey self.auth req with
  | error e =>
      rw [hkey] at hok
      cases hok
  | ok k =>
      rw [hkey] at hok
      -- the key that is returned is the one the request names
      have hpair : exec (do
          let entry ← getApiKeyEntry _ k
          let desc ← Effect.ofExcept (checkApiKeyAuth self.auth _ req entry)
          return (desc, k)) _ = (.ok (desc, key), _) := Prod.ext hok rfl
      obtain ⟨entry, s₁, -, h₁⟩ := exec_bind_ok.mp hpair
      obtain ⟨d, s₂, -, h₂⟩ := exec_bind_ok.mp h₁
      obtain ⟨hp, -⟩ := exec_pure_ok.mp h₂
      rw [Prod.mk.injEq] at hp
      rw [hp.2]

theorem setRelayerFee_ok {ctx ctx' : RequestContext Req}
    (h : exec (self.setRelayerFee ty ctx) w = (.ok ctx', w')) :
    ∃ ticker fee, self.baseTicker ty ctx.body = .ok ticker ∧
      Charges w.fees ctx.keyId ticker fee ∧
      ctx' = { ctx with body := ty.setFee ctx.body fee } := by
  unfold setRelayerFee at h
  obtain ⟨ticker, hticker, h⟩ := exec_lift_bind_ok.mp h
  rw [exec_ask_bind] at h
  obtain ⟨fee, w₁, hfee, h⟩ := exec_bind_ok.mp h
  obtain ⟨rfl, -⟩ := exec_pure_ok.mp h
  rw [onFees, exec_zoom, Prod.mk.injEq, mapError_ok] at hfee
  exact ⟨ticker, fee, hticker, ⟨self.db w.clock, _, Prod.ext hfee.1 rfl⟩, rfl⟩

/-- What is known of a request that passed all checks: what the client sent, and that the fee
of its key was set on it. -/
structure Preprocessed (server : Server) (ty : RequestType Req) (req : RawRequest) (w : ServerState)
    (client : Req) (ctx : RequestContext Req) : Prop where
  key : requestKey server.auth req = .ok ctx.keyId
  fee : ∃ ticker fee, server.baseTicker ty client = .ok ticker ∧
    Charges w.fees ctx.keyId ticker fee ∧ ctx.body = ty.setFee client fee
  queryStr : ctx.queryStr = req.queryStr
  headers : ctx.headers = req.headers

variable {ctx : RequestContext Req}

theorem preprocessRequest_ok (h : exec (self.preprocessRequest ty req) w = (.ok ctx, w')) :
    ∃ client, ty.deserialize req.body (shouldStringifyNumbers req.headers) = .ok client ∧
      Preprocessed self ty req w client ctx := by
  unfold preprocessRequest at h
  obtain ⟨⟨desc, key⟩, w₁, hauth, h⟩ := exec_bind_ok.mp h
  obtain ⟨hkey, hfees⟩ := authorize_ok hauth
  obtain ⟨client, hclient, h⟩ := exec_lift_bind_ok.mp h
  obtain ⟨-, -, h⟩ := exec_lift_bind_ok.mp h
  rw [exec_ask_bind] at h
  obtain ⟨ticker, fee, hticker, hcharges, rfl⟩ := setRelayerFee_ok h
  refine ⟨client, mapError_ok.mp hclient, hkey, ⟨ticker, fee, hticker, ?_, rfl⟩, rfl, rfl⟩
  exact hfees ▸ hcharges

theorem rfqtContext_ok {path : String} {desc : String} {key : Uuid} {client : Req}
    (hkey : requestKey self.auth req = .ok key)
    (h : exec (self.rfqtContext ty path req desc key client) w = (.ok ctx, w')) :
    Preprocessed self ty req w client ctx := by
  unfold rfqtContext at h
  obtain ⟨-, -, h⟩ := exec_lift_bind_ok.mp h
  rw [exec_ask_bind] at h
  obtain ⟨ticker, fee, hticker, hcharges, rfl⟩ := setRelayerFee_ok h
  exact ⟨hkey, ⟨ticker, fee, hticker, hcharges, rfl⟩, rfl, rfl⟩

@[simp] theorem routeTo_fee (global : Bool) (options : ExternalMatchingEngineOptions) :
    (routeTo global options).relayerFeeRate = options.relayerFeeRate := by
  cases global <;> rfl

/-- Where a request is routed is all that routing changes. -/
theorem quotePreRequest_ok {ctx ctx' : QuoteRequestCtx}
    (h : exec (self.quotePreRequest ctx) w = (.ok ctx', w')) :
    ∃ global order g,
      ctx' = { ctx with
        body := { externalOrder := order, options := routeTo global ctx.body.options }
        sponsorshipInfo := some g } ∧
      (∃ queryParams, self.json.queryParams ctx.queryStr = .ok queryParams ∧
        FromQuery queryParams g) ∧
      updateExactOutput applyGasSponsorshipToExactOutputAmount ctx.body.externalOrder g
        = .ok order := by
  unfold quotePreRequest at h
  rw [exec_ask_bind, exec_ask_bind] at h
  dsimp only at h
  split at h
  · exact absurd h exec_throw_bind_ne_ok
  · obtain ⟨ctx₁, w₁, hroute, h⟩ := exec_bind_ok.mp h
    obtain ⟨⟨ctx₂, g⟩, w₂, hsponsor, h⟩ := exec_bind_ok.mp h
    obtain ⟨rfl, -⟩ := exec_pure_ok.mp h
    unfold routeQuoteReq at hroute
    obtain ⟨ticker, -, hroute⟩ := exec_lift_bind_ok.mp hroute
    obtain ⟨global, w₃, -, hroute⟩ := exec_bind_ok.mp hroute
    obtain ⟨rfl, -⟩ := exec_pure_ok.mp hroute
    unfold sponsorQuoteRequest at hsponsor
    obtain ⟨⟨order, g⟩, w₄, hmaybe, hsponsor⟩ := exec_bind_ok.mp hsponsor
    obtain ⟨hp, -⟩ := exec_pure_ok.mp hsponsor
    cases hp
    obtain ⟨hquery, horder⟩ := maybeSponsorOrder_ok hmaybe
    exact ⟨global, order, g, rfl, hquery, horder⟩

/-- How the order of an assembly request is sponsored: with what Redis has for the quote, or
afresh for a direct order. -/
inductive Sponsors (self : Server) (stored : Uuid → Option CachedSponsorshipInfo)
    (queryStr : String) :
    ExternalMatchAssemblyType → ExternalMatchAssemblyType → GasSponsorshipInfo → Prop where
  /-- Redis has nothing for the quote, or does not answer. -/
  | unsponsored {signed : ApiSignedQuote} {updated : Option ExternalOrder} :
      ((∀ t, self.redis t = .ok ()) → stored (self.generateQuoteUuid signed) = none) →
      Sponsors self stored queryStr (.quotedOrder signed updated) (.quotedOrder signed updated)
        .zero
  | cached {signed signed' : ApiSignedQuote} {updated updated' : Option ExternalOrder}
      {info : CachedSponsorshipInfo} :
      stored (self.generateQuoteUuid signed) = some info →
      unsponsorQuote info signed updated = .ok (signed', updated') →
      Sponsors self stored queryStr (.quotedOrder signed updated) (.quotedOrder signed' updated')
        info.gasSponsorshipInfo
  | direct {order order' : ExternalOrder} {g : GasSponsorshipInfo}
      {queryParams : GasSponsorshipQueryParams} :
      self.json.queryParams queryStr = .ok queryParams → FromQuery queryParams g →
      updateExactOutput applyGasSponsorshipToExactOutputAmount order g = .ok order' →
      Sponsors self stored queryStr (.directOrder order) (.directOrder order') g

variable {g : GasSponsorshipInfo}

theorem sponsorQuotedOrder_ok {signed : ApiSignedQuote} {updated : Option ExternalOrder}
    {queryStr : String} {order : ExternalMatchAssemblyType}
    (h : exec (self.sponsorQuotedOrder signed updated) w = (.ok (order, g), w')) :
    Sponsors self w.sponsorships queryStr (.quotedOrder signed updated) order g := by
  unfold sponsorQuotedOrder readSponsorshipInfoFromRedis at h
  obtain ⟨read, w₁, hread, h⟩ := exec_bind_ok.mp h
  rw [exec_ask_bind] at hread
  dsimp only at h
  -- Redis fails, or the entry is read
  cases hredis : self.redis w.clock with
  | error msg =>
      rw [hredis] at hread
      obtain ⟨rfl, -⟩ := exec_pure_ok.mp hread
      obtain ⟨hp, -⟩ := exec_pure_ok.mp h
      cases hp
      refine .unsponsored fun hup => ?_
      rw [hup] at hredis
      cases hredis
  | ok u =>
      rw [hredis] at hread
      obtain ⟨entry, w₂, hlook, hread⟩ := exec_bind_ok.mp hread
      obtain ⟨rfl, -⟩ := exec_pure_ok.mp hread
      rw [exec_look, Prod.mk.injEq, Except.ok.injEq] at hlook
      obtain ⟨hentry, -⟩ := hlook
      cases entry with
      | none =>
          obtain ⟨hp, -⟩ := exec_pure_ok.mp h
          cases hp
          exact .unsponsored fun _ => hentry
      | some info =>
          obtain ⟨⟨signed', updated'⟩, hun, h⟩ := exec_lift_bind_ok.mp h
          obtain ⟨hp, -⟩ := exec_pure_ok.mp h
          cases hp
          exact .cached hentry hun

theorem sponsorAssemblyRequest_ok {ctx ctx' : AssembleMatchRequestCtx}
    (h : exec (self.sponsorAssemblyRequest ctx) w = (.ok (ctx', g), w')) :
    ∃ order, ctx' = { ctx with body := { ctx.body with order } } ∧
      Sponsors self w.sponsorships ctx.queryStr ctx.body.order order g := by
  unfold sponsorAssemblyRequest at h
  cases hbody : ctx.body.order with
  | quotedOrder signed updated =>
      rw [hbody] at h
      obtain ⟨⟨order, g'⟩, w₁, hquoted, h⟩ := exec_bind_ok.mp h
      obtain ⟨hp, -⟩ := exec_pure_ok.mp h
      cases hp
      exact ⟨order, rfl, sponsorQuotedOrder_ok hquoted⟩
  | directOrder o =>
      rw [hbody] at h
      obtain ⟨⟨order, g'⟩, w₁, hdirect, h⟩ := exec_bind_ok.mp h
      obtain ⟨hp, -⟩ := exec_pure_ok.mp h
      cases hp
      unfold sponsorDirectOrder at hdirect
      obtain ⟨⟨o', g''⟩, w₂, hmaybe, hdirect⟩ := exec_bind_ok.mp hdirect
      obtain ⟨hp, -⟩ := exec_pure_ok.mp hdirect
      cases hp
      obtain ⟨⟨queryParams, hq, hfrom⟩, horder⟩ := maybeSponsorOrder_ok hmaybe
      exact ⟨_, rfl, .direct hq hfrom horder⟩

theorem assemblyPreRequest_ok {ctx ctx' : AssembleMatchRequestCtx}
    (h : exec (self.assemblyPreRequest ctx) w = (.ok ctx', w')) :
    ∃ global order g,
      ctx' = { ctx with
        body := { ctx.body with order, options := routeTo global ctx.body.options }
        sponsorshipInfo := some g } ∧
      Sponsors self w.sponsorships ctx.queryStr ctx.body.order order g := by
  unfold assemblyPreRequest at h
  rw [exec_ask_bind] at h
  dsimp only at h
  split at h
  · exact absurd h exec_throw_bind_ne_ok
  · obtain ⟨ctx₁, w₁, hroute, h⟩ := exec_bind_ok.mp h
    obtain ⟨⟨ctx₂, g⟩, w₂, hsponsor, h⟩ := exec_bind_ok.mp h
    obtain ⟨rfl, -⟩ := exec_pure_ok.mp h
    -- the infos in Redis are those at the start: routing does not write any
    have hkeep : w₁.sponsorships = w.sponsorships :=
      congrArg Traces.sponsorships ((keeps_routeAssemblyReq ctx).of_exec hroute)
    unfold routeAssemblyReq at hroute
    obtain ⟨ticker, -, hroute⟩ := exec_lift_bind_ok.mp hroute
    obtain ⟨global, w₃, -, hroute⟩ := exec_bind_ok.mp hroute
    obtain ⟨rfl, -⟩ := exec_pure_ok.mp hroute
    obtain ⟨order, rfl, hsp⟩ := sponsorAssemblyRequest_ok hsponsor
    exact ⟨global, order, g, rfl, hkeep ▸ hsp⟩

/-! ## Proxying -/

variable {parse : Bytes → Except String Resp} {raw resp : BytesResponse}

/-- The relayer's answer to a request it was sent is this response. -/
def Answers (self : Server) (parse : Bytes → Except String Resp) (x : Forwarded) (res : Resp) :
    Prop :=
  ∃ t headers body, self.relayer t x = .answered statusOk headers body ∧ parse body = .ok res

/-- What is known of a request `x` that the relayer answered: it is the request of the context,
and a 200 came with a response that could be read. -/
structure Proxied (server : Server) (ty : RequestType Req) (parse : Bytes → Except String Resp)
    (ctx : RequestContext Req) (x : Forwarded) (rctx : ResponseContext Req Resp) : Prop where
  sent : x.request = ty.toRelayer ctx.body
  answer : rctx.isSuccess = true → ∃ resp, Answers server parse x resp ∧
    rctx.response = some resp
  request : rctx.request = ctx.body
  headers : rctx.headers = ctx.headers
  nonce : ∃ nonce, rctx.sponsorshipInfoWithNonce = ctx.sponsorshipInfo.map (·, nonce)

theorem Proxied.answered {x : Forwarded} {rctx : ResponseContext Req Resp} {res : Resp}
    (h : Proxied self ty parse ctx x rctx) (hok : rctx.isSuccess = true)
    (hres : rctx.response = some res) : Answers self parse x res := by
  obtain ⟨resp, hanswer, hresp⟩ := h.answer hok
  rw [hres, Option.some.injEq] at hresp
  exact hresp ▸ hanswer

theorem keeps_adminHeaders (path : String) (headers : HeaderMap) (body : Bytes) :
    Keeps ServerState.traces (self.adminHeaders path headers body) :=
  (keeps_ask _).bind fun _ => (keeps_ask _).bind fun _ => keeps_pure _ _

theorem sendAdminRequest_ok {path : String} {headers : HeaderMap} {request : RelayerRequest}
    {bytes : Bytes} {reply : Nat × HeaderMap × Bytes}
    (h : exec (self.sendAdminRequest path headers request bytes) w = (.ok reply, w')) :
    ∃ x t, x.request = request ∧ self.relayer t x = .answered reply.1 reply.2.1 reply.2.2 ∧
      w'.traces = { w.traces with forwarded := w.forwarded ++ [x] } := by
  unfold sendAdminRequest at h
  obtain ⟨headers', w₁, hheaders, h⟩ := exec_bind_ok.mp h
  have hkeep := (keeps_adminHeaders path headers bytes).of_exec hheaders
  rw [exec_bind, exec_modify] at h
  dsimp only at h
  rw [exec_ask_bind] at h
  refine ⟨⟨path, headers', request⟩, w₁.clock, rfl, ?_⟩
  have hlog : w₁.forwarded = w.forwarded := congrArg Traces.forwarded hkeep
  cases hreply : self.relayer w₁.clock ⟨path, headers', request⟩ with
  | unreachable msg | cutOff msg =>
      rw [hreply] at h
      exact absurd h exec_throw_ne_ok
  | answered status respHeaders body =>
      rw [hreply] at h
      obtain ⟨rfl, rfl⟩ := exec_pure_ok.mp h
      refine ⟨rfl, ?_⟩
      rw [← hkeep, ← hlog]
      rfl

theorem readResponse_ok {status : Nat} {body : Bytes} {response : Option Resp}
    (hst : status = statusOk) (h : readResponse parse status body = .ok response) :
    ∃ resp, parse body = .ok resp ∧ response = some resp := by
  unfold readResponse at h
  rw [if_pos hst] at h
  cases hbody : parse body with
  | error e =>
      rw [hbody] at h
      cases h
  | ok resp =>
      rw [hbody] at h
      cases h
      exact ⟨resp, rfl, rfl⟩

theorem forwardRequest_ok {raw : BytesResponse} {rctx : ResponseContext Req Resp}
    (h : exec (self.forwardRequest ty parse ctx) w = (.ok (raw, rctx), w')) :
    ∃ x bytes, raw.body = .raw bytes ∧ Proxied self ty parse ctx x rctx ∧
      w'.traces = { w.traces with forwarded := w.forwarded ++ [x] } := by
  unfold forwardRequest at h
  dsimp only at h
  obtain ⟨bytes, -, h⟩ := exec_lift_bind_ok.mp h
  obtain ⟨⟨status, respHeaders, body⟩, w₁, hsend, h⟩ := exec_bind_ok.mp h
  obtain ⟨x, t, hsent, hreply, htraces⟩ := sendAdminRequest_ok hsend
  obtain ⟨response, hread, h⟩ := exec_lift_bind_ok.mp h
  unfold fromResponse at h
  obtain ⟨rctx', w₂, hctx, h⟩ := exec_bind_ok.mp h
  rw [exec_ask_bind] at hctx
  obtain ⟨rfl, rfl⟩ := exec_pure_ok.mp hctx
  obtain ⟨hp, rfl⟩ := exec_pure_ok.mp h
  cases hp
  refine ⟨x, body, rfl, ⟨hsent, ?_, rfl, rfl, _, rfl⟩, htraces⟩
  intro hsuccess
  have hst : status = statusOk := of_decide_eq_true hsuccess
  obtain ⟨resp, hparsed, rfl⟩ := readResponse_ok hst hread
  exact ⟨resp, ⟨t, respHeaders, body, hst ▸ hreply, hparsed⟩, rfl⟩

/-- However it ends, proxying logs at most the request of the context. -/
theorem forwardRequest_appends {P : Forwarded → Prop}
    (hP : ∀ x, x.request = ty.toRelayer ctx.body → P x) (w : ServerState) :
    Appends ServerState.forwarded P (self.forwardRequest ty parse ctx) w := by
  unfold forwardRequest
  dsimp only
  refine (Appends.of_keeps (keeps_forwarded (keeps_lift _)) w).bind fun bytes w₁ _ => ?_
  refine Appends.bind ?_ fun reply w₂ _ => Appends.of_keeps (keeps_forwarded ?_) w₂
  · unfold sendAdminRequest
    refine (Appends.of_keeps (keeps_forwarded (keeps_adminHeaders _ _ _)) w₁).bind
      fun headers w₂ _ => ?_
    refine Appends.bind ?_ fun _ w₃ _ => Appends.of_keeps (keeps_forwarded ?_) w₃
    · exact ⟨[⟨ctx.path, headers, ty.toRelayer ctx.body⟩], rfl, by
        intro x hx
        rw [List.mem_singleton.mp hx]
        exact hP _ rfl⟩
    · refine (keeps_ask _).bind fun reply => ?_
      split
      · exact keeps_throw _ _
      · exact keeps_throw _ _
      · exact keeps_pure _ _
  · exact (keeps_lift _).bind fun _ => ((keeps_ask _).bind fun _ => keeps_pure _ _).bind fun _ =>
      keeps_pure _ _

/-! ## After the request was proxied -/

theorem keeps_spawn (job : Job) : Keeps ServerState.forwarded (spawn job) := fun _ => rfl

theorem keeps_quotePostRequest (resp : BytesResponse) (ctx : QuoteResponseCtx) :
    Keeps ServerState.forwarded (self.quotePostRequest resp ctx) := by
  unfold quotePostRequest
  split
  · exact keeps_pure _ _
  · refine (keeps_forwarded (keeps_sponsorResponse _)).bind fun _ => ?_
    refine (keeps_forwarded (keeps_lift _)).bind fun _ => ?_
    exact (keeps_spawn _).bind fun _ => keeps_pure _ _

theorem keeps_assemblyPostRequest (resp : BytesResponse) (ctx : ExternalMatchResponseCtx) :
    Keeps ServerState.forwarded (self.assemblyPostRequest resp ctx) := by
  unfold assemblyPostRequest
  split
  · exact keeps_pure _ _
  · refine (keeps_forwarded (keeps_sponsorMatchResponse _)).bind fun _ => ?_
    refine (keeps_forwarded (keeps_lift _)).bind fun _ => ?_
    exact (keeps_spawn _).bind fun _ => keeps_pure _ _

/-- Writing to Redis leaves the logs alone. -/
theorem keeps_cacheQuote (res : SponsoredQuoteResponse) (info : CachedSponsorshipInfo) :
    Keeps (fun w => (w.forwarded, w.spawned)) (self.cacheQuoteGasSponsorshipInfo res info) := by
  have hredis : ∀ {m : ServerM Unit}, Keeps (fun w => (w.forwarded, w.spawned)) m →
      Keeps (fun w => (w.forwarded, w.spawned)) (self.onRedis m) := by
    intro m hm
    refine Keeps.bind ((keeps_ask _).comp fun tr => (tr.forwarded, tr.spawned)) fun _ => ?_
    split
    · exact hm
    · exact keeps_throw _ _
  unfold cacheQuoteGasSponsorshipInfo writeSponsorshipInfoToRedis
  refine (hredis ?_).bind fun _ => hredis (keeps_pure _ _)
  intro w
  rfl

theorem responseOf_ok {ctx : ResponseContext Req Resp} {resp : Resp}
    (h : exec (responseOf ctx) w = (.ok resp, w')) : ctx.response = some resp ∧ w' = w := by
  unfold responseOf at h
  cases hr : ctx.response with
  | none =>
      rw [hr] at h
      exact absurd h exec_throw_ne_ok
  | some r =>
      rw [hr] at h
      obtain ⟨rfl, rfl⟩ := exec_pure_ok.mp h
      exact ⟨rfl, rfl⟩

theorem overwriteResponseBody_ok {resp resp' : BytesResponse} {body : Body}
    (h : self.overwriteResponseBody resp body = .ok resp') : resp'.body = body := by
  unfold overwriteResponseBody at h
  obtain ⟨bytes, -, h⟩ := bind_ok.mp h
  cases h
  rfl

/-- An answer that is not a 200 is passed on as it came. -/
theorem raw_of_failed {ok : Bool} {m : ServerM BytesResponse} (hok : ¬ ok = true)
    (h : exec (if ¬ ok then pure raw else m) w = (.ok resp, w')) : resp = raw := by
  rw [if_pos hok] at h
  exact (exec_pure_ok.mp h).1.symm

/-- The client gets the sponsored quote, and the task that caches the info is spawned. -/
theorem quotePostRequest_ok {rctx : QuoteResponseCtx} {nonce : U256}
    (hinfo : rctx.sponsorshipInfoWithNonce = some (g, nonce)) (hok : rctx.isSuccess = true)
    (h : exec (self.quotePostRequest raw rctx) w = (.ok resp, w')) :
    ∃ res sponsored cached, rctx.response = some res ∧
      constructSponsoredQuoteResponse self.fp res g = .ok (sponsored, cached) ∧
      resp.body = .quote sponsored (shouldStringifyNumbers rctx.headers) ∧
      w'.traces = { w.traces with
        spawned := w.spawned ++ [.quoteMetrics (rctx.withResponse sponsored) cached] } := by
  unfold quotePostRequest at h
  rw [if_neg (not_not_intro hok)] at h
  obtain ⟨⟨sponsored, cached⟩, w₁, hsponsor, h⟩ := exec_bind_ok.mp h
  obtain ⟨resp', hbody, h⟩ := exec_lift_bind_ok.mp h
  obtain ⟨u, w₂, hspawn, h⟩ := exec_bind_ok.mp h
  obtain ⟨rfl, rfl⟩ := exec_pure_ok.mp h
  unfold sponsorResponse at hsponsor
  obtain ⟨res, w₃, hread, hcons⟩ := exec_bind_ok.mp hsponsor
  obtain ⟨hres, rfl⟩ := responseOf_ok hread
  rw [hinfo] at hcons
  obtain ⟨hbuilt, rfl⟩ := exec_lift_ok.mp hcons
  rw [spawn, exec_modify, Prod.mk.injEq] at hspawn
  obtain ⟨-, rfl⟩ := hspawn
  exact ⟨res, sponsored, cached, hres, hbuilt, overwriteResponseBody_ok hbody, rfl⟩

/-- The client gets the sponsored bundle, and the task that stores its nonce is spawned. -/
theorem assemblyPostRequest_ok {rctx : ExternalMatchResponseCtx} {nonce : U256}
    (hinfo : rctx.sponsorshipInfoWithNonce = some (g, nonce)) (hok : rctx.isSuccess = true)
    (h : exec (self.assemblyPostRequest raw rctx) w = (.ok resp, w')) :
    ∃ res sponsored, rctx.response = some res ∧
      self.toSponsor.constructSponsoredMatchResponse res g nonce = .ok sponsored ∧
      resp.body = .bundle sponsored (shouldStringifyNumbers rctx.headers) ∧
      w'.traces = { w.traces with
        spawned := w.spawned ++ [.assemblyMetrics (rctx.withResponse sponsored)] } := by
  unfold assemblyPostRequest at h
  rw [if_neg (not_not_intro hok)] at h
  obtain ⟨sponsored, w₁, hsponsor, h⟩ := exec_bind_ok.mp h
  obtain ⟨resp', hbody, h⟩ := exec_lift_bind_ok.mp h
  obtain ⟨u, w₂, hspawn, h⟩ := exec_bind_ok.mp h
  obtain ⟨rfl, rfl⟩ := exec_pure_ok.mp h
  unfold sponsorMatchResponse at hsponsor
  obtain ⟨res, w₃, hread, hcons⟩ := exec_bind_ok.mp hsponsor
  obtain ⟨hres, rfl⟩ := responseOf_ok hread
  rw [hinfo] at hcons
  dsimp only at hcons
  rw [exec_ofExcept, Prod.mk.injEq] at hcons
  obtain ⟨hbuilt, rfl⟩ := hcons
  rw [spawn, exec_modify, Prod.mk.injEq] at hspawn
  obtain ⟨-, rfl⟩ := hspawn
  exact ⟨res, sponsored, hres, hbuilt, overwriteResponseBody_ok hbody, rfl⟩

/-! ## Whole calls -/

/-- What is left behind by a request that was prepared, proxied and followed up by a task. -/
theorem traces_forward_spawn {w w₁ w₂ w₃ : ServerState} {x : Forwarded} {job : Job}
    (hpre : w₁.traces = w.traces)
    (hforward : w₂.traces = { w₁.traces with forwarded := w₁.forwarded ++ [x] })
    (hspawn : w₃.traces = { w₂.traces with spawned := w₂.spawned ++ [job] }) :
    w₃.traces = { w.traces with
      forwarded := w.forwarded ++ [x], spawned := w.spawned ++ [job] } := by
  have hspawned : w₂.spawned = w.spawned :=
    (congrArg Traces.spawned hforward).trans (congrArg Traces.spawned hpre)
  have hforwarded : w₁.forwarded = w.forwarded := congrArg Traces.forwarded hpre
  rw [hspawn, hforward, hspawned, hforwarded, hpre]

/-- How a quote that is shown came about, from the body of the request on: how the order was
sponsored, the request `x` that was sent, and what was made of the answer to it. -/
structure Quoted (server : Server) (queryStr : String) (body : ExternalQuoteRequest)
    (g : GasSponsorshipInfo) (sent : ExternalOrder) (x : Forwarded) (res : ExternalQuoteResponse)
    (shown : SponsoredQuoteResponse) (cached : Option CachedSponsorshipInfo) : Prop where
  query : ∃ queryParams, server.json.queryParams queryStr = .ok queryParams ∧
    FromQuery queryParams g
  order : updateExactOutput applyGasSponsorshipToExactOutputAmount body.externalOrder g = .ok sent
  request : ∃ options, x.request = .quote ⟨sent, options⟩
  answer : Answers server server.json.quoteResponse x res
  built : constructSponsoredQuoteResponse server.fp res g = .ok (shown, cached)

theorem handleQuoteRequest_ok {resp : BytesResponse} {shown : SponsoredQuoteResponse}
    {stringify : Bool} (h : exec (self.handleQuoteRequest req) w = (.ok resp, w'))
    (hbody : resp.body = .quote shown stringify) :
    ∃ client g sent x res cached ctx,
      self.json.quoteRequest req.body (shouldStringifyNumbers req.headers) = .ok client ∧
      Quoted self req.queryStr client g sent x res shown cached ∧ ctx.response = some shown ∧
      w'.traces = { w.traces with
        forwarded := w.forwarded ++ [x]
        spawned := w.spawned ++ [.quoteMetrics ctx cached] } := by
  unfold handleQuoteRequest at h
  obtain ⟨ctx, w₁, hpre, h⟩ := exec_bind_ok.mp h
  obtain ⟨client, hclient, hctx⟩ := preprocessRequest_ok hpre
  obtain ⟨ticker, fee, -, -, hfee⟩ := hctx.fee
  obtain ⟨ctx₂, w₂, hquote, h⟩ := exec_bind_ok.mp h
  have hkeep : w₂.traces = w.traces :=
    ((keeps_quotePreRequest ctx).of_exec hquote).trans ((keeps_preprocessRequest req).of_exec hpre)
  obtain ⟨global, sent, g, rfl, hquery, horder⟩ := quotePreRequest_ok hquote
  rw [hctx.queryStr] at hquery
  rw [hfee] at horder
  obtain ⟨⟨raw, rctx⟩, w₃, hforward, h⟩ := exec_bind_ok.mp h
  obtain ⟨x, bytes, hraw, hx, hlog⟩ := forwardRequest_ok hforward
  obtain ⟨nonce, hinfo⟩ := hx.nonce
  by_cases hok : rctx.isSuccess = true
  · obtain ⟨res, sponsored, cached, hres, hbuilt, hshown, hspawn⟩ := quotePostRequest_ok hinfo hok h
    rw [hbody] at hshown
    cases hshown
    refine ⟨client, g, sent, x, res, cached, rctx.withResponse shown, hclient,
      ⟨hquery, horder, ⟨_, hx.sent⟩, hx.answered hok hres, hbuilt⟩, rfl, ?_⟩
    exact traces_forward_spawn hkeep hlog hspawn
  · -- what is passed on as it came is no quote
    rw [raw_of_failed hok h, hraw] at hbody
    cases hbody

/-- How a bundle that is shown came about, from the body of the request on. -/
structure Assembled (server : Server) (queryStr : String)
    (stored : Uuid → Option CachedSponsorshipInfo) (body : AssembleExternalMatchRequest)
    (g : GasSponsorshipInfo) (sent : ExternalMatchAssemblyType) (x : Forwarded)
    (res : ExternalMatchResponse) (nonce : U256) (shown : SponsoredMatchResponse) : Prop where
  sponsors : Sponsors server stored queryStr body.order sent g
  request : ∃ options, x.request = .assemble { body with order := sent, options }
  answer : Answers server server.json.matchResponse x res
  built : server.toSponsor.constructSponsoredMatchResponse res g nonce = .ok shown

/-- The assembly of a context, which two endpoints share. Either the answer of the relayer is
passed on, or there is a sponsored bundle; what the caller has besides it is the relayer's
response, without sponsorship. -/
theorem assembly_ok {ctx ctx' : AssembleMatchRequestCtx} {rctx : ExternalMatchResponseCtx}
    {w w₁ w₂ w₃ : ServerState} (hpre : exec (self.assemblyPreRequest ctx) w = (.ok ctx', w₁))
    (hforward : exec (self.forwardRequest self.assembleType self.json.matchResponse ctx') w₁
      = (.ok (raw, rctx), w₂))
    (hpost : exec (self.assemblyPostRequest raw rctx) w₂ = (.ok resp, w₃)) :
    (rctx.isSuccess = false ∧ ∃ bytes, resp.body = .raw bytes) ∨
    ∃ g sent x res nonce shown,
      Assembled self ctx.queryStr w.sponsorships ctx.body g sent x res nonce shown ∧
      rctx.response = some res ∧ rctx.sponsorshipInfoWithNonce = some (g, nonce) ∧
      resp.body = .bundle shown (shouldStringifyNumbers ctx.headers) ∧
      w₃.traces = { w.traces with
        forwarded := w.forwarded ++ [x]
        spawned := w.spawned ++ [.assemblyMetrics (rctx.withResponse shown)] } := by
  have hkeep : w₁.traces = w.traces := (keeps_assemblyPreRequest ctx).of_exec hpre
  obtain ⟨global, sent, g, rfl, hsponsors⟩ := assemblyPreRequest_ok hpre
  obtain ⟨x, bytes, hraw, hx, hlog⟩ := forwardRequest_ok hforward
  obtain ⟨nonce, hinfo⟩ := hx.nonce
  by_cases hok : rctx.isSuccess = true
  · obtain ⟨res, shown, hres, hbuilt, hbody, hspawn⟩ := assemblyPostRequest_ok hinfo hok hpost
    rw [hx.headers] at hbody
    exact Or.inr ⟨g, sent, x, res, nonce, shown,
      ⟨hsponsors, ⟨_, hx.sent⟩, hx.answered hok hres, hbuilt⟩, hres, hinfo, hbody,
      traces_forward_spawn hkeep hlog hspawn⟩
  · rw [raw_of_failed hok hpost]
    exact Or.inl ⟨Bool.eq_false_iff.mpr hok, bytes, hraw⟩

theorem handleAssembleMatchBundleRequest_ok {resp : BytesResponse} {shown : SponsoredMatchResponse}
    {stringify : Bool} (h : exec (self.handleAssembleMatchBundleRequest req) w = (.ok resp, w'))
    (hbody : resp.body = .bundle shown stringify) :
    ∃ client g sent x res nonce,
      self.json.assembleRequest req.body (shouldStringifyNumbers req.headers) = .ok client ∧
      Assembled self req.queryStr w.sponsorships client g sent x res nonce shown ∧
      w'.forwarded = w.forwarded ++ [x] := by
  unfold handleAssembleMatchBundleRequest at h
  obtain ⟨ctx, w₁, hpre, h⟩ := exec_bind_ok.mp h
  obtain ⟨client, hclient, hctx⟩ := preprocessRequest_ok hpre
  have hkeep : w₁.traces = w.traces := (keeps_preprocessRequest req).of_exec hpre
  obtain ⟨ticker, fee, -, -, hfee⟩ := hctx.fee
  obtain ⟨ctx₂, w₂, hassembly, h⟩ := exec_bind_ok.mp h
  obtain ⟨⟨raw, rctx⟩, w₃, hforward, hpost⟩ := exec_bind_ok.mp h
  rcases assembly_ok hassembly hforward hpost with ⟨-, bytes, hraw⟩ |
    ⟨g, sent, x, res, nonce, sponsored, hassembled, -, -, hshown, htraces⟩
  · rw [hraw] at hbody
    cases hbody
  · rw [hbody] at hshown
    cases hshown
    obtain ⟨hsponsors, ⟨options, hrequest⟩, hanswer, hbuilt⟩ := hassembled
    have hstored : w₁.sponsorships = w.sponsorships := congrArg Traces.sponsorships hkeep
    have hlog : w₁.forwarded = w.forwarded := congrArg Traces.forwarded hkeep
    -- the body of the context is the client's but for the fee
    rw [hstored, hctx.queryStr, hfee] at hsponsors
    rw [hfee] at hrequest
    refine ⟨client, g, sent, x, res, nonce, hclient,
      ⟨hsponsors, ⟨options, hrequest⟩, hanswer, hbuilt⟩, ?_⟩
    rw [← hlog]
    exact congrArg Traces.forwarded htraces

/-! ## Reading the sponsorship off a response -/

def quotedInfo (resp : BytesResponse) : Option GasSponsorshipInfo :=
  match resp.body with
  | .quote shown _ => shown.gasSponsorshipInfo
  | _ => none

def bundleInfo (resp : BytesResponse) : Option GasSponsorshipInfo :=
  match resp.body with
  | .bundle shown _ => shown.gasSponsorshipInfo
  | _ => none

theorem quotedInfo_eq_some {resp : BytesResponse} (h : quotedInfo resp = some g) :
    ∃ shown stringify, resp.body = .quote shown stringify ∧ shown.gasSponsorshipInfo = some g := by
  unfold quotedInfo at h
  split at h
  · exact ⟨_, _, by assumption, h⟩
  · cases h

theorem bundleInfo_eq_some {resp : BytesResponse} (h : bundleInfo resp = some g) :
    ∃ shown stringify, resp.body = .bundle shown stringify ∧ shown.gasSponsorshipInfo = some g := by
  unfold bundleInfo at h
  split at h
  · exact ⟨_, _, by assumption, h⟩
  · cases h

end RelayerExtensions.Auth.Server
