import RelayerExtensions.Auth.Settlement
import RelayerExtensions.Lib.Runs

/-!
# Which match a bundle is settled with

A settlement transaction can hold several external matches, each sponsored under a nonce
of its own, and emits one `NonceUsed` event for each. The handler of an event walks over
*all* matches of the transaction and hands each to `process_external_match` with the
nonce of the event. The first call finds the bundle and, if nothing fails, removes it, so
the others find nothing (`handle_cases`): whatever the nonce, the bundle is settled with
the first match of the transaction.

So the data recorded for a bundle is that of its own match exactly if that is the data of
the first match (`own_match_iff`).
-/

namespace RelayerExtensions.Auth

open Effect

namespace Executor

variable {Match : Type} {self : Executor Match} {receipt : Receipt} {s : ListenerState}

/-! ## One call -/

theorem keeps_refund (job : Settling) :
    Keeps (fun s => (s.processed, s.recorded)) (self.stage job .refund) := by
  intro s
  rw [exec_refund]
  cases self.addBundleToken s.clock job.ctx.keyDescription with
  | done | failed msg | lost msg => rfl

/-- **Every stage records data of the bundle and the match at hand.** -/
theorem appends_stage (job : Settling) (st : Stage) (s : ListenerState) :
    Appends ListenerState.recorded (self.Describes job.ctx job.settled) (self.stage job st) s := by
  cases st with
  | refund => exact .of_keeps ((keeps_refund job).comp Prod.snd) s
  | spread | metrics | sponsor => exact (notes_stage (by decide) (by decide)).notes s
  | cleanup =>
      refine Appends.bind (.of_keeps (fun _ => rfl) s) fun _ s₁ _ => ?_
      exact (notes_delays self job.ctx job.settled job.settlementTime).notes s₁

theorem keeps_processed_stage (job : Settling) (st : Stage) :
    Keeps ListenerState.processed (self.stage job st) := by
  by_cases hr : st = .refund
  · subst hr
    exact (keeps_refund job).comp Prod.fst
  · by_cases hc : st = .cleanup
    · subst hc
      intro s
      obtain ⟨recorded, hrun⟩ := self.exec_cleanup job s
      rw [hrun]
    · exact (notes_stage hr hc).ledger.comp fun p => p.2.2

/-- What `process_external_match` does for a bundle it found. -/
def settle (self : Executor Match) (job : Settling) : ListenerM Unit := do
  self.stage job .refund
  self.stage job .spread
  self.stage job .metrics
  self.stage job .sponsor
  self.stage job .cleanup

variable (self) in
theorem appends_settle (job : Settling) (s : ListenerState) :
    Appends ListenerState.recorded (self.Describes job.ctx job.settled) (self.settle job) s := by
  refine (appends_stage job _ s).bind fun _ s₁ _ => ?_
  refine (appends_stage job _ s₁).bind fun _ s₂ _ => ?_
  refine (appends_stage job _ s₂).bind fun _ s₃ _ => ?_
  refine (appends_stage job _ s₃).bind fun _ s₄ _ => ?_
  exact appends_stage job _ s₄

variable (self) in
theorem keeps_processed_settle (job : Settling) : Keeps ListenerState.processed (self.settle job) :=
  (keeps_processed_stage job _).bind fun _ => (keeps_processed_stage job _).bind fun _ =>
    (keeps_processed_stage job _).bind fun _ => (keeps_processed_stage job _).bind fun _ =>
      keeps_processed_stage job _

/-- Settling that returns has taken the bundle out of the store. -/
theorem settle_ok {job : Settling} {s s' : ListenerState} {u : Unit}
    (h : exec (self.settle job) s = (.ok u, s')) : s'.bundles.read job.ctx.bundleId = none := by
  obtain ⟨_, s₁, -, h⟩ := exec_bind_ok.mp h
  obtain ⟨_, s₂, -, h⟩ := exec_bind_ok.mp h
  obtain ⟨_, s₃, -, h⟩ := exec_bind_ok.mp h
  obtain ⟨_, s₄, -, h⟩ := exec_bind_ok.mp h
  obtain ⟨recorded, hc⟩ := self.exec_cleanup job s₄
  rw [hc] at h
  rw [← (Prod.mk.inj h).2]
  exact BundleStore.read_removeBundle_self ..

theorem exec_process_none {m : Match} {input : Amount} {nonce : U256} {time : Nat}
    (h : s.bundles.read nonce = none) :
    exec (self.processExternalMatch m input nonce receipt time) s = (.ok (), s) := by
  rw [processExternalMatch, exec_bind, exec_look]
  dsimp only
  rw [h]
  rfl

theorem exec_process_some {m : Match} {input : Amount} {nonce : U256} {time : Nat}
    {ctx : BundleContext} (h : s.bundles.read nonce = some ctx) :
    let settled := self.computeExternalAmounts m input
    exec (self.processExternalMatch m input nonce receipt time) s =
      exec (self.settle ⟨ctx, settled, receipt, time⟩)
        { s with processed := s.processed ++ [(nonce, settled)] } := by
  intro settled
  have hid : ctx.bundleId = nonce := s.bundles.keyed nonce ctx h
  rw [processExternalMatch, exec_bind, exec_look]
  dsimp only
  rw [h, ← hid]
  rfl

/-! ## One event -/

theorem exec_processMatches_none {nonce : U256} {time : Nat} (h : s.bundles.read nonce = none)
    (ms : List (Match × Amount)) :
    exec (self.processMatches nonce receipt time ms) s = (.ok (), s) := by
  induction ms with
  | nil => rfl
  | cons p ms ih =>
      obtain ⟨m, input⟩ := p
      rw [processMatches, exec_bind, exec_process_none h]
      exact ih

/-- **Only the first match counts.** -/
theorem exec_processMatches_some {nonce : U256} {time : Nat} {ctx : BundleContext}
    (h : s.bundles.read nonce = some ctx) (m : Match) (input : Amount)
    (rest : List (Match × Amount)) :
    (exec (self.processMatches nonce receipt time ((m, input) :: rest)) s).2 =
      (exec (self.settle ⟨ctx, self.computeExternalAmounts m input, receipt, time⟩)
        { s with processed :=
          s.processed ++ [(nonce, self.computeExternalAmounts m input)] }).2 := by
  rw [processMatches, exec_bind, exec_process_some h]
  split
  · rename_i u s' hs
    have hgone := settle_ok hs
    rw [show (⟨ctx, _, receipt, time⟩ : Settling).ctx.bundleId = nonce from
      s.bundles.keyed nonce ctx h] at hgone
    rw [exec_processMatches_none hgone, hs]
  · rename_i e s' hs
    rw [hs]

/-- The state after the handler of an event. -/
def handle (self : Executor Match) (tx : BitVec 256) (s : ListenerState) (nonce : U256) :
    ListenerState := (exec (self.checkExternalMatchSettlement nonce tx) s).2

/-- The handler's lookups give a transaction with this first match. -/
def FirstMatch (self : Executor Match) (tx : BitVec 256) (s : ListenerState) (m : Match)
    (input : Amount) : Prop :=
  ∃ receipt time rest s', exec (self.lookUp tx) s = (.ok (receipt, time, (m, input) :: rest), s')

/-- **What a handler does.** Either nothing is processed or recorded, and it found no match or no
bundle; or it processes the bundle under its nonce with the first match of the transaction, and
all it records is of the two. -/
theorem handle_cases (tx : BitVec 256) (s : ListenerState) (nonce : U256) :
    ((self.handle tx s nonce).processed = s.processed ∧
        (self.handle tx s nonce).recorded = s.recorded ∧
        ∀ m input, self.FirstMatch tx s m input → s.bundles.read nonce = none) ∨
      ∃ m input ctx new, self.FirstMatch tx s m input ∧ s.bundles.read nonce = some ctx ∧
        (self.handle tx s nonce).processed =
          s.processed ++ [(nonce, self.computeExternalAmounts m input)] ∧
        (self.handle tx s nonce).recorded = s.recorded ++ new ∧
        ∀ r ∈ new, self.Describes ctx (self.computeExternalAmounts m input) r := by
  unfold handle checkExternalMatchSettlement
  rw [exec_bind]
  rcases hlook : exec (self.lookUp tx) s with ⟨result, s₁⟩
  obtain ⟨⟨hbundles, -, hprocessed⟩, hrecorded⟩ : (s₁.bundles = s.bundles ∧
      s₁.refunds = s.refunds ∧ s₁.processed = s.processed) ∧ s₁.recorded = s.recorded := by
    have hkeeps := (self.keeps_lookUp tx).of_exec hlook
    rw [Prod.mk.injEq, Prod.mk.injEq, Prod.mk.injEq] at hkeeps
    exact hkeeps
  cases result with
  | error e =>
      refine .inl ⟨hprocessed, hrecorded, fun m input hfirst => ?_⟩
      obtain ⟨receipt, time, rest, s', hok⟩ := hfirst
      rw [hlook, Prod.mk.injEq] at hok
      cases hok.1
  | ok found =>
      obtain ⟨receipt, time, ms⟩ := found
      dsimp only
      have hmatch : ∀ m input, self.FirstMatch tx s m input → ∃ rest, ms = (m, input) :: rest := by
        intro m input hfirst
        obtain ⟨receipt', time', rest, s', hok⟩ := hfirst
        rw [hlook, Prod.mk.injEq, Except.ok.injEq] at hok
        obtain ⟨hok, -⟩ := hok
        injection hok with _ hok
        injection hok with _ hok
        exact ⟨rest, hok⟩
      cases hctx : s.bundles.read nonce with
      | none =>
          rw [exec_processMatches_none (hbundles ▸ hctx)]
          exact .inl ⟨hprocessed, hrecorded, fun _ _ _ => rfl⟩
      | some ctx =>
          cases ms with
          | nil =>
              refine .inl ⟨hprocessed, hrecorded, fun m input hfirst => ?_⟩
              obtain ⟨rest, hms⟩ := hmatch m input hfirst
              cases hms
          | cons p rest =>
              obtain ⟨m, input⟩ := p
              rw [exec_processMatches_some (hbundles ▸ hctx)]
              let job : Settling := ⟨ctx, self.computeExternalAmounts m input, receipt, time⟩
              obtain ⟨new, hnew, hP⟩ := self.appends_settle job { s₁ with
                processed := s₁.processed ++ [(nonce, self.computeExternalAmounts m input)] }
              refine .inr ⟨m, input, ctx, new, ⟨receipt, time, rest, s₁, hlook⟩, rfl, ?_, ?_, hP⟩
              · rw [self.keeps_processed_settle job, hprocessed]
              · rw [hnew, hrecorded]

/-! ## A transaction and its events -/

section Transaction

/-- Every bundle is processed with the match settled under its nonce, and everything recorded for
it comes from that match. -/
structure OwnMatches (executor : Executor Match) (settlements : List (U256 × Match × Amount))
    (s : ListenerState) : Prop where
  processed : ∀ bundle settled, s.ProcessedWith bundle settled →
    ∃ m input, settlements.lookup bundle = some (m, input) ∧
      settled = executor.computeExternalAmounts m input
  recorded : ∀ r ∈ s.recorded, ∃ m input, settlements.lookup r.bundle = some (m, input) ∧
    r.settled = executor.computeExternalAmounts m input ∧
    ∀ info asset value, r.what = .sponsorship info asset value →
      asset = executor.refundAsset info (executor.toApi m)

/-- If the transaction can be looked up and the bundle is in the store, the match under the
nonce looks like the first one of the transaction. -/
def FirstIsOwn (self : Executor Match) (tx : BitVec 256)
    (settlements : List (U256 × Match × Amount)) (s : ListenerState) (nonce : U256) : Prop :=
  (∃ found s', exec (self.lookUp tx) s = (.ok found, s')) → s.bundles.read nonce ≠ none →
    ∀ n₀ m₀ input₀ rest, settlements = (n₀, m₀, input₀) :: rest →
      ∃ m input, settlements.lookup nonce = some (m, input) ∧
        self.computeExternalAmounts m input = self.computeExternalAmounts m₀ input₀

variable {tx : BitVec 256} {settlements : List (U256 × Match × Amount)}
  (hchain : ∀ t ms, self.findExternalMatchesInTx t tx = .ok ms → ms = settlements.map Prod.snd)

include hchain

theorem own_handle {s : ListenerState} (h : self.OwnMatches settlements s) (nonce : U256) :
    self.OwnMatches settlements (self.handle tx s nonce) ↔
      self.FirstIsOwn tx settlements s nonce := by
  -- the first match found is the first of the transaction
  have hfirst : ∀ {found s'}, exec (self.lookUp tx) s = (.ok found, s') →
      found.2.2 = settlements.map Prod.snd := fun hok =>
    let ⟨t, ht⟩ := self.lookUp_ok hok
    hchain t _ ht
  rcases self.handle_cases tx s nonce with ⟨hprocessed, hrecorded, hnone⟩ |
    ⟨m, input, ctx, new, ⟨receipt, time, rest, s', hlook⟩, hctx, hprocessed, hnew, hdescribes⟩
  · refine ⟨fun _ => ?_, fun _ => ?_⟩
    · rintro ⟨⟨receipt, time, ms⟩, s', hlook⟩ hstored n₀ m₀ input₀ rest rfl
      have hms : ms = (m₀, input₀) :: rest.map Prod.snd := hfirst hlook
      subst hms
      exact absurd (hnone m₀ input₀ ⟨receipt, time, _, s', hlook⟩) hstored
    · refine ⟨fun bundle settled hp => ?_, fun r hr => ?_⟩
      · rw [ListenerState.ProcessedWith, hprocessed] at hp
        exact h.processed bundle settled hp
      · rw [hrecorded] at hr
        exact h.recorded r hr
  · have hms : (m, input) :: rest = settlements.map Prod.snd := hfirst hlook
    constructor
    · intro h' _ _ n₀ m₀ input₀ rest₀ hsettle
      rw [hsettle, List.map_cons] at hms
      obtain ⟨hhead, -⟩ := List.cons.inj hms
      have hpair := Prod.mk.inj hhead
      rw [← hpair.1, ← hpair.2]
      obtain ⟨m', input', hown, hdata⟩ := h'.processed nonce _
        (hprocessed ▸ List.mem_append_right _ List.mem_cons_self)
      exact ⟨m', input', hown, hdata.symm⟩
    · intro hC
      -- the first match looks like the one under the nonce
      obtain ⟨m', input', hown, hdata⟩ : ∃ m' input', settlements.lookup nonce =
          some (m', input') ∧ self.computeExternalAmounts m' input' =
            self.computeExternalAmounts m input := by
        cases hsettle : settlements with
        | nil =>
            rw [hsettle] at hms
            cases hms
        | cons p rest₀ =>
            obtain ⟨n₀, m₀, input₀⟩ := p
            rw [hsettle, List.map_cons] at hms
            obtain ⟨hhead, -⟩ := List.cons.inj hms
            cases hhead
            rw [← hsettle]
            exact hC ⟨_, s', hlook⟩ (by rw [hctx]; simp) n₀ m input rest₀ hsettle
      refine ⟨fun bundle settled hp => ?_, fun r hr => ?_⟩
      · rw [ListenerState.ProcessedWith, hprocessed] at hp
        rcases List.mem_append.mp hp with hp | hp
        · exact h.processed bundle settled hp
        · obtain ⟨rfl, rfl⟩ := Prod.mk.inj (List.mem_singleton.mp hp)
          exact ⟨m', input', hown, hdata.symm⟩
      · rw [hnew] at hr
        rcases List.mem_append.mp hr with hr | hr
        · exact h.recorded r hr
        · obtain ⟨hbundle, hsettled, hasset⟩ := hdescribes r hr
          refine ⟨m', input', ?_, hsettled.trans hdata.symm, fun info asset value hwhat => ?_⟩
          · rw [hbundle, s.bundles.keyed nonce ctx hctx]
            exact hown
          · rw [hasset info asset value hwhat, ← hdata]
            rfl

omit hchain in
/-- What was processed and recorded stays so. -/
theorem OwnMatches.of_handle {s : ListenerState} {nonce : U256}
    (h : self.OwnMatches settlements (self.handle tx s nonce)) : self.OwnMatches settlements s := by
  rcases self.handle_cases tx s nonce with ⟨hprocessed, hrecorded, -⟩ |
    ⟨_, _, _, new, -, -, hprocessed, hrecorded, -⟩
  · refine ⟨fun b settled hp => h.processed b settled ?_,
      fun r hr => h.recorded r (hrecorded ▸ hr)⟩
    rw [ListenerState.ProcessedWith, hprocessed]
    exact hp
  · refine ⟨fun b settled hp => h.processed b settled ?_,
      fun r hr => h.recorded r (hrecorded ▸ List.mem_append_left _ hr)⟩
    rw [ListenerState.ProcessedWith, hprocessed]
    exact List.mem_append_left _ hp

/--
**When bundles are settled with their own match.** For every transaction, every state of the
store and every order of the events: all bundles are processed with, and all that is recorded
comes from, the match under the bundle's own nonce exactly if, for each event that could be
looked up while its bundle was in the store, that match looks like the transaction's first one.
-/
theorem own_match_iff {s₀ : ListenerState} (hnew : s₀.processed = [] ∧ s₀.recorded = [])
    (events : List U256) :
    self.OwnMatches settlements (events.foldl (self.handle tx) s₀) ↔
      Runs.Meets (fun s nonce => some (self.handle tx s nonce))
        (self.FirstIsOwn tx settlements) s₀ events := by
  refine Runs.run_iff_meets (I := self.OwnMatches settlements) (fun s nonce s' h hs => ?_)
    (fun s nonce s' h hs h' => h ?_) events ⟨fun b settled hp => ?_, fun r hr => ?_⟩
    (Runs.run_total (self.handle tx) events s₀)
  · rw [← Option.some.inj hs]
    exact own_handle hchain h nonce
  · rw [← Option.some.inj hs] at h'
    exact h'.of_handle
  · rw [ListenerState.ProcessedWith, hnew.1] at hp
    cases hp
  · rw [hnew.2] at hr
    cases hr

end Transaction

end Executor

/-! ## Two matches in one transaction -/

/-- A server whose calls all succeed, and a client that knows one transaction. Matches are given
by what they amount to. -/
def calmExecutor (settlements : List (U256 × SettledMatch × Amount)) : Executor SettledMatch where
  getTransactionReceipt _ _ := .ok (some ⟨some 7, false, []⟩)
  getBlock _ _ := .ok (some 1700000000)
  findExternalMatchesInTx _ _ := .ok (settlements.map Prod.snd)
  addBundleToken _ _ := .done
  getPrice _ _ := .ok 2.0
  getPriceUsd _ _ := .ok 1
  recordGasSponsorship _ _ _ := .ok ()
  sampleGasPrices _ := .ok ("1", "1")
  gasSponsorAddress := 9
  usdc := 1
  weth := 2
  nativeAssetWrapper := 2
  nativeAssetAddress := "native"
  addressToHexString a := a.toHex
  getAddr a := a.toHex
  getTicker _ := some "TOKEN"
  getDecimals _ := some 6
  convertToDecimal _ amount := Float.ofNat amount.toNat
  fpToF64 _ := 2.0
  tenPowi _ := 1.0
  decimalToF64 _ := some 0.0
  f64ToString _ := "0"
  uuidToString _ := "id"
  refundTooLarge _ := ""
  toApi := SettledMatch.matchResult
  toExternalObligation m _ := (m.actualInput, m.actualOutput)

/-- A buy of the token 3 or 4 for USDC. -/
def buyOf (mint : Address) (amount : Amount) : SettledMatch :=
  ⟨⟨1, mint, ⟨2⟩, 0, 100⟩, amount, 2 * amount⟩

def bundleOf (nonce : U256) : BundleContext :=
  ⟨"desk", nonce, 0, "sdk", none, true, 0, none⟩

/-- Two bundles are out, under the nonces 10 and 11. -/
def twoBundles : ListenerState :=
  ⟨0, (BundleStore.write (BundleStore.write .new
    (bundleOf 10)) (bundleOf 11)), [], [], []⟩

/-- Both are settled in one transaction, the second for another token. -/
def twoSettlements : List (U256 × SettledMatch × Amount) :=
  [(10, buyOf 3 50, 50), (11, buyOf 4 80, 80)]

/-- The second bundle is recorded with the first one's match. -/
theorem second_bundle_mistaken :
    ¬ (calmExecutor twoSettlements).OwnMatches twoSettlements
      ([11].foldl ((calmExecutor twoSettlements).handle 5) twoBundles) := by
  intro h
  have hhead : ([11].foldl ((calmExecutor twoSettlements).handle 5) twoBundles).recorded.head?.map
      (fun r => (r.bundle, r.settled)) = some (11, buyOf 3 50) := by decide +kernel
  obtain ⟨r, hr, hpair⟩ := Option.map_eq_some_iff.mp hhead
  obtain ⟨hbundle, hsettled⟩ := Prod.mk.inj hpair
  obtain ⟨m, input, hown, hdata, -⟩ := h.recorded r (List.mem_of_mem_head? hr)
  rw [hbundle] at hown
  cases hown
  rw [hsettled] at hdata
  exact absurd hdata (by decide)

/-- The first of the two is recorded with its own match. -/
theorem own_match_first :
    (calmExecutor twoSettlements).OwnMatches twoSettlements
      ([10].foldl ((calmExecutor twoSettlements).handle 5) twoBundles) := by
  refine (Executor.own_match_iff (fun t ms h => ?_) ⟨rfl, rfl⟩ [10]).mpr ⟨?_, fun _ _ => trivial⟩
  · exact (Except.ok.inj h).symm
  · intro _ _ n₀ m₀ input₀ rest hsettle
    obtain ⟨hhead, -⟩ := List.cons.inj hsettle
    obtain ⟨-, hpair⟩ := Prod.mk.inj hhead
    cases hpair
    exact ⟨_, _, rfl, rfl⟩

end RelayerExtensions.Auth
