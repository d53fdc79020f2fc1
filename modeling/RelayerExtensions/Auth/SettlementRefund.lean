import RelayerExtensions.Auth.SettlementMatch
import RelayerExtensions.Lib.Procs

/-!
# One refund for a bundle

The handlers of `Auth.Settlement` cut where they touch what they share: the read from the
bundle store, the refund, each of the recordings, and the removal. An event can be
delivered more than once, handlers overlap, and every call outside may fail.

The handler refunds first and removes last. In between it can stop on any failed call,
and the bundle stays in the store for the next event; and two handlers can both read the
bundle before either has removed it. `Orderly` excludes the two, and under it a bundle is
refunded once and is out of the store when the handler that refunded it has returned
(`refunded_once`).

Ghost state: the ids of the bundles issued so far. They are random, so none is issued
twice.
-/

namespace RelayerExtensions.Auth

open Effect Procs Executor

structure RefundState where
  listener : ListenerState
  /-- Ghost: the ids in use. -/
  issued : List U256

/-- Where a task stands: what it will do next. -/
inductive NonceOp (Match : Type) where
  /-- `check_external_match_settlement` -/
  | lookUp (nonce : U256) (tx : BitVec 256)
  /-- `process_external_match` for the first of these matches -/
  | read (nonce : U256) (receipt : Receipt) (time : Nat) (left : List (Match × Amount))
  | run (job : Settling) (st : Stage) (nonce : U256) (left : List (Match × Amount))
  /-- A bundle goes out, and its context into the store. -/
  | issue (ctx : BundleContext)

inductive NonceCall where
  | nonceUsed (nonce : U256) (tx : BitVec 256)
  | issue (ctx : BundleContext)

def Executor.Stage.next : Stage → Option Stage
  | .refund => some .spread
  | .spread => some .metrics
  | .metrics => some .sponsor
  | .sponsor => some .cleanup
  | .cleanup => none

section Model

variable {Match : Type} (self : Executor Match)

def launchNonce (_ : RefundState) : NonceCall → NonceOp Match
  | .nonceUsed nonce tx => .lookUp nonce tx
  | .issue ctx => .issue ctx

def nextNonce (s : RefundState) (op : NonceOp Match) (_ : Unit) :
    RefundState × Option (NonceOp Match) :=
  match op with
  | .lookUp nonce tx =>
      match exec (self.lookUp tx) s.listener with
      | (.ok found, l) => ({ s with listener := l }, some (.read nonce found.1 found.2.1 found.2.2))
      | (.error _, l) => ({ s with listener := l }, none)
  | .read _ _ _ [] => (s, none)
  | .read nonce receipt time ((m, input) :: left) =>
      match s.listener.bundles.read nonce with
      | none => (s, some (.read nonce receipt time left))
      | some ctx =>
          let settled := self.computeExternalAmounts m input
          let l := { s.listener with processed := s.listener.processed ++ [(nonce, settled)] }
          ({ s with listener := l }, some (.run ⟨ctx, settled, receipt, time⟩ .refund nonce left))
  | .run job st nonce left =>
      match exec (self.stage job st) s.listener with
      | (.ok _, l) =>
          match st.next with
          | some st' => ({ s with listener := l }, some (.run job st' nonce left))
          | none =>
              ({ s with listener := l }, some (.read nonce job.receipt job.settlementTime left))
      | (.error _, l) => ({ s with listener := l }, none)
  | .issue ctx =>
      ({ listener := { s.listener with bundles := s.listener.bundles.write ctx }
         issued := s.issued ++ [ctx.bundleId] }, none)

def nonceSystem : System RefundState (NonceOp Match) NonceCall Unit :=
  ⟨launchNonce, nextNonce self⟩

/-! ## The pieces put together -/

variable {self} {s : RefundState} {nonce : U256} {left : List (Match × Amount)}

/-- An operation that runs to its end by itself. -/
def EndsIn (self : Executor Match) (s : RefundState) (op : NonceOp Match) (l : ListenerState) :
    Prop :=
  ∃ n, alone (nonceSystem self) () n s op = ({ s with listener := l }, none)

theorem EndsIn.step {op op' : NonceOp Match} {l l' : ListenerState}
    (hnext : nextNonce self s op () = ({ s with listener := l }, some op'))
    (h : EndsIn self { s with listener := l } op' l') : EndsIn self s op l' := by
  obtain ⟨n, hn⟩ := h
  exact ⟨n + 1, (alone_some hnext n).trans hn⟩

theorem EndsIn.last {op : NonceOp Match} {l : ListenerState}
    (hnext : nextNonce self s op () = ({ s with listener := l }, none)) : EndsIn self s op l :=
  ⟨1, alone_none hnext 0⟩

/-- A stage, and what comes after it if it returns. -/
theorem EndsIn.stage {job : Settling} {st st' : Stage} (hst : st.next = some st')
    {k : ListenerM Unit}
    (hrest : ∀ l, EndsIn self { s with listener := l } (.run job st' nonce left) (exec k l).2) :
    EndsIn self s (.run job st nonce left)
      (exec (do self.stage job st; k) s.listener).2 := by
  rw [exec_bind]
  cases hrun : exec (self.stage job st) s.listener with
  | mk r l =>
      cases r with
      | ok u => exact .step (by simp only [nextNonce, hrun, hst]) (hrest l)
      | error e => exact .last (by simp only [nextNonce, hrun])

/-- All stages, and then whatever comes after the last. -/
theorem endsIn_settle {job : Settling} {k : ListenerM Unit} (hrest : ∀ (s : RefundState),
      EndsIn self s (.read nonce job.receipt job.settlementTime left) (exec k s.listener).2) :
    EndsIn self s (.run job .refund nonce left)
      (exec (do self.settle job; k) s.listener).2 := by
  have hflat : (self.settle job >>= fun _ => k) =
      (self.stage job .refund >>= fun _ => self.stage job .spread >>= fun _ =>
        self.stage job .metrics >>= fun _ => self.stage job .sponsor >>= fun _ =>
          self.stage job .cleanup >>= fun _ => k) := by
    simp only [settle, bind_assoc]
  rw [hflat]
  refine .stage rfl fun l₁ => .stage rfl fun l₂ => .stage rfl fun l₃ => .stage rfl fun l₄ => ?_
  obtain ⟨recorded, hrun⟩ := self.exec_cleanup job l₄
  rw [exec_bind, hrun]
  exact .step (by simp only [nextNonce, hrun, Stage.next]) (hrest { s with listener := _ })

theorem endsIn_read (nonce : U256) (receipt : Receipt) (time : Nat) :
    ∀ (ms : List (Match × Amount)) (s : RefundState),
      EndsIn self s (.read nonce receipt time ms)
        (exec (self.processMatches nonce receipt time ms) s.listener).2
  | [], _ => .last rfl
  | (m, input) :: ms, s => by
      rw [processMatches]
      cases hread : s.listener.bundles.read nonce with
      | none =>
          rw [exec_bind, exec_process_none hread]
          exact .step (by simp only [nextNonce, hread]) (endsIn_read nonce receipt time ms s)
      | some ctx =>
          rw [exec_bind, exec_process_some hread, ← exec_bind]
          refine .step (by simp only [nextNonce, hread]; rfl) ?_
          exact endsIn_settle (s := { s with listener := _ }) fun s' =>
            endsIn_read nonce receipt time ms s'

/-- **By itself a task is the handler of the event.** -/
theorem nonce_alone (nonce : U256) (tx : BitVec 256) (s : RefundState) :
    EndsIn self s (.lookUp nonce tx)
      (exec (self.checkExternalMatchSettlement nonce tx) s.listener).2 := by
  rw [checkExternalMatchSettlement, exec_bind]
  cases hrun : exec (self.lookUp tx) s.listener with
  | mk r l =>
      cases r with
      | error e => exact .last (by simp only [nextNonce, hrun])
      | ok found =>
          refine .step (l := l) (by simp only [nextNonce, hrun]; rfl) ?_
          exact endsIn_read nonce _ _ _ { s with listener := l }

end Model

/-! ## Who holds a bundle -/

section Refunds

variable {Match : Type}

/-- The bundle an operation has found and not yet removed. -/
def NonceOp.claims : NonceOp Match → Option U256
  | .run job _ _ _ => some job.ctx.bundleId
  | .lookUp .. | .read .. | .issue .. => none

/-- The same, if it has refunded its token. -/
def NonceOp.refunded : NonceOp Match → Option U256
  | .run _ .refund _ _ => none
  | .run job _ _ _ => some job.ctx.bundleId
  | .lookUp .. | .read .. | .issue .. => none

theorem NonceOp.claims_of_refunded {op : NonceOp Match} {b : U256} (h : op.refunded = some b) :
    op.claims = some b := by
  cases op with
  | run job st nonce left => cases st <;> first | exact h | cases h
  | lookUp | read | issue => cases h

/-- At most one token for each bundle, and a bundle with a refund is out of the store as soon as
the handler that refunded it has returned. -/
structure RefundedOnce (w : World RefundState (NonceOp Match)) : Prop where
  once : ∀ b, w.shared.listener.refunds.count b ≤ 1
  gone : ∀ b ∈ w.shared.listener.refunds, w.shared.listener.bundles.read b ≠ none →
    ∃ p op, w.ops p = some op ∧ op.refunded = some b

/-- Nobody else has found the bundle that is about to be read; from the refund to the removal all
calls are answered and the match is fit to be recorded, and no handler is dropped there; and no
bundle id is used again. -/
def Orderly (self : Executor Match) (w : World RefundState (NonceOp Match)) :
    Tick NonceCall Unit → Prop
  | .launch .. => True
  | .advance p _ => ∀ op, w.ops p = some op →
      match op with
      | .lookUp .. => True
      | .read nonce .. => w.shared.listener.bundles.read nonce ≠ none →
          ∀ q o, w.ops q = some o → o.claims ≠ some nonce
      | .run job .refund _ _ => ∀ msg,
          self.addBundleToken w.shared.listener.clock job.ctx.keyDescription ≠ .lost msg
      | .run job st _ _ => self.Answered job w.shared.listener st
      | .issue ctx => ctx.bundleId ∉ w.shared.issued
  | .drop p => ∀ op, w.ops p = some op → op.refunded = none

/-- The bundles, the refunds and the ids in use are left alone. -/
structure SameLedger (s s' : RefundState) : Prop where
  bundles : s'.listener.bundles = s.listener.bundles
  refunds : s'.listener.refunds = s.listener.refunds
  issued : s'.issued = s.issued

/-- **What an orderly action does** to the ledger, and to what its operation holds. -/
inductive Move (w : World RefundState (NonceOp Match)) (op : NonceOp Match) (s' : RefundState) :
    Option (NonceOp Match) → Prop where
  /-- Nothing was held after a refund, and nothing is held now. -/
  | idle {o' : Option (NonceOp Match)} (hs : SameLedger w.shared s') (hop : op.refunded = none)
      (ho' : ∀ op', o' = some op' → op'.claims = none) : Move w op s' o'
  /-- A bundle nobody holds is found. -/
  | find {op' : NonceOp Match} {b : U256} (hs : SameLedger w.shared s')
      (hop : op.refunded = none)
      (hclaims : op'.claims = some b) (hnot : op'.refunded = none)
      (hread : w.shared.listener.bundles.read b ≠ none)
      (hfree : ∀ q o, w.ops q = some o → o.claims ≠ some b) : Move w op s' (some op')
  /-- Its token is refunded. -/
  | refund {op' : NonceOp Match} {b : U256}
      (hbundles : s'.listener.bundles = w.shared.listener.bundles)
      (hrefunds : s'.listener.refunds = w.shared.listener.refunds ++ [b])
      (hissued : s'.issued = w.shared.issued) (hclaims : op.claims = some b)
      (hnot : op.refunded = none) (hop' : op'.refunded = some b) : Move w op s' (some op')
  /-- Something is recorded for it. -/
  | note {op' : NonceOp Match} {b : U256} (hs : SameLedger w.shared s')
      (hop : op.refunded = some b) (hop' : op'.refunded = some b) : Move w op s' (some op')
  /-- It is removed. -/
  | remove {op' : NonceOp Match} {b : U256}
      (hbundles : s'.listener.bundles = w.shared.listener.bundles.removeBundle b)
      (hrefunds : s'.listener.refunds = w.shared.listener.refunds)
      (hissued : s'.issued = w.shared.issued) (hop : op.refunded = some b)
      (hop' : op'.claims = none) : Move w op s' (some op')
  /-- A new bundle goes out. -/
  | issue {ctx : BundleContext}
      (hbundles : s'.listener.bundles = w.shared.listener.bundles.write ctx)
      (hrefunds : s'.listener.refunds = w.shared.listener.refunds)
      (hissued : s'.issued = w.shared.issued ++ [ctx.bundleId])
      (hfresh : ctx.bundleId ∉ w.shared.issued) (hop : op.refunded = none) : Move w op s' none

variable {self : Executor Match} {w : World RefundState (NonceOp Match)} {p : Pid}
  {op : NonceOp Match}

theorem sameLedger_of_keeps {α : Type} {m : ListenerM α} {s : RefundState}
    {r : Except ListenerError α} {l : ListenerState} (h : Keeps (fun s => (s.bundles, s.refunds)) m)
    (hrun : exec m s.listener = (r, l)) : SameLedger s { s with listener := l } := by
  have hkeeps := h.of_exec hrun
  rw [Prod.mk.injEq] at hkeeps
  exact ⟨hkeeps.1, hkeeps.2, rfl⟩

/-- A stage in the middle that returns. -/
theorem move_note {job : Settling} {st st' : Stage} {nonce : U256} {left : List (Match × Amount)}
    (hr : st ≠ .refund) (hnext : st.next = some st')
    (hanswered : self.Answered job w.shared.listener st)
    (hop : (NonceOp.run job st nonce left).refunded = some job.ctx.bundleId)
    (hop' : (NonceOp.run job st' nonce left).refunded = some job.ctx.bundleId) :
    Move w (.run job st nonce left) (nextNonce self w.shared (.run job st nonce left) ()).1
      (nextNonce self w.shared (.run job st nonce left) ()).2 := by
  have hc : st ≠ .cleanup := by
    rintro rfl
    cases hnext
  have hok := isOk_stage_iff.mpr hanswered
  cases hrun : exec (self.stage job st) w.shared.listener with
  | mk r l =>
      have hs := sameLedger_of_keeps
        ((notes_stage hr hc).ledger.comp fun x => (x.1, x.2.1)) hrun
      rw [hrun] at hok
      cases r with
      | error e => cases hok
      | ok u =>
          simp only [nextNonce, hrun, hnext]
          exact .note hs hop hop'

theorem move_next (ho : w.ops p = some op) (hC : Orderly self w (.advance p ())) :
    Move w op (nextNonce self w.shared op ()).1 (nextNonce self w.shared op ()).2 := by
  have hC := hC op ho
  cases op with
  | lookUp nonce tx =>
      cases hrun : exec (self.lookUp tx) w.shared.listener with
      | mk r l =>
          have hs := sameLedger_of_keeps
            ((self.keeps_lookUp tx).comp fun x => (x.1.1, x.1.2.1)) hrun
          cases r with
          | ok found =>
              simp only [nextNonce, hrun]
              exact .idle hs rfl fun op' h => by cases h; rfl
          | error e =>
              simp only [nextNonce, hrun]
              exact .idle hs rfl fun op' h => by cases h
  | read nonce receipt time left =>
      cases left with
      | nil => exact .idle ⟨rfl, rfl, rfl⟩ rfl fun op' h => by cases h
      | cons x left =>
          obtain ⟨m, input⟩ := x
          cases hread : w.shared.listener.bundles.read nonce with
          | none =>
              simp only [nextNonce, hread]
              exact .idle ⟨rfl, rfl, rfl⟩ rfl fun op' h => by cases h; rfl
          | some ctx =>
              simp only [nextNonce, hread]
              have hid := w.shared.listener.bundles.keyed nonce ctx hread
              have hstored : w.shared.listener.bundles.read nonce ≠ none := by
                rw [hread]
                exact Option.some_ne_none ctx
              exact .find ⟨rfl, rfl, rfl⟩ rfl (congrArg some hid) rfl hstored (hC hstored)
  | run job st nonce left =>
      cases st with
      | refund =>
          have hrun := self.exec_refund job w.shared.listener
          cases hreply : self.addBundleToken w.shared.listener.clock job.ctx.keyDescription with
          | done =>
              simp only [hreply] at hrun
              simp only [nextNonce, hrun, Stage.next]
              exact .refund rfl rfl rfl rfl rfl rfl
          | failed msg =>
              simp only [hreply] at hrun
              simp only [nextNonce, hrun]
              exact .idle ⟨rfl, rfl, rfl⟩ rfl fun op' h => by cases h
          -- a refund that was written is answered, by the condition
          | lost msg => exact absurd hreply (hC msg)
      | spread | metrics | sponsor => exact move_note (by decide) rfl hC rfl rfl
      | cleanup =>
          obtain ⟨recorded, hrun⟩ := self.exec_cleanup job w.shared.listener
          simp only [nextNonce, hrun, Stage.next]
          exact .remove rfl rfl rfl rfl rfl
  | issue ctx => exact .issue rfl rfl rfl hC rfl

/-! ## The invariant -/

structure RefundInv (w : World RefundState (NonceOp Match)) : Prop where
  /-- A bundle is held by one operation. -/
  unique : ∀ p q o o' b, w.ops p = some o → w.ops q = some o' → o.claims = some b →
    o'.claims = some b → p = q
  /-- It is held before its refund, -/
  before : ∀ p o b, w.ops p = some o → o.claims = some b → o.refunded = none →
    b ∉ w.shared.listener.refunds
  /-- until it is removed. -/
  gone : ∀ b ∈ w.shared.listener.refunds, w.shared.listener.bundles.read b ≠ none →
    ∃ p o, w.ops p = some o ∧ o.refunded = some b
  once : ∀ b, w.shared.listener.refunds.count b ≤ 1
  stored : ∀ b, w.shared.listener.bundles.read b ≠ none → b ∈ w.shared.issued
  claimed : ∀ p o b, w.ops p = some o → o.claims = some b → b ∈ w.shared.issued
  known : ∀ b ∈ w.shared.listener.refunds, b ∈ w.shared.issued

variable {s' : RefundState} {o' : Option (NonceOp Match)} {b : U256}

/-- What is held after an action was held before, or was free and in the store. -/
theorem Move.claims (hmove : Move w op s' o') {op' : NonceOp Match} (ho' : o' = some op')
    (hb : op'.claims = some b) :
    op.claims = some b ∨
      (w.shared.listener.bundles.read b ≠ none ∧ ∀ q o, w.ops q = some o → o.claims ≠ some b) := by
  cases hmove with
  | idle _ _ hnone =>
      rw [hnone op' ho'] at hb
      cases hb
  | find _ _ hclaims _ hread hfree =>
      cases ho'
      cases hclaims.symm.trans hb
      exact .inr ⟨hread, hfree⟩
  | refund _ _ _ hclaims _ hop' =>
      cases ho'
      rw [NonceOp.claims_of_refunded hop'] at hb
      exact .inl (hclaims.trans hb)
  | note _ hop hop' =>
      cases ho'
      rw [NonceOp.claims_of_refunded hop'] at hb
      exact .inl ((NonceOp.claims_of_refunded hop).trans hb)
  | remove _ _ _ _ hop' =>
      cases ho'
      rw [hop'] at hb
      cases hb
  | issue => cases ho'

/-- A refund that is new is of the bundle the operation held before it. -/
theorem Move.refunds (hmove : Move w op s' o') :
    s'.listener.refunds = w.shared.listener.refunds ∨
      ∃ b, s'.listener.refunds = w.shared.listener.refunds ++ [b] ∧ op.claims = some b ∧
        op.refunded = none ∧ ∃ op', o' = some op' ∧ op'.refunded = some b := by
  cases hmove with
  | idle hs | find hs | note hs => exact .inl hs.refunds
  | refund _ hrefunds _ hclaims hnot hop' =>
      exact .inr ⟨_, hrefunds, hclaims, hnot, _, rfl, hop'⟩
  | remove _ hrefunds | issue _ hrefunds => exact .inl hrefunds

theorem Move.issued (hmove : Move w op s' o') (hb : b ∈ w.shared.issued) : b ∈ s'.issued := by
  cases hmove with
  | idle hs | find hs | note hs => rwa [hs.issued]
  | refund _ _ hissued | remove _ _ hissued => rwa [hissued]
  | issue _ _ hissued =>
      rw [hissued]
      exact List.mem_append_left _ hb

/-- What is in the store after an action was there before, or is new. -/
theorem Move.read (hmove : Move w op s' o') (hb : s'.listener.bundles.read b ≠ none) :
    w.shared.listener.bundles.read b ≠ none ∨ (b ∈ s'.issued ∧ b ∉ w.shared.issued) := by
  cases hmove with
  | idle hs | find hs | note hs => exact .inl (hs.bundles ▸ hb)
  | refund hbundles => exact .inl (hbundles ▸ hb)
  | @remove _ b' hbundles =>
      rw [hbundles] at hb
      by_cases hbb : b = b'
      · subst hbb
        exact absurd (BundleStore.read_removeBundle_self ..) hb
      · rw [BundleStore.read_removeBundle_of_ne hbb] at hb
        exact .inl hb
  | @issue ctx hbundles _ hissued hfresh =>
      rw [hbundles] at hb
      by_cases hbb : b = ctx.bundleId
      · subst hbb
        rw [hissued]
        exact .inr ⟨List.mem_append_right _ List.mem_cons_self, hfresh⟩
      · rw [BundleStore.read_write_of_ne hbb] at hb
        exact .inl hb

/-- Whoever has refunded a bundle that is still there goes on holding it. -/
theorem Move.holds (hmove : Move w op s' o') (hop : op.refunded = some b)
    (hb : s'.listener.bundles.read b ≠ none) : ∃ op', o' = some op' ∧ op'.refunded = some b := by
  cases hmove with
  | idle _ hnone | find _ hnone | refund _ _ _ _ hnone | issue _ _ _ _ hnone =>
      cases hnone.symm.trans hop
  | note _ hop₀ hop' =>
      cases hop.symm.trans hop₀
      exact ⟨_, rfl, hop'⟩
  | remove hbundles _ _ hop₀ =>
      cases hop.symm.trans hop₀
      rw [hbundles] at hb
      exact absurd (BundleStore.read_removeBundle_self ..) hb

/-- **An orderly action keeps the invariant.** -/
theorem refundInv_put (h : RefundInv w) (ho : w.ops p = some op) (hmove : Move w op s' o') :
    RefundInv (w.put p s' o') := by
  -- what the acting operation and another one hold is different
  have hother : ∀ {q o op' b}, q ≠ p → w.ops q = some o → o.claims = some b → o' = some op' →
      op'.claims ≠ some b := by
    intro q o op' b hq hqo hqb ho' hb
    rcases hmove.claims ho' hb with hold | ⟨-, hfree⟩
    · exact hq (h.unique q p o op b hqo ho hqb hold)
    · exact hfree q o hqo hqb
  refine ⟨?_, ?_, ?_, ?_, ?_, ?_, ?_⟩
  · intro q₁ q₂ o₁ o₂ b h₁ h₂ hb₁ hb₂
    rcases put_cases h₁ with ⟨hp₁, he₁⟩ | ⟨hq₁, he₁⟩
    · rcases put_cases h₂ with ⟨hp₂, -⟩ | ⟨hq₂, he₂⟩
      · exact hp₁.trans hp₂.symm
      · exact absurd hb₁ (hother hq₂ he₂ hb₂ he₁)
    · rcases put_cases h₂ with ⟨-, he₂⟩ | ⟨-, he₂⟩
      · exact absurd hb₂ (hother hq₁ he₁ hb₁ he₂)
      · exact h.unique q₁ q₂ o₁ o₂ b he₁ he₂ hb₁ hb₂
  · intro q o b hq hb hnot hmem
    rcases put_cases hq with ⟨-, he⟩ | ⟨hqp, he⟩
    · -- the acting operation has not refunded it, so it has just found it
      cases hmove with
      | idle _ _ hnone => cases (hnone o he).symm.trans hb
      | find hs _ hclaims _ hread hfree =>
          cases he
          cases hclaims.symm.trans hb
          obtain ⟨q', o'', hq', hr⟩ := h.gone _ (hs.refunds ▸ hmem) hread
          exact hfree q' o'' hq' (NonceOp.claims_of_refunded hr)
      | refund _ _ _ _ _ hop' | note _ _ hop' => cases he; cases hop'.symm.trans hnot
      | remove _ _ _ _ hop' => cases he; cases hop'.symm.trans hb
      | issue => cases he
    · have hold := h.before q o b he hb hnot
      rcases hmove.refunds with hsame | ⟨b', hnew, hclaims, -, -⟩
      · exact hold (hsame ▸ hmem)
      · rw [show (w.put p s' o').shared.listener.refunds = _ from hnew] at hmem
        rcases List.mem_append.mp hmem with hmem | hmem
        · exact hold hmem
        · rw [List.mem_singleton] at hmem
          exact hqp (h.unique q p o op b he ho hb (hmem ▸ hclaims))
  · intro b hb hread
    -- the holder there was, if the action leaves it to be one
    have hkept : b ∈ w.shared.listener.refunds → ∃ q o, (w.put p s' o').ops q = some o ∧
        o.refunded = some b := by
      intro hb
      rcases hmove.read hread with hold | ⟨-, hfresh⟩
      · obtain ⟨q, o, hq, hr⟩ := h.gone b hb hold
        by_cases hqp : q = p
        · subst hqp
          rw [ho, Option.some.injEq] at hq
          obtain ⟨op', he, hr'⟩ := hmove.holds (hq ▸ hr) hread
          exact ⟨q, op', put_self.trans he, hr'⟩
        · exact ⟨q, o, (put_of_ne hqp).trans hq, hr⟩
      · exact absurd (h.known b hb) hfresh
    rcases hmove.refunds with hsame | ⟨b', hnew, -, -, op', he, hr⟩
    · exact hkept (hsame ▸ hb)
    · rw [show (w.put p s' o').shared.listener.refunds = _ from hnew] at hb
      rcases List.mem_append.mp hb with hb | hb
      · exact hkept hb
      · rw [List.mem_singleton.mp hb]
        exact ⟨p, op', put_self.trans he, hr⟩
  · intro b
    rcases hmove.refunds with hsame | ⟨b', hnew, hclaims, hnot, -⟩
    · show s'.listener.refunds.count b ≤ 1
      rw [hsame]
      exact h.once b
    · show s'.listener.refunds.count b ≤ 1
      rw [hnew, List.count_append]
      have hle := h.once b
      by_cases hbb : b' = b
      · subst hbb
        have hzero := List.count_eq_zero.mpr (h.before p op b' ho hclaims hnot)
        rw [hzero]
        simp
      · have hzero : [b'].count b = 0 := by simp [hbb]
        omega
  · intro b hb
    rcases hmove.read hb with hold | ⟨hnew, -⟩
    · exact hmove.issued (h.stored b hold)
    · exact hnew
  · intro q o b hq hb
    rcases put_cases hq with ⟨-, he⟩ | ⟨-, he⟩
    · rcases hmove.claims he hb with hold | ⟨hread, -⟩
      · exact hmove.issued (h.claimed p op b ho hold)
      · exact hmove.issued (h.stored b hread)
    · exact hmove.issued (h.claimed q o b he hb)
  · intro b hb
    rcases hmove.refunds with hsame | ⟨b', hnew, hclaims, -, -⟩
    · exact hmove.issued (h.known b (hsame ▸ hb))
    · rw [show (w.put p s' o').shared.listener.refunds = _ from hnew] at hb
      rcases List.mem_append.mp hb with hb | hb
      · exact hmove.issued (h.known b hb)
      · rw [List.mem_singleton.mp hb]
        exact hmove.issued (h.claimed p op b' ho hclaims)

/-- Launching a task, or dropping one that has refunded nothing. -/
theorem refundInv_ops (h : RefundInv w) {o' : Option (NonceOp Match)}
    (hold : ∀ o, w.ops p = some o → o.refunded = none)
    (hnew : ∀ o, o' = some o → o.claims = none) : RefundInv (w.put p w.shared o') := by
  have hclaims : ∀ {q o b}, (w.put p w.shared o').ops q = some o → o.claims = some b →
      w.ops q = some o := by
    intro q o b hq hb
    rcases put_cases hq with ⟨-, he⟩ | ⟨-, he⟩
    · cases (hnew o he).symm.trans hb
    · exact he
  refine ⟨?_, ?_, ?_, h.once, h.stored, ?_, h.known⟩
  · intro q₁ q₂ o₁ o₂ b h₁ h₂ hb₁ hb₂
    exact h.unique q₁ q₂ o₁ o₂ b (hclaims h₁ hb₁) (hclaims h₂ hb₂) hb₁ hb₂
  · intro q o b hq hb
    exact h.before q o b (hclaims hq hb) hb
  · intro b hb hread
    obtain ⟨q, o, hq, hr⟩ := h.gone b hb hread
    have hqp : q ≠ p := by
      rintro rfl
      cases (hold o hq).symm.trans hr
    exact ⟨q, o, (put_of_ne hqp).trans hq, hr⟩
  · intro q o b hq hb
    exact h.claimed q o b (hclaims hq hb) hb

theorem refundInv_step (w : World RefundState (NonceOp Match)) (e : Tick NonceCall Unit)
    (w' : World RefundState (NonceOp Match)) (h : RefundInv w) (hC : Orderly self w e)
    (hs : step (nonceSystem self) w e = some w') : RefundInv w' := by
  rcases step_cases hs with ⟨p, call, rfl, hp, rfl⟩ | ⟨p, input, op, rfl, ho, rfl⟩ |
    ⟨p, op, rfl, ho, rfl⟩
  · refine refundInv_ops h (fun o hq => nomatch hp.symm.trans hq) fun o he => ?_
    rw [← Option.some.inj he]
    cases call with
    | nonceUsed nonce tx | issue ctx => rfl
  · exact refundInv_put h ho (move_next ho hC)
  · exact refundInv_ops h hC fun o he => nomatch he

/-- A server that has just come up: no bundle is out and nothing is under way. -/
def idleListener : World RefundState (NonceOp Match) :=
  ⟨⟨⟨0, .new, [], [], []⟩, []⟩, fun _ => none⟩

/--
**One refund for a bundle**, in every state of every orderly run: whatever bundles go out, and
however often and in whatever order their events are delivered and handled.
-/
theorem refunded_once {es : List (Tick NonceCall Unit)} {w : World RefundState (NonceOp Match)}
    (hm : Runs.Meets (step (nonceSystem self)) (Orderly self) idleListener es)
    (hr : Runs.run (step (nonceSystem self)) idleListener es = some w) : RefundedOnce w := by
  have hinit : RefundInv (idleListener : World RefundState (NonceOp Match)) := by
    refine ⟨?_, ?_, ?_, fun _ => Nat.zero_le 1, ?_, ?_, ?_⟩
    · intro p q o o' b hp
      cases hp
    · intro p o b hp
      cases hp
    · intro b hb
      cases hb
    · intro b hb
      exact absurd rfl hb
    · intro p o b hp
      cases hp
    · intro b hb
      cases hb
  have hinv := Runs.run_invariant refundInv_step es hinit hm hr
  exact ⟨hinv.once, hinv.gone⟩

end Refunds

/-! ## One bundle, two deliveries -/

/-- A bundle goes out under the nonce 10. -/
def issueRun : List (Tick NonceCall Unit) := [.launch 0 (.issue (bundleOf 10)), .advance 0 ()]

/-- Its event is delivered to the process `p`, which takes so many steps. -/
def deliverRun (p : Pid) (steps : Nat) : List (Tick NonceCall Unit) :=
  .launch p (.nonceUsed 10 5) :: List.replicate steps (.advance p ())

def nonceRun (self : Executor SettledMatch) (es : List (Tick NonceCall Unit)) :
    Option (World RefundState (NonceOp SettledMatch)) :=
  Runs.run (step (nonceSystem self)) idleListener es

/-- A server whose price reporter is down. -/
def pricelessExecutor : Executor SettledMatch :=
  { calmExecutor twoSettlements with getPrice := fun _ _ => .error (.custom "down") }

/--
**Two handlers overlap**: both find the bundle before either removes it. **A price is
missing**: the first handler stops after its refund, and the second starts over.
-/
theorem refunded_twice :
    (∃ w, nonceRun (calmExecutor twoSettlements)
        (issueRun ++ deliverRun 1 2 ++ deliverRun 2 2 ++ [.advance 1 (), .advance 2 ()]) = some w ∧
      ¬ RefundedOnce w) ∧
    ∃ w, nonceRun pricelessExecutor (issueRun ++ deliverRun 1 4 ++ deliverRun 1 4) = some w ∧
      ¬ RefundedOnce w := by
  have htwice : ∀ {r : Option (World RefundState (NonceOp SettledMatch))},
      r.map (fun w => w.shared.listener.refunds) = some [10, 10] →
        ∃ w, r = some w ∧ ¬ RefundedOnce w := by
    intro r hr
    obtain ⟨w, rfl, hrefunds⟩ := Option.map_eq_some_iff.mp hr
    refine ⟨w, rfl, fun h => ?_⟩
    have hle := h.once 10
    rw [hrefunds] at hle
    exact absurd hle (by decide)
  constructor <;> exact htwice (by decide +kernel)

/-- What `Orderly` asks of an operation, whatever the others do. -/
def NonceOp.Calm {Match : Type} (self : Executor Match) (s : RefundState) :
    NonceOp Match → Prop
  | .run job st _ _ => self.Answered job s.listener st
  | .issue ctx => ctx.bundleId ∉ s.issued
  | .lookUp .. | .read .. => True

instance {Match : Type} (self : Executor Match) (s : RefundState) (op : NonceOp Match) :
    Decidable (op.Calm self s) :=
  match op with
  | .run .. => decidable_of_iff _ isOk_stage_iff
  | .issue ctx => inferInstanceAs (Decidable (ctx.bundleId ∉ s.issued))
  | .lookUp .. | .read .. => .isTrue trivial

/-- An operation goes on calmly. -/
def CalmStep {Match : Type} (self : Executor Match) (w : World RefundState (NonceOp Match)) :
    Tick NonceCall Unit → Prop
  | .launch .. => True
  | .advance p _ => ∀ op, w.ops p = some op → op.Calm self w.shared
  | .drop _ => False

instance {Match : Type} (self : Executor Match) (w : World RefundState (NonceOp Match))
    (e : Tick NonceCall Unit) : Decidable (CalmStep self w e) :=
  match e with
  | .launch .. => .isTrue trivial
  | .advance p _ => inferInstanceAs (Decidable (∀ op, w.ops p = some op → op.Calm self w.shared))
  | .drop _ => .isFalse id

/-- One process by itself is orderly if nothing fails. -/
theorem orderly_of_calm {Match : Type} {self : Executor Match}
    {w : World RefundState (NonceOp Match)} {e : Tick NonceCall Unit} (hw : w.Below 1)
    (he : e.pid < 1) (h : CalmStep self w e) : Orderly self w e := by
  cases e with
  | launch p call => trivial
  | drop p => exact h.elim
  | advance p input =>
      obtain rfl : p = 0 := Nat.lt_one_iff.mp he
      intro op ho
      have hop := h op ho
      cases op with
      | lookUp nonce tx => trivial
      | read nonce receipt time left =>
          refine fun _ => hw.all fun q hq o hqo => ?_
          rw [Nat.lt_one_iff.mp hq, ho, Option.some.injEq] at hqo
          rw [← hqo]
          exact fun h => nomatch h
      | issue ctx => exact hop
      | run job st nonce left =>
          cases st with
          | refund => exact fun msg hlost => nomatch hlost.symm.trans hop
          | spread | metrics | sponsor | cleanup => exact hop

/-- The event is handled to the end, and delivered again. -/
theorem refunded_once_redelivered :
    ∃ w, nonceRun (calmExecutor twoSettlements) (issueRun ++ deliverRun 0 9 ++ deliverRun 0 4) =
      some w ∧ RefundedOnce w := by
  have hsome : (nonceRun (calmExecutor twoSettlements)
      (issueRun ++ deliverRun 0 9 ++ deliverRun 0 4)).isSome = true := by decide +kernel
  obtain ⟨w, hw⟩ := Option.isSome_iff_exists.mp hsome
  have hcalm : Runs.Meets (step (nonceSystem (calmExecutor twoSettlements)))
      (fun w e => e.pid < 1 ∧ CalmStep (calmExecutor twoSettlements) w e) idleListener
      (issueRun ++ deliverRun 0 9 ++ deliverRun 0 4) := by decide +kernel
  exact ⟨w, hw, refunded_once (meets_of_below 1 (fun _ _ => orderly_of_calm) (fun _ _ => rfl)
    hcalm) hw⟩

end RelayerExtensions.Auth
