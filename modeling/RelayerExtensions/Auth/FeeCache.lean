import RelayerExtensions.Auth.Fees
import RelayerExtensions.Lib.Procs

/-!
# Coherence of the fee cache

The operations of `Auth.Fees`, cut at every statement and every cache operation, and
the question whether the cache agrees with the database once nothing is under way.

Writers touch the two in different orders. The two setters write the database first
and repair the cache afterwards, so between the two actions an entry may be wrong but
somebody is on the way to correct it: that is the second half of `Coherent.cached`.
The two removers clear the cache first, and nobody comes back after the row is gone.
And every pending insert is a promise made from an older state of the database.

`Careful` says when a write is harmless: no insert of a pair whose fee the write
changes is pending, and a delete finds no such pair in the cache. Under it the cache
is coherent in every state without operations under way (`feeCache_coherent`).
-/

namespace RelayerExtensions.Auth

open Procs Effect

/-- Where an operation stands: what it will do next. -/
inductive FeeOp where
  /-- `get_user_fee` -/
  | lookup (user : Uuid) (asset : String)
  | query (user : Uuid) (asset : String)
  | fill (user : Uuid) (asset : String) (fee : Float)
  /-- `set_user_fee_query` -/
  | writeUserFee (user : Uuid) (asset : String) (fee : Float32)
  | cacheFee (user : Uuid) (asset : String) (fee : Float)
  /-- `remove_user_fee_query` -/
  | clearUserFee (user : Uuid) (asset : String)
  | deleteUserFee (user : Uuid) (asset : String)
  /-- `set_asset_default_fee_query` -/
  | writeAssetFee (asset : String) (fee : Float32)
  | clearAsset (asset : String)
  /-- `remove_asset_default_fee_query` -/
  | clearAssetFirst (asset : String)
  | deleteAssetFee (asset : String)
deriving DecidableEq

inductive FeeCall where
  | getUserFee (user : Uuid) (asset : String)
  | setUserFee (user : Uuid) (asset : String) (fee : Float32)
  | removeUserFee (user : Uuid) (asset : String)
  | setAssetDefaultFee (asset : String) (fee : Float32)
  | removeAssetDefaultFee (asset : String)

def launchFee (_ : FeeStore) : FeeCall → FeeOp
  | .getUserFee user asset => .lookup user asset
  | .setUserFee user asset fee => .writeUserFee user asset fee
  | .removeUserFee user asset => .clearUserFee user asset
  | .setAssetDefaultFee asset fee => .writeAssetFee asset fee
  | .removeAssetDefaultFee asset => .clearAssetFirst asset

/-- A statement, and what comes after it if the database answers. -/
def afterDb (db : DbReply) (s : FeeStore) (next : FeeStore × Option FeeOp) :
    FeeStore × Option FeeOp :=
  match db with
  | .ok () => next
  | .error _ => (s, none)

def nextFee (s : FeeStore) (op : FeeOp) (db : DbReply) : FeeStore × Option FeeOp :=
  match op with
  | .lookup user asset =>
      match s.getUserFee user asset with
      | some _ => (s, none)
      | none => (s, some (.query user asset))
  | .query user asset => afterDb db s (s, some (.fill user asset (s.fee user asset)))
  | .fill user asset fee => (s.cacheUserFee user asset fee, none)
  | .writeUserFee user asset fee =>
      afterDb db s (s.putUserFee user asset (some fee), some (.cacheFee user asset (f32AsF64 fee)))
  | .cacheFee user asset fee => (s.cacheUserFee user asset fee, none)
  | .clearUserFee user asset => (s.clearUserFee user asset, some (.deleteUserFee user asset))
  | .deleteUserFee user asset => afterDb db s (s.putUserFee user asset none, none)
  | .writeAssetFee asset fee =>
      afterDb db s (s.putAssetFee asset (some fee), some (.clearAsset asset))
  | .clearAsset asset => (s.clearAssetEntries asset, none)
  | .clearAssetFirst asset => (s.clearAssetEntries asset, some (.deleteAssetFee asset))
  | .deleteAssetFee asset => afterDb db s (s.putAssetFee asset none, none)

def feeSystem : System FeeStore FeeOp FeeCall DbReply := ⟨launchFee, nextFee⟩

/-- The operation as `Auth.Fees` has it. -/
def FeeCall.code (db : DbReply) : FeeCall → FeeM Unit
  | .getUserFee user asset => do let _ ← Auth.getUserFee db user asset
  | .setUserFee user asset fee => setUserFeeQuery db user asset fee
  | .removeUserFee user asset => removeUserFeeQuery db user asset
  | .setAssetDefaultFee asset fee => setAssetDefaultFeeQuery db asset fee
  | .removeAssetDefaultFee asset => removeAssetDefaultFeeQuery db asset

/-- **The pieces put together are the operations.** -/
theorem fee_alone (call : FeeCall) (db : DbReply) (s : FeeStore) :
    alone feeSystem db 3 s (launchFee s call) = ((exec (call.code db) s).2, none) := by
  cases call with
  | getUserFee user asset =>
      cases hc : s.getUserFee user asset <;> cases db <;>
        simp [alone, feeSystem, launchFee, nextFee, afterDb, FeeCall.code, Auth.getUserFee, onDb,
          exec_bind, hc]
  | setUserFee user asset fee =>
      cases db <;>
        simp [alone, feeSystem, launchFee, nextFee, afterDb, FeeCall.code, setUserFeeQuery, onDb,
          exec_bind]
  | removeUserFee user asset =>
      cases db with
      | error msg =>
          simp [alone, feeSystem, launchFee, nextFee, afterDb, FeeCall.code, removeUserFeeQuery,
            onDb, exec_bind]
      | ok u =>
          cases hd : s.userFees user asset <;>
            simp [alone, feeSystem, launchFee, nextFee, afterDb, FeeCall.code, removeUserFeeQuery,
              onDb, exec_bind, FeeStore.clearUserFee, FeeStore.putCache, hd]
  | setAssetDefaultFee asset fee =>
      cases db <;>
        simp [alone, feeSystem, launchFee, nextFee, afterDb, FeeCall.code,
          setAssetDefaultFeeQuery, onDb, exec_bind]
  | removeAssetDefaultFee asset =>
      cases db with
      | error msg =>
          simp [alone, feeSystem, launchFee, nextFee, afterDb, FeeCall.code,
            removeAssetDefaultFeeQuery, onDb, exec_bind]
      | ok u =>
          cases hd : s.assetDefaultFees asset <;>
            simp [alone, feeSystem, launchFee, nextFee, afterDb, FeeCall.code,
              removeAssetDefaultFeeQuery, onDb, exec_bind, FeeStore.clearAssetEntries, hd]

/-! ## Coherence -/

/-- The operation is about to put this fee into the cache. -/
def FeeOp.Inserts (op : FeeOp) (user : Uuid) (asset : String) (fee : Float) : Prop :=
  op = .fill user asset fee ∨ op = .cacheFee user asset fee

/-- The operation has changed the database and is about to correct the pair's entry. -/
def FeeOp.Repairs (op : FeeOp) (user : Uuid) (asset : String) : Prop :=
  (∃ fee, op = .cacheFee user asset fee) ∨ op = .clearAsset asset

/-- The store after the statement an operation is about to make, if that is a write. -/
def FeeOp.write? (s : FeeStore) : FeeOp → Option FeeStore
  | .writeUserFee user asset fee => some (s.putUserFee user asset (some fee))
  | .deleteUserFee user asset => some (s.putUserFee user asset none)
  | .writeAssetFee asset fee => some (s.putAssetFee asset (some fee))
  | .deleteAssetFee asset => some (s.putAssetFee asset none)
  | _ => none

def FeeOp.Deletes : FeeOp → Prop
  | .deleteUserFee .. | .deleteAssetFee .. => True
  | _ => False

/-- A write that changes a pair's fee overtakes no insert of the pair and, if it is a delete,
does not find the pair in the cache; and no operation is dropped that has a repair to do. -/
def Careful (w : World FeeStore FeeOp) : Tick FeeCall DbReply → Prop
  | .launch _ _ => True
  | .advance p db => ∀ op s', w.ops p = some op → db = .ok () → op.write? w.shared = some s' →
      ∀ user asset, s'.fee user asset ≠ w.shared.fee user asset →
        (∀ q o fee, w.ops q = some o → ¬ o.Inserts user asset fee) ∧
          (op.Deletes → w.shared.getUserFee user asset = none)
  | .drop p => ∀ op user asset, w.ops p = some op → ¬ op.Repairs user asset

structure Coherent (w : World FeeStore FeeOp) : Prop where
  /-- What is about to be inserted is the current fee. -/
  pending : ∀ p op user asset fee, w.ops p = some op → op.Inserts user asset fee →
    fee = w.shared.fee user asset
  /-- What is cached is the current fee, or somebody is about to correct it. -/
  cached : ∀ user asset fee, w.shared.getUserFee user asset = some fee →
    fee = w.shared.fee user asset ∨ ∃ p op, w.ops p = some op ∧ op.Repairs user asset

variable {w : World FeeStore FeeOp} {p : Pid} {op : FeeOp} {s' : FeeStore} {o' : Option FeeOp}

/-- What has to be shown of a step: its own operation, the others, and the cache. -/
theorem coherent_put (hown : ∀ op', o' = some op' → ∀ user asset fee, op'.Inserts user asset fee →
      fee = s'.fee user asset)
    (hothers : ∀ q o user asset fee, q ≠ p → w.ops q = some o → o.Inserts user asset fee →
      fee = s'.fee user asset)
    (hcached : ∀ user asset fee, s'.getUserFee user asset = some fee →
      fee = s'.fee user asset ∨ (∃ op', o' = some op' ∧ op'.Repairs user asset) ∨
        ∃ q o, q ≠ p ∧ w.ops q = some o ∧ o.Repairs user asset) :
    Coherent (w.put p s' o') := by
  refine ⟨fun q o user asset fee hq hin => ?_, fun user asset fee hc => ?_⟩
  · by_cases hqp : q = p
    · subst hqp
      rw [put_self] at hq
      exact hown o hq user asset fee hin
    · rw [put_of_ne hqp] at hq
      exact hothers q o user asset fee hqp hq hin
  · rcases hcached user asset fee hc with h | ⟨op', h, hr⟩ | ⟨q, o, hqp, hq, hr⟩
    · exact .inl h
    · exact .inr ⟨p, op', put_self.trans h, hr⟩
    · exact .inr ⟨q, o, (put_of_ne hqp).trans hq, hr⟩

/-- An entry that the operation is not about to correct is right, or another one is. -/
theorem cached_or_others (h : Coherent w) (ho : w.ops p = some op) {user : Uuid} {asset : String}
    {fee : Float} (hc : w.shared.getUserFee user asset = some fee) (hno : ¬ op.Repairs user asset) :
    fee = w.shared.fee user asset ∨ ∃ q o, q ≠ p ∧ w.ops q = some o ∧ o.Repairs user asset := by
  rcases h.cached user asset fee hc with h | ⟨q, o, hq, hr⟩
  · exact .inl h
  · refine .inr ⟨q, o, ?_, hq, hr⟩
    rintro rfl
    cases ho.symm.trans hq
    exact hno hr

/-- An action that leaves the fees alone, and an operation that had no repair to do: only the
entries it wrote itself need looking at. -/
theorem coherent_of_fee_eq (h : Coherent w) (ho : w.ops p = some op)
    (hfee : ∀ user asset, s'.fee user asset = w.shared.fee user asset)
    (hown : ∀ op', o' = some op' → ∀ user asset fee, op'.Inserts user asset fee →
      fee = w.shared.fee user asset)
    (hcached : ∀ user asset fee, s'.getUserFee user asset = some fee →
      fee = w.shared.fee user asset ∨
        (w.shared.getUserFee user asset = some fee ∧ ¬ op.Repairs user asset)) :
    Coherent (w.put p s' o') := by
  refine coherent_put (fun op' h₁ user asset fee h₂ => ?_) (fun q o user asset fee _ hq hin => ?_)
    fun user asset fee hc => ?_
  · rw [hfee]
    exact hown op' h₁ user asset fee h₂
  · rw [hfee]
    exact h.pending q o user asset fee hq hin
  · rw [hfee]
    rcases hcached user asset fee hc with h₁ | ⟨h₁, hno⟩
    · exact .inl h₁
    · exact (cached_or_others h ho h₁ hno).imp_right .inr

/-- A careful write: the operation is left with the repairs the write calls for. -/
theorem coherent_write (h : Coherent w) (ho : w.ops p = some op) (hw : op.write? w.shared = some s')
    (hC : Careful w (.advance p (.ok ())))
    (hcache : ∀ user asset, s'.getUserFee user asset = w.shared.getUserFee user asset)
    (hno : ∀ user asset, ¬ op.Repairs user asset)
    (hown : ∀ op', o' = some op' → ∀ user asset fee, op'.Inserts user asset fee →
      fee = s'.fee user asset)
    (hrep : ∀ user asset, s'.fee user asset ≠ w.shared.fee user asset →
      op.Deletes ∨ ∃ op', o' = some op' ∧ op'.Repairs user asset) :
    Coherent (w.put p s' o') := by
  have hcare := hC op s' ho rfl hw
  refine coherent_put hown (fun q o user asset fee _ hq hin => ?_) fun user asset fee hc => ?_
  · by_cases hfee : s'.fee user asset = w.shared.fee user asset
    · rw [hfee]
      exact h.pending q o user asset fee hq hin
    · exact absurd hin ((hcare user asset hfee).1 q o fee hq)
  · rw [hcache] at hc
    by_cases hfee : s'.fee user asset = w.shared.fee user asset
    · rw [hfee]
      exact (cached_or_others h ho hc (hno user asset)).imp_right .inr
    · rcases hrep user asset hfee with hdel | hown'
      · rw [(hcare user asset hfee).2 hdel] at hc
        cases hc
      · exact .inr (.inl hown')

/-- Nothing happened but that the operation came to its end, or moved on to read. -/
theorem coherent_idle (h : Coherent w) (ho : w.ops p = some op)
    (hno : ∀ user asset, ¬ op.Repairs user asset)
    (hown : ∀ op', o' = some op' → ∀ user asset fee, op'.Inserts user asset fee →
      fee = w.shared.fee user asset) : Coherent (w.put p w.shared o') :=
  coherent_of_fee_eq h ho (fun _ _ => rfl) hown fun user asset _ hc => .inr ⟨hc, hno user asset⟩

/-- Inserting the fee an operation has promised. -/
theorem coherent_insert (h : Coherent w) (ho : w.ops p = some op) {user : Uuid} {asset : String}
    {fee : Float} (hin : op.Inserts user asset fee)
    (hno : ∀ u a, op.Repairs u a → u = user ∧ a = asset) :
    Coherent (w.put p (w.shared.cacheUserFee user asset fee) none) := by
  refine coherent_of_fee_eq h ho (fun _ _ => rfl) (by simp) fun u a f hc => ?_
  rw [FeeStore.cacheUserFee, FeeStore.getUserFee_putCache] at hc
  split at hc
  · rename_i heq
    obtain ⟨rfl, rfl⟩ := heq
    rw [Option.some.injEq] at hc
    exact .inl (hc ▸ h.pending p op u a fee ho hin)
  · rename_i hne
    exact .inr ⟨hc, fun hr => hne (hno u a hr)⟩

theorem coherent_clear (h : Coherent w) (ho : w.ops p = some op)
    (hfee : ∀ user asset, s'.fee user asset = w.shared.fee user asset)
    (hsub : ∀ user asset fee, s'.getUserFee user asset = some fee →
      w.shared.getUserFee user asset = some fee ∧ ¬ op.Repairs user asset)
    (hown : ∀ op', o' = some op' → ∀ user asset fee, ¬ op'.Inserts user asset fee) :
    Coherent (w.put p s' o') :=
  coherent_of_fee_eq h ho hfee
    (fun op' h₁ user asset fee h₂ => absurd h₂ (hown op' h₁ user asset fee))
    fun user asset fee hc => .inr (hsub user asset fee hc)

theorem getUserFee_clearAssetEntries {s : FeeStore} {asset a : String} {user : Uuid} {fee : Float}
    (hc : (s.clearAssetEntries asset).getUserFee user a = some fee) :
    s.getUserFee user a = some fee ∧ a ≠ asset := by
  unfold FeeStore.clearAssetEntries FeeStore.getUserFee at hc
  dsimp only at hc
  split at hc
  · cases hc
  · rename_i hne
    exact ⟨hc, hne⟩

/-- **One action.** -/
theorem coherent_next (h : Coherent w) (ho : w.ops p = some op) {db : DbReply}
    (hC : Careful w (.advance p db)) :
    Coherent (w.put p (nextFee w.shared op db).1 (nextFee w.shared op db).2) := by
  cases op with
  | lookup user asset =>
      simp only [nextFee]
      cases w.shared.getUserFee user asset with
      | none =>
          refine coherent_idle h ho (by simp [FeeOp.Repairs]) ?_
          simp [FeeOp.Inserts]
      | some fee =>
          refine coherent_idle h ho (by simp [FeeOp.Repairs]) ?_
          simp
  | query user asset =>
      cases db with
      | error msg => exact coherent_idle h ho (by simp [FeeOp.Repairs]) (by simp [nextFee, afterDb])
      | ok u =>
          refine coherent_idle h ho (by simp [FeeOp.Repairs]) fun op' ho' u a fee hin => ?_
          cases ho'
          -- the fee just read is the fee
          rcases hin with hin | hin
          · injection hin with hu ha hf
            rw [← hu, ← ha, hf]
          · cases hin
  | fill user asset fee =>
      exact coherent_insert h ho (.inl rfl) (by simp [FeeOp.Repairs])
  | cacheFee user asset fee =>
      refine coherent_insert h ho (.inr rfl) fun u a hr => ?_
      rcases hr with ⟨f, hr⟩ | hr
      · injection hr with hu ha _
        exact ⟨hu.symm, ha.symm⟩
      · cases hr
  | writeUserFee user asset fee =>
      cases db with
      | error msg => exact coherent_idle h ho (by simp [FeeOp.Repairs]) (by simp [nextFee, afterDb])
      | ok u =>
          refine coherent_write h ho rfl hC (fun _ _ => rfl) (by simp [FeeOp.Repairs]) ?_ ?_
          · intro op' ho' u a f hin
            cases ho'
            rcases hin with hin | hin
            · cases hin
            · injection hin with hu ha hf
              subst hu ha hf
              exact (FeeStore.fee_putUserFee_some fee).symm
          · intro u a hne
            by_cases heq : u = user ∧ a = asset
            · obtain ⟨rfl, rfl⟩ := heq
              exact .inr ⟨_, rfl, .inl ⟨_, rfl⟩⟩
            · exact absurd (FeeStore.fee_putUserFee_of_ne _ heq) hne
  | clearUserFee user asset =>
      refine coherent_clear h ho (fun _ _ => rfl) (fun u a fee hc => ?_) ?_
      · simp only [nextFee, FeeStore.clearUserFee, FeeStore.getUserFee_putCache] at hc
        split at hc
        · cases hc
        · exact ⟨hc, by simp [FeeOp.Repairs]⟩
      · simp [nextFee, FeeOp.Inserts]
  | deleteUserFee user asset | deleteAssetFee asset =>
      cases db with
      | error msg => exact coherent_idle h ho (by simp [FeeOp.Repairs]) (by simp [nextFee, afterDb])
      | ok u =>
          exact coherent_write h ho rfl hC (fun _ _ => rfl) (by simp [FeeOp.Repairs])
            (by simp [nextFee, afterDb]) fun _ _ _ => .inl trivial
  | writeAssetFee asset fee =>
      cases db with
      | error msg => exact coherent_idle h ho (by simp [FeeOp.Repairs]) (by simp [nextFee, afterDb])
      | ok u =>
          refine coherent_write h ho rfl hC (fun _ _ => rfl) (by simp [FeeOp.Repairs])
            (by simp [nextFee, afterDb, FeeOp.Inserts]) fun u a hne => ?_
          by_cases ha : a = asset
          · subst ha
            exact .inr ⟨_, rfl, .inr rfl⟩
          · exact absurd (FeeStore.fee_putAssetFee_of_ne _ ha) hne
  | clearAsset asset =>
      refine coherent_clear h ho (fun _ _ => rfl) (fun u a fee hc => ?_) (by simp [nextFee])
      obtain ⟨hc, hne⟩ := getUserFee_clearAssetEntries hc
      exact ⟨hc, by simp [FeeOp.Repairs, hne.symm]⟩
  | clearAssetFirst asset =>
      refine coherent_clear h ho (fun _ _ => rfl) (fun u a fee hc => ?_)
        (by simp [nextFee, FeeOp.Inserts])
      obtain ⟨hc, -⟩ := getUserFee_clearAssetEntries hc
      exact ⟨hc, by simp [FeeOp.Repairs]⟩

theorem coherent_step (w : World FeeStore FeeOp) (e : Tick FeeCall DbReply)
    (w' : World FeeStore FeeOp) (h : Coherent w) (hC : Careful w e)
    (hs : step feeSystem w e = some w') : Coherent w' := by
  rcases step_cases hs with ⟨p, call, rfl, hp, rfl⟩ | ⟨p, db, op, rfl, ho, rfl⟩ |
    ⟨p, op, rfl, ho, rfl⟩
  · refine coherent_put ?_ (fun q o user asset fee _ hq => h.pending q o user asset fee hq)
      fun user asset fee hc => ?_
    · intro op' ho' user asset fee hin
      cases ho'
      cases call <;> simp [feeSystem, launchFee, FeeOp.Inserts] at hin
    · rcases h.cached user asset fee hc with h₁ | ⟨q, o, hq, hr⟩
      · exact .inl h₁
      · refine .inr (.inr ⟨q, o, ?_, hq, hr⟩)
        rintro rfl
        rw [hp] at hq
        cases hq
  · exact coherent_next h ho hC
  · exact coherent_idle h ho (fun user asset => hC op user asset ho) (by simp)

/-- A server that has just come up in front of these tables. -/
def idleFees (s : FeeStore) : World FeeStore FeeOp := ⟨s, fun _ => none⟩

/--
**The cache is coherent whenever nothing is under way**, in every run whose writes were
careful: each cached fee is the one the database has for the pair.
-/
theorem feeCache_coherent {s : FeeStore} {es : List (Tick FeeCall DbReply)}
    {w : World FeeStore FeeOp} (hempty : ∀ user asset, s.getUserFee user asset = none)
    (hm : Runs.Meets (step feeSystem) Careful (idleFees s) es)
    (hr : Runs.run (step feeSystem) (idleFees s) es = some w) (hquiet : w.Quiet) {user : Uuid}
    {asset : String} {fee : Float}
    (hc : w.shared.getUserFee user asset = some fee) : fee = w.shared.fee user asset := by
  have hinit : Coherent (idleFees s) := by
    refine ⟨fun p op user asset fee h => ?_, fun user asset fee h => ?_⟩
    · cases h
    · rw [show (idleFees s).shared = s from rfl, hempty] at h
      cases h
  have hw := Runs.run_invariant coherent_step es hinit hm hr
  rcases hw.cached user asset fee hc with h | ⟨p, op, hp, -⟩
  · exact h
  · rw [hquiet p] at hp
    cases hp

/-! ## A reader between the clear and the delete -/

def twoBps : Float32 := .ofBits 0x3951B717

/-- One user pays 2bp for one asset; nothing else is set, nothing is cached. -/
def overrideStore : FeeStore where
  userFees user asset := if user = 1 ∧ asset = "WETH" then some twoBps else none
  assetDefaultFees _ := none
  userFeeCache _ _ := none

/-- The override is removed while the user's fee is being read: the entry is cleared, the old
fee is read and cached, and then the row is deleted. -/
def refillRun : List (Tick FeeCall DbReply) :=
  [.launch 0 (.removeUserFee 1 "WETH"), .advance 0 (.ok ()),
    .launch 1 (.getUserFee 1 "WETH"), .advance 1 (.ok ()), .advance 1 (.ok ()), .advance 1 (.ok ()),
    .advance 0 (.ok ())]

/-- Nothing is under way any more, the user ought to pay the default of 1bp, and the cache
still says 2bp. -/
theorem stale_fee_cached :
    ∃ w, Runs.run (step feeSystem) (idleFees overrideStore) refillRun = some w ∧ w.Quiet
      ∧ w.shared.getUserFee 1 "WETH" = some (f32AsF64 twoBps)
      ∧ w.shared.fee 1 "WETH" = f32AsF64 (f64AsF32 defaultRelayerFee)
      ∧ f32AsF64 twoBps ≠ w.shared.fee 1 "WETH" := by
  refine ⟨_, rfl, ?_, rfl, rfl, ?_⟩
  · intro p
    by_cases h0 : p = 0
    · subst h0
      rfl
    · by_cases h1 : p = 1
      · subst h1
        rfl
      · simp [World.put, idleFees, h0, h1]
  · decide +kernel

/-- The override is changed while the user's fee is being read: the cache is missed, the row is
written, the new fee is read, and both put it into the cache. -/
def overlappingUpdate : List (Tick FeeCall DbReply) :=
  [.launch 0 (.setUserFee 1 "WETH" (f64AsF32 defaultRelayerFee)),
    .launch 1 (.getUserFee 1 "WETH"), .advance 1 (.ok ()), .advance 0 (.ok ()),
    .advance 1 (.ok ()), .advance 0 (.ok ()), .advance 1 (.ok ())]

theorem careful_of_no_write {db : DbReply} (ho : w.ops p = some op)
    (h : op.write? w.shared = none) : Careful w (.advance p db) := by
  intro op' s' hop _ hw
  cases ho.symm.trans hop
  cases h.symm.trans hw

theorem feeCache_coherent_update :
    ∃ w, Runs.run (step feeSystem) (idleFees overrideStore) overlappingUpdate = some w
      ∧ w.shared.getUserFee 1 "WETH" = some (f32AsF64 (f64AsF32 defaultRelayerFee))
      ∧ f32AsF64 (f64AsF32 defaultRelayerFee) = w.shared.fee 1 "WETH" := by
  obtain ⟨w, hr, hquiet, hc⟩ : ∃ w, Runs.run (step feeSystem) (idleFees overrideStore)
      overlappingUpdate = some w ∧ w.Quiet ∧
        w.shared.getUserFee 1 "WETH" = some (f32AsF64 (f64AsF32 defaultRelayerFee)) := by
    refine ⟨_, rfl, fun p => ?_, rfl⟩
    by_cases h0 : p = 0
    · subst h0
      rfl
    · by_cases h1 : p = 1
      · subst h1
        rfl
      · simp [World.put, idleFees, h0, h1]
  refine ⟨w, hr, hc, feeCache_coherent (fun _ _ => rfl) ?_ hr hquiet hc⟩
  refine .cons rfl trivial (.cons rfl trivial (.cons rfl (careful_of_no_write rfl rfl)
    (.cons rfl ?_ (.cons rfl (careful_of_no_write rfl rfl)
      (.cons rfl (careful_of_no_write rfl rfl)
        (.cons rfl (careful_of_no_write rfl rfl) trivial))))))
  -- the write: the reader is about to query
  intro op s' hop _ _ user asset _
  cases hop
  refine ⟨fun q o fee hq hin => ?_, fun hdel => hdel.elim⟩
  rcases put_cases hq with ⟨-, he⟩ | ⟨-, hq⟩
  · cases he
    rcases hin with hin | hin <;> cases hin
  · rcases put_cases hq with ⟨-, he⟩ | ⟨-, hq⟩
    · cases he
      rcases hin with hin | hin <;> cases hin
    · rcases put_cases hq with ⟨-, he⟩ | ⟨-, hq⟩
      · cases he
        rcases hin with hin | hin <;> cases hin
      · cases hq

end RelayerExtensions.Auth
