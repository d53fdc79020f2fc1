import RelayerExtensions.Funds.GasFailures

/-!
# Gas wallets: statuses set by hand

`set_gas_wallet_status_handler` (`funds-manager-server/src/handlers/gas.rs`) sorts the updates
of a request by status and then writes three batches, the active ones first and the inactive
ones last. The batches set different columns: a wallet marked active gets a peer, one marked
inactive loses it, and one marked pending keeps what it has.

Registrations and reports rely on a wallet having a peer exactly while it is not inactive
(`GasWallet.Paired`). Of the three batches only the pending one can break this, on a wallet that
has no peer: a report passes such a wallet over, so it stays pending for good. The other thing
that can go wrong is a status that is none of the three, which is unwrapped.
-/

namespace RelayerExtensions.Funds

open Effect

/-! ## The request -/

def GasWalletStatus.fromStr (s : String) : Except String GasWalletStatus :=
  if s = "active" then .ok .active
  else if s = "pending" then .ok .pending
  else if s = "inactive" then .ok .inactive
  else .error ("Invalid gas wallet status: " ++ s)

structure GasWalletStatusUpdate where
  address : String
  status : String
  peerId : Option String
deriving DecidableEq

/-- How the handler ends other than well. -/
inductive HandlerStop where
  | badRequest (msg : String)
  | fundsManager (e : FundsManagerError)
  | custom (msg : String)
  | panicked (msg : String)
deriving DecidableEq

structure StatusBatches where
  markActive : List (String × String)
  markPending : List String
  markInactive : List String
deriving DecidableEq

def sortUpdates : List GasWalletStatusUpdate → StatusBatches → Except HandlerStop StatusBatches
  | [], b => .ok b
  | update :: rest, b =>
      match GasWalletStatus.fromStr update.status with
      | .error msg => .error (.panicked msg)
      | .ok .active =>
          match update.peerId with
          | none => .error (.badRequest "Peer ID is required for active status")
          | some peer =>
              sortUpdates rest { b with markActive := b.markActive ++ [(update.address, peer)] }
      | .ok .pending =>
          sortUpdates rest { b with markPending := b.markPending ++ [update.address] }
      | .ok .inactive =>
          sortUpdates rest { b with markInactive := b.markInactive ++ [update.address] }

/-! ## The batches -/

/-- `UPDATE .. WHERE address = ANY(addresses)`. -/
def Custody.updateWallets (s : Custody) (addresses : List String) (f : GasWallet → GasWallet) :
    Custody :=
  { s with gasWallets := s.gasWallets.map fun w => if w.address ∈ addresses then f w else w }

/-- One statement for all of them, and none for an empty batch. -/
def markBatch (f : GasWallet → GasWallet) (db : Reply) (addresses : List String) : GasM Unit :=
  if addresses = [] then pure () else onDb db (modify (·.updateWallets addresses f))

def markGasWalletsInactiveBatch (db : Reply) (addresses : List String) : GasM Unit :=
  markBatch setInactive db addresses

def markGasWalletsPendingBatch (db : Reply) (addresses : List String) : GasM Unit :=
  markBatch setPending db addresses

/-- One statement after the other, each with its time. -/
def markGasWalletsActiveBatch (db : Nat → Reply) (now : Nat → Nat) :
    List (String × String) → GasM Unit
  | [] => pure ()
  | (address, peer) :: rest => do
      markGasWalletActive (db 0) (now 0) address peer
      markGasWalletsActiveBatch (fun i => db (i + 1)) (fun i => now (i + 1)) rest

theorem Custody.updateWallet_eq (s : Custody) (address : String) (f : GasWallet → GasWallet) :
    s.updateWallet address f = s.updateWallets [address] f := by
  simp [Custody.updateWallet, Custody.updateWallets, Rows.update]

/-- The single statements of `GasWallets` are batches of one. -/
theorem markGasWalletInactive_eq (db : Reply) (address : String) :
    markGasWalletInactive db address = markGasWalletsInactiveBatch db [address] := by
  simp [markGasWalletInactive, markGasWalletsInactiveBatch, markBatch, Custody.updateWallet_eq]

theorem markGasWalletPending_eq (db : Reply) (address : String) :
    markGasWalletPending db address = markGasWalletsPendingBatch db [address] := by
  simp [markGasWalletPending, markGasWalletsPendingBatch, markBatch, Custody.updateWallet_eq]

structure StatusReplies where
  /-- Whether there is a custody client for the chain. -/
  client : Reply
  /-- The statements of the active batch, with the time of each. -/
  active : Nat → Reply
  now : Nat → Nat
  pending : Reply
  inactive : Reply

/-- The custody client's errors become rejections. -/
def reject {α : Type} (m : GasM α) : Effect HandlerStop Custody α :=
  zoom id (fun _ s => s) HandlerStop.fundsManager m

def setGasWalletStatusHandler (r : StatusReplies) (updates : List GasWalletStatusUpdate) :
    Effect HandlerStop Custody Unit := do
  let batches ← Effect.ofExcept (sortUpdates updates ⟨[], [], []⟩)
  Effect.ofExcept (r.client.mapError HandlerStop.custom)
  reject (markGasWalletsActiveBatch r.active r.now batches.markActive)
  reject (markGasWalletsPendingBatch r.pending batches.markPending)
  reject (markGasWalletsInactiveBatch r.inactive batches.markInactive)

/-! ## Histories -/

inductive FleetRequest where
  | call (c : GasCall)
  | setStatus (updates : List GasWalletStatusUpdate) (r : StatusReplies)

/-- What a request leaves, however it ends. -/
def Custody.serve (s : Custody) : FleetRequest → Custody
  | .call c => (s.attempt c).2
  | .setStatus updates r => (exec (setGasWalletStatusHandler r updates) s).2

def Custody.step (s : Custody) (q : FleetRequest) : Option Custody := some (s.serve q)

/-- The handler panics. -/
def FleetRequest.Panics (s : Custody) : FleetRequest → Prop
  | .call _ => False
  | .setStatus updates r =>
      ∃ msg, (exec (setGasWalletStatusHandler r updates) s).1 = .error (.panicked msg)

/-- A wallet has a peer exactly while it is not inactive. -/
def GasWallet.Paired (w : GasWallet) : Prop := w.status = .inactive ↔ w.peerId = none

def Custody.Paired (s : Custody) : Prop := ∀ w ∈ s.gasWallets, w.Paired

/-! ## What the updates of a request say -/

/-- An update that ends the request: active, for no peer. -/
def GasWalletStatusUpdate.Refused (u : GasWalletStatusUpdate) : Prop :=
  GasWalletStatus.fromStr u.status = .ok .active ∧ u.peerId = none

/-- An update that stops nothing. -/
def GasWalletStatusUpdate.Fine (u : GasWalletStatusUpdate) : Prop :=
  (∃ status, GasWalletStatus.fromStr u.status = .ok status) ∧ ¬ u.Refused

/-- The updates that are looked at have one of the three statuses. -/
def Readable : List GasWalletStatusUpdate → Prop
  | [] => True
  | u :: rest => (∃ status, GasWalletStatus.fromStr u.status = .ok status) ∧
      (¬ u.Refused → Readable rest)

/-- The batches are written. -/
def Accepted (updates : List GasWalletStatusUpdate) : Prop := ∀ u ∈ updates, u.Fine

/-- Some update gives the wallet at the address this status. -/
def Names (updates : List GasWalletStatusUpdate) (status : GasWalletStatus) (address : String) :
    Prop :=
  ∃ u ∈ updates, u.address = address ∧ GasWalletStatus.fromStr u.status = .ok status

def activeCount (updates : List GasWalletStatusUpdate) : Nat :=
  updates.countP fun u => u.status = "active"

/-- **If the pending batch is written**, a wallet in it has a peer, or the batch before gives it
one, or the batch after it makes it inactive. -/
def RowApt (updates : List GasWalletStatusUpdate) (r : StatusReplies) (w : GasWallet) : Prop :=
  Accepted updates → r.client = .ok () → (∀ i < activeCount updates, r.active i = .ok ()) →
    r.pending = .ok () → Names updates .pending w.address →
    w.peerId ≠ none ∨ Names updates .active w.address ∨
      Names updates .inactive w.address ∧ r.inactive = .ok ()

def FleetRequest.Apt (s : Custody) : FleetRequest → Prop
  | .call _ => True
  | .setStatus updates r => Readable updates ∧ ∀ w ∈ s.gasWallets, RowApt updates r w

/-! ## Sorting the updates -/

section Sorting

variable {u : GasWalletStatusUpdate} {updates rest : List GasWalletStatusUpdate}
  {b : StatusBatches} {address : String}

/-- The batches with one more update. -/
def StatusBatches.take (b : StatusBatches) (u : GasWalletStatusUpdate) : StatusBatches :=
  match GasWalletStatus.fromStr u.status, u.peerId with
  | .ok .active, some peer => { b with markActive := b.markActive ++ [(u.address, peer)] }
  | .ok .pending, _ => { b with markPending := b.markPending ++ [u.address] }
  | .ok .inactive, _ => { b with markInactive := b.markInactive ++ [u.address] }
  | _, _ => b

/-- What can come of an update. -/
inductive UpdateKind (u : GasWalletStatusUpdate) : Prop where
  | unknown (msg : String) (h : GasWalletStatus.fromStr u.status = .error msg)
  | refused (h : u.Refused)
  | active (peer : String) (h : GasWalletStatus.fromStr u.status = .ok .active)
      (hp : u.peerId = some peer)
  | pending (h : GasWalletStatus.fromStr u.status = .ok .pending)
  | inactive (h : GasWalletStatus.fromStr u.status = .ok .inactive)

theorem updateKind (u : GasWalletStatusUpdate) : UpdateKind u := by
  cases h : GasWalletStatus.fromStr u.status with
  | error msg => exact .unknown msg h
  | ok status =>
      cases status with
      | active =>
          cases hp : u.peerId with
          | none => exact .refused ⟨h, hp⟩
          | some peer => exact .active peer h hp
      | pending => exact .pending h
      | inactive => exact .inactive h

theorem sortUpdates_unknown {msg : String} (h : GasWalletStatus.fromStr u.status = .error msg) :
    sortUpdates (u :: rest) b = .error (.panicked msg) := by
  rw [sortUpdates, h]

theorem sortUpdates_refused (h : u.Refused) :
    sortUpdates (u :: rest) b =
      .error (.badRequest "Peer ID is required for active status") := by
  rw [sortUpdates, h.1]
  dsimp only
  rw [h.2]

theorem sortUpdates_fine (h : u.Fine) :
    sortUpdates (u :: rest) b = sortUpdates rest (b.take u) := by
  rw [sortUpdates, StatusBatches.take]
  cases updateKind u with
  | unknown msg hu => cases hu.symm.trans h.1.choose_spec
  | refused hu => exact absurd hu h.2
  | active peer hu hp => rw [hu, hp]
  | pending hu | inactive hu => rw [hu]

/-- **The handler panics at the first update with an unknown status**, if it gets to it. -/
theorem sortUpdates_panics_iff :
    (∃ msg, sortUpdates updates b = .error (.panicked msg)) ↔ ¬ Readable updates := by
  induction updates generalizing b with
  | nil => exact ⟨fun ⟨_, h⟩ => (by cases h), fun h => absurd trivial h⟩
  | cons u rest ih =>
      by_cases hfine : u.Fine
      · rw [sortUpdates_fine hfine, ih]
        exact not_congr ⟨fun hr => ⟨hfine.1, fun _ => hr⟩, fun hr => hr.2 hfine.2⟩
      · cases hs : GasWalletStatus.fromStr u.status with
        | error msg =>
            rw [sortUpdates_unknown hs]
            refine ⟨fun _ hr => ?_, fun _ => ⟨msg, rfl⟩⟩
            obtain ⟨status, hok⟩ := hr.1
            cases hs.symm.trans hok
        | ok status =>
            have href : u.Refused := not_not.mp fun hn => hfine ⟨⟨status, hs⟩, hn⟩
            rw [sortUpdates_refused href]
            refine ⟨fun ⟨_, h⟩ => (by cases h), fun hr => absurd ?_ hr⟩
            exact ⟨⟨status, hs⟩, fun hn => absurd href hn⟩

theorem sortUpdates_ok_iff {b' : StatusBatches} :
    sortUpdates updates b = .ok b' ↔ Accepted updates ∧ updates.foldl .take b = b' := by
  induction updates generalizing b with
  | nil =>
      refine ⟨fun h => ⟨fun u hu => (by cases hu), Except.ok.inj h⟩, fun h => ?_⟩
      exact congrArg Except.ok h.2
  | cons u rest ih =>
      by_cases hfine : u.Fine
      · rw [sortUpdates_fine hfine, ih, List.foldl_cons]
        refine and_congr_left fun _ => ?_
        exact ⟨fun h => List.forall_mem_cons.mpr ⟨hfine, h⟩, fun h => (List.forall_mem_cons.mp h).2⟩
      · refine ⟨fun h => ?_, fun h => absurd (h.1 u List.mem_cons_self) hfine⟩
        cases updateKind u with
        | unknown msg hu => rw [sortUpdates_unknown hu] at h; cases h
        | refused hu => rw [sortUpdates_refused hu] at h; cases h
        | active peer hu hp =>
            exact absurd ⟨⟨_, hu⟩, fun hr => by cases hp.symm.trans hr.2⟩ hfine
        | pending hu | inactive hu =>
            exact absurd ⟨⟨_, hu⟩, fun hr => by cases hu.symm.trans hr.1⟩ hfine

theorem fromStr_active {s : String} : GasWalletStatus.fromStr s = .ok .active ↔ s = "active" := by
  unfold GasWalletStatus.fromStr
  split
  · rename_i h
    exact ⟨fun _ => h, fun _ => rfl⟩
  · rename_i h
    refine ⟨fun hs => ?_, fun hs => absurd hs h⟩
    split at hs
    · cases hs
    · split at hs <;> cases hs

theorem names_cons {status : GasWalletStatus} :
    Names (u :: rest) status address ↔
      (u.address = address ∧ GasWalletStatus.fromStr u.status = .ok status) ∨
        Names rest status address :=
  List.exists_mem_cons_iff ..

/-- What the batches hold of the updates. -/
structure Sorted (updates : List GasWalletStatusUpdate) (b b' : StatusBatches) : Prop where
  active : ∀ a, a ∈ b'.markActive.map Prod.fst ↔
    a ∈ b.markActive.map Prod.fst ∨ Names updates .active a
  count : b'.markActive.length = b.markActive.length + activeCount updates
  pending : ∀ a, a ∈ b'.markPending ↔ a ∈ b.markPending ∨ Names updates .pending a
  inactive : ∀ a, a ∈ b'.markInactive ↔ a ∈ b.markInactive ∨ Names updates .inactive a

theorem names_singleton {status : GasWalletStatus} :
    Names [u] status address ↔
      u.address = address ∧ GasWalletStatus.fromStr u.status = .ok status := by
  simp [Names]

theorem sorted_take (h : u.Fine) : Sorted [u] b (b.take u) := by
  have hcount : activeCount [u] = if u.status = "active" then 1 else 0 := by
    simp [activeCount, List.countP_singleton]
  unfold StatusBatches.take
  cases updateKind u with
  | unknown msg hu => cases hu.symm.trans h.1.choose_spec
  | refused hu => exact absurd hu h.2
  | active peer hu hp =>
      rw [if_pos (fromStr_active.mp hu)] at hcount
      rw [hu, hp]
      constructor <;> simp [names_singleton, hu, hcount, eq_comm]
  | pending hu | inactive hu =>
      have hne : u.status ≠ "active" := fun hs => by cases hu.symm.trans (fromStr_active.mpr hs)
      rw [if_neg hne] at hcount
      rw [hu]
      constructor <;> simp [names_singleton, hu, hcount, eq_comm]

theorem Sorted.trans {b₁ b₂ : StatusBatches} (h₁ : Sorted [u] b b₁) (h₂ : Sorted rest b₁ b₂) :
    Sorted (u :: rest) b b₂ where
  active a := by rw [h₂.active, h₁.active, or_assoc, names_singleton, names_cons]
  count := by
    have hcons : activeCount (u :: rest) = activeCount [u] + activeCount rest :=
      @List.countP_append _ _ [u] rest
    rw [h₂.count, h₁.count, hcons, Nat.add_assoc]
  pending a := by rw [h₂.pending, h₁.pending, or_assoc, names_singleton, names_cons]
  inactive a := by rw [h₂.inactive, h₁.inactive, or_assoc, names_singleton, names_cons]

theorem sorted_of_accepted (h : Accepted updates) : Sorted updates b (updates.foldl .take b) := by
  induction updates generalizing b with
  | nil => exact ⟨fun a => by simp [Names], rfl, fun a => by simp [Names], fun a => by simp [Names]⟩
  | cons u rest ih =>
      obtain ⟨hu, hrest⟩ := List.forall_mem_cons.mp h
      exact (sorted_take hu).trans (ih hrest)

end Sorting

/-! ## What the batches do to a row -/

section Batches

variable {s s' : Custody} {w : GasWallet} {addresses : List String}

theorem paired_setActive (peer : String) (now : Nat) (w : GasWallet) :
    (setActive peer now w).Paired :=
  ⟨fun h => (by cases h), fun h => (by cases h)⟩

theorem paired_setInactive (w : GasWallet) : (setInactive w).Paired :=
  ⟨fun _ => rfl, fun _ => rfl⟩

/-- Marking a wallet pending needs it to have a peer. -/
theorem paired_setPending : (setPending w).Paired ↔ w.peerId ≠ none :=
  ⟨fun h hn => (by cases h.mpr hn), fun hn => ⟨fun h => (by cases h), fun h => absurd h hn⟩⟩

/-- The rows are changed one by one, and keep their addresses. -/
structure Rewritten (g : GasWallet → GasWallet) (s s' : Custody) : Prop where
  rows : s'.gasWallets = s.gasWallets.map g
  address : ∀ w, (g w).address = w.address

theorem Rewritten.refl (s : Custody) : Rewritten id s s := ⟨(List.map_id _).symm, fun _ => rfl⟩

theorem Rewritten.trans {f g : GasWallet → GasWallet} {s₁ s₂ : Custody} (h₁ : Rewritten f s s₁)
    (h₂ : Rewritten g s₁ s₂) : Rewritten (fun w => g (f w)) s s₂ where
  rows := by
    rw [h₂.rows, h₁.rows]
    exact List.map_map
  address w := (h₂.address _).trans (h₁.address w)

theorem Rewritten.map_address {g : GasWallet → GasWallet} (h : Rewritten g s s') :
    s'.gasWallets.map GasWallet.address = s.gasWallets.map GasWallet.address := by
  rw [h.rows, List.map_map]
  exact List.map_congr_left fun w _ => h.address w

theorem Rewritten.paired {g : GasWallet → GasWallet} (h : Rewritten g s s')
    (hg : ∀ w ∈ s.gasWallets, (g w).Paired) : s'.Paired := by
  intro v hv
  rw [h.rows] at hv
  obtain ⟨w, hw, rfl⟩ := List.mem_map.mp hv
  exact hg w hw

/-- A row, as a statement for these addresses leaves it. -/
def markRow (f : GasWallet → GasWallet) (addresses : List String) (w : GasWallet) : GasWallet :=
  if w.address ∈ addresses then f w else w

theorem rewritten_updateWallets (f : GasWallet → GasWallet) (hf : ∀ w, (f w).address = w.address)
    (s : Custody) (addresses : List String) :
    Rewritten (markRow f addresses) s (s.updateWallets addresses f) where
  rows := rfl
  address w := by
    unfold markRow
    split
    · exact hf w
    · rfl

theorem rewritten_updateWallet (f : GasWallet → GasWallet) (hf : ∀ w, (f w).address = w.address)
    (s : Custody) (address : String) :
    Rewritten (markRow f [address]) s (s.updateWallet address f) := by
  rw [s.updateWallet_eq]
  exact rewritten_updateWallets f hf s [address]

theorem paired_markActive (peer : String) (now : Nat) (address : String) (hw : w.Paired) :
    (markRow (setActive peer now) [address] w).Paired := by
  unfold markRow
  split
  · exact paired_setActive peer now w
  · exact hw

section Active

variable {marks : List (String × String)} {db : Nat → Reply} {now : Nat → Nat}
  {res : Except FundsManagerError Unit}

/-- One statement of the active batch. -/
theorem markGasWalletsActiveBatch_cons {address peer : String}
    (h : exec (markGasWalletsActiveBatch db now ((address, peer) :: marks)) s = (res, s')) :
    (db 0 = .ok () ∧ exec (markGasWalletsActiveBatch (fun i => db (i + 1)) (fun i => now (i + 1))
        marks) (s.updateWallet address (setActive peer (now 0))) = (res, s')) ∨
      db 0 ≠ .ok () ∧ res ≠ .ok () ∧ s' = s := by
  cases h0 : db 0 with
  | error msg =>
      have hfail : exec (markGasWalletActive (db 0) (now 0) address peer) s =
          (.error (.db msg), s) := by rw [h0]; rfl
      rw [markGasWalletsActiveBatch, exec_bind_error hfail] at h
      injection h with hres hs
      refine .inr ⟨fun hok => (by cases hok), fun hok => ?_, hs.symm⟩
      cases hres.trans hok
  | ok u =>
      have hok : exec (markGasWalletActive (db 0) (now 0) address peer) s =
          (.ok (), s.updateWallet address (setActive peer (now 0))) := by rw [h0]; rfl
      rw [markGasWalletsActiveBatch, exec_bind_of_ok hok] at h
      exact .inl ⟨rfl, h⟩

theorem activeBatch_ok_iff (h : exec (markGasWalletsActiveBatch db now marks) s = (res, s')) :
    res = .ok () ↔ ∀ i < marks.length, db i = .ok () := by
  induction marks generalizing db now s with
  | nil =>
      injection h with hres hs
      exact ⟨fun _ i hi => absurd hi (Nat.not_lt_zero i), fun _ => hres.symm⟩
  | cons mark marks ih =>
      rcases markGasWalletsActiveBatch_cons h with ⟨h0, h⟩ | ⟨h0, hno, -⟩
      · rw [ih h]
        constructor
        · intro hall i hi
          cases i with
          | zero => exact h0
          | succ i => exact hall i (Nat.lt_of_succ_lt_succ hi)
        · exact fun hall i hi => hall (i + 1) (Nat.succ_lt_succ hi)
      · exact ⟨fun hok => absurd hok hno, fun hall => absurd (hall 0 (Nat.zero_lt_succ _)) h0⟩

/-- **The active batch**, as far as it gets. If it gets through, the wallets it names have
peers. -/
theorem activeBatch_rows (h : exec (markGasWalletsActiveBatch db now marks) s = (res, s')) :
    ∃ f, Rewritten f s s' ∧ (∀ w, w.Paired → (f w).Paired) ∧
      (res = .ok () → ∀ w, (f w).peerId ≠ none ↔
        w.peerId ≠ none ∨ w.address ∈ marks.map Prod.fst) := by
  induction marks generalizing db now s with
  | nil =>
      injection h with hres hs
      exact ⟨id, hs ▸ .refl s, fun _ hw => hw, fun _ w => by simp⟩
  | cons mark marks ih =>
      obtain ⟨address, peer⟩ := mark
      rcases markGasWalletsActiveBatch_cons h with ⟨-, h⟩ | ⟨-, hno, rfl⟩
      swap
      · exact ⟨id, .refl _, fun _ hw => hw, fun hok => absurd hok hno⟩
      obtain ⟨f, hrows, hpaired, hpeer⟩ := ih h
      have hfirst := rewritten_updateWallet (setActive peer (now 0)) (fun _ => rfl) s address
      refine ⟨_, hfirst.trans hrows,
        fun w hw => hpaired _ (paired_markActive peer (now 0) address hw), fun hok w => ?_⟩
      rw [hpeer hok, List.map_cons, List.mem_cons]
      unfold markRow
      split
      · rename_i ha
        exact ⟨fun _ => .inr (.inl (List.mem_singleton.mp ha)), fun _ => .inl nofun⟩
      · rename_i ha
        rw [or_iff_right (mt List.mem_singleton.mpr ha)]

end Active

/-- **The other two** write all their rows or none. -/
theorem markBatch_cases {f : GasWallet → GasWallet} {db : Reply}
    {res : Except FundsManagerError Unit} (h : exec (markBatch f db addresses) s = (res, s')) :
    (res = .ok () ∧ (addresses ≠ [] → db = .ok ()) ∧ s' = s.updateWallets addresses f) ∨
      db ≠ .ok () ∧ res ≠ .ok () ∧ s' = s := by
  unfold markBatch at h
  split at h
  · rename_i hnil
    injection h with hres hs
    refine .inl ⟨hres.symm, fun hne => absurd hnil hne, ?_⟩
    rw [← hs, hnil]
    simp [Custody.updateWallets]
  · cases db with
    | ok u =>
        injection h with hres hs
        exact .inl ⟨hres.symm, fun _ => rfl, hs.symm⟩
    | error msg =>
        injection h with hres hs
        refine .inr ⟨fun h => (by cases h), fun hok => ?_, hs.symm⟩
        cases hres.trans hok

theorem reject_cases {α : Type} {m : GasM α} {res : Except HandlerStop α}
    (h : exec (reject m) s = (res, s')) :
    ∃ res₀, exec m s = (res₀, s') ∧ ∀ a, res = .ok a ↔ res₀ = .ok a := by
  rw [reject, exec_zoom] at h
  injection h with hres hs
  refine ⟨(exec m s).1, Prod.ext rfl hs, fun a => ?_⟩
  rw [← hres]
  exact mapError_ok

end Batches

/-! ## One request -/

section Handler

variable {s s' : Custody} {w : GasWallet} {updates : List GasWalletStatusUpdate}
  {r : StatusReplies} {b : StatusBatches}

theorem markRow_pending {addresses : List String} (h : w.Paired) :
    (markRow setPending addresses w).Paired ↔ (w.address ∈ addresses → w.peerId ≠ none) := by
  unfold markRow
  split
  · rename_i hmem
    rw [paired_setPending]
    exact ⟨fun hp _ => hp, fun hp => hp hmem⟩
  · rename_i hmem
    exact ⟨fun _ hm => absurd hm hmem, fun _ => h⟩

theorem markRow_inactive {addresses : List String} :
    (markRow setInactive addresses w).Paired ↔ w.address ∈ addresses ∨ w.Paired := by
  unfold markRow
  split
  · rename_i hmem
    exact ⟨fun _ => .inl hmem, fun _ => paired_setInactive w⟩
  · rename_i hmem
    exact ⟨fun hw => .inr hw, fun hw => hw.resolve_left hmem⟩

section Written

variable (hacc : Accepted updates) (hclient : r.client = .ok ())
  (hactive : ∀ i < b.markActive.length, r.active i = .ok ())
  (hsorted : Sorted updates ⟨[], [], []⟩ b)
include hacc hclient hactive hsorted

/-- The condition on a row, said of the batches. -/
theorem rowApt_iff : RowApt updates r w ↔ (r.pending = .ok () → w.address ∈ b.markPending →
    w.peerId ≠ none ∨ w.address ∈ b.markActive.map Prod.fst ∨
      w.address ∈ b.markInactive ∧ r.inactive = .ok ()) := by
  have hcount : b.markActive.length = activeCount updates := by
    rw [hsorted.count]
    exact Nat.zero_add _
  have hnot : ∀ {α : Type} {a : α} {p : Prop}, (a ∈ ([] : List α) ∨ p) ↔ p := by simp
  rw [hsorted.active, hsorted.pending, hsorted.inactive, List.map_nil, hnot, hnot, hnot]
  rw [hcount] at hactive
  exact ⟨fun h => h hacc hclient hactive, fun h _ _ _ => h⟩

/-- After the pending batch, a row it found without a peer needs the inactive batch. -/
theorem rowApt_of_inactive (hpending : b.markPending ≠ [] → r.pending = .ok ())
    (hinactive : b.markInactive ≠ [] → r.inactive = .ok ()) :
    RowApt updates r w ↔ w.address ∈ b.markInactive ∨ (w.address ∈ b.markPending →
      w.peerId ≠ none ∨ w.address ∈ b.markActive.map Prod.fst) := by
  rw [rowApt_iff hacc hclient hactive hsorted]
  constructor
  · intro hapt
    by_cases hin : w.address ∈ b.markInactive
    · exact .inl hin
    · refine .inr fun hmem => ?_
      have hlinked := hapt (hpending (List.ne_nil_of_mem hmem)) hmem
      exact hlinked.imp_right fun h => h.resolve_right fun hboth => hin hboth.1
  · rintro (hin | hlinked) - hmem
    · exact .inr (.inr ⟨hin, hinactive (List.ne_nil_of_mem hin)⟩)
    · exact (hlinked hmem).imp_right .inl

theorem rowApt_of_not_inactive (hpending : b.markPending ≠ [] → r.pending = .ok ())
    (hinactive : r.inactive ≠ .ok ()) :
    RowApt updates r w ↔ (w.address ∈ b.markPending →
      w.peerId ≠ none ∨ w.address ∈ b.markActive.map Prod.fst) := by
  rw [rowApt_iff hacc hclient hactive hsorted]
  constructor
  · intro hapt hmem
    have hlinked := hapt (hpending (List.ne_nil_of_mem hmem)) hmem
    exact hlinked.imp_right fun h => h.resolve_right fun hboth => hinactive hboth.2
  · exact fun hlinked _ hmem => (hlinked hmem).imp_right .inl

end Written

/-- The rows are changed one by one, and one that was in order stays so exactly under the
condition. -/
def RowsServed (updates : List GasWalletStatusUpdate) (r : StatusReplies) (s s' : Custody) : Prop :=
  ∃ g : GasWallet → GasWallet, s'.gasWallets = s.gasWallets.map g ∧
    (∀ w, (g w).address = w.address) ∧ ∀ w, w.Paired → ((g w).Paired ↔ RowApt updates r w)

theorem Rewritten.served {g : GasWallet → GasWallet} (h : Rewritten g s s')
    (hiff : ∀ w, w.Paired → ((g w).Paired ↔ RowApt updates r w)) : RowsServed updates r s s' :=
  ⟨g, h.rows, h.address, hiff⟩

/-- Nothing breaks where the pending batch is not written. -/
theorem Rewritten.served_of_apt {g : GasWallet → GasWallet} (h : Rewritten g s s')
    (hpaired : ∀ w, w.Paired → (g w).Paired) (hapt : ∀ w, RowApt updates r w) :
    RowsServed updates r s s' :=
  h.served fun w hw => ⟨fun _ => hapt w, fun _ => hpaired w hw⟩

theorem rowsServed_of_idle (hs : s' = s) (hapt : ∀ w, RowApt updates r w) :
    RowsServed updates r s s' := by
  subst hs
  exact (Rewritten.refl _).served_of_apt (fun _ hw => hw) hapt

/-- **The three batches**, one after the other. -/
theorem batches_rows (hacc : Accepted updates) (hclient : r.client = .ok ())
    (hsorted : Sorted updates ⟨[], [], []⟩ b) {res : Except HandlerStop Unit} (h : exec (do
      reject (markGasWalletsActiveBatch r.active r.now b.markActive)
      reject (markGasWalletsPendingBatch r.pending b.markPending)
      reject (markGasWalletsInactiveBatch r.inactive b.markInactive)) s = (res, s')) :
    RowsServed updates r s s' := by
  rcases exec_bind_cases h with ⟨e, ha, rfl⟩ | ⟨u, s₁, ha, h⟩
  · obtain ⟨res₀, ha, hsame⟩ := reject_cases ha
    obtain ⟨f, hrows, hpaired, -⟩ := activeBatch_rows ha
    refine hrows.served_of_apt hpaired fun w _ _ hactive => ?_
    have hcount : b.markActive.length = activeCount updates :=
      hsorted.count.trans (Nat.zero_add _)
    cases (hsame ()).mpr ((activeBatch_ok_iff ha).mpr (hcount ▸ hactive))
  obtain ⟨res₀, ha, hsame⟩ := reject_cases ha
  have hok : res₀ = .ok () := (hsame ()).mp rfl
  have hactive := (activeBatch_ok_iff ha).mp hok
  obtain ⟨f, hrows, hpaired, hpeer⟩ := activeBatch_rows ha
  rcases exec_bind_cases h with ⟨e, hp, rfl⟩ | ⟨u, s₂, hp, h⟩
  · obtain ⟨res₁, hp, hsame⟩ := reject_cases hp
    rcases markBatch_cases hp with ⟨hok, -⟩ | ⟨hdb, -, rfl⟩
    · cases (hsame ()).mpr hok
    · exact hrows.served_of_apt hpaired fun w _ _ _ hp => absurd hp hdb
  obtain ⟨res₁, hp, hsame⟩ := reject_cases hp
  rcases markBatch_cases hp with ⟨-, hdb, rfl⟩ | ⟨-, hno, -⟩
  swap
  · exact absurd ((hsame ()).mp rfl) hno
  have hrows' := hrows.trans (rewritten_updateWallets setPending (fun _ => rfl) s₁ b.markPending)
  -- a row that is marked pending has a peer by now, or it is not in order
  have hrow : ∀ w, w.Paired → ((markRow setPending b.markPending (f w)).Paired ↔
      (w.address ∈ b.markPending → w.peerId ≠ none ∨ w.address ∈ b.markActive.map Prod.fst)) :=
    fun w hw => by rw [markRow_pending (hpaired w hw), hrows.address, hpeer hok]
  obtain ⟨res₂, hi, -⟩ := reject_cases h
  rcases markBatch_cases hi with ⟨-, hdb', rfl⟩ | ⟨hdb', -, rfl⟩
  · have hlast := rewritten_updateWallets setInactive (fun _ => rfl)
      (s₁.updateWallets b.markPending setPending) b.markInactive
    refine (hrows'.trans hlast).served fun w hw => ?_
    rw [markRow_inactive, hrows'.address, hrow w hw,
      rowApt_of_inactive hacc hclient hactive hsorted hdb hdb']
  · refine hrows'.served fun w hw => ?_
    rw [hrow w hw, rowApt_of_not_inactive hacc hclient hactive hsorted hdb hdb']

/-- **What a request does to the rows.** -/
theorem handler_rows {res : Except HandlerStop Unit}
    (h : exec (setGasWalletStatusHandler r updates) s = (res, s')) : RowsServed updates r s s' := by
  rcases exec_bind_cases h with ⟨e, hsort, rfl⟩ | ⟨b, s₁, hsort, h⟩
  · rw [exec_ofExcept] at hsort
    injection hsort with hsort hs
    refine rowsServed_of_idle hs.symm fun w hacc => ?_
    cases hsort.symm.trans (sortUpdates_ok_iff.mpr ⟨hacc, rfl⟩)
  rw [exec_ofExcept] at hsort
  injection hsort with hsort hs
  subst hs
  obtain ⟨hacc, hb⟩ := sortUpdates_ok_iff.mp hsort
  cases hclient : r.client with
  | error msg =>
      have hstop : exec (Effect.ofExcept (r.client.mapError HandlerStop.custom)) s =
          ((.error (.custom msg) : Except HandlerStop Unit), s) := by rw [hclient]; rfl
      rw [exec_bind_error hstop] at h
      injection h with _ hs
      refine rowsServed_of_idle hs.symm fun w _ hc => ?_
      cases hclient.symm.trans hc
  | ok u =>
      have hgo : exec (Effect.ofExcept (r.client.mapError HandlerStop.custom)) s =
          ((.ok () : Except HandlerStop Unit), s) := by rw [hclient]; rfl
      rw [exec_bind_of_ok hgo] at h
      exact batches_rows hacc hclient (hb ▸ sorted_of_accepted hacc) h

theorem reject_error {α : Type} {m : GasM α} {e : HandlerStop}
    (h : exec (reject m) s = (.error e, s')) : ∃ e', e = .fundsManager e' := by
  rw [reject, exec_zoom] at h
  injection h with hres _
  cases hm : (exec m (id s)).1 with
  | error e' =>
      rw [hm] at hres
      exact ⟨e', (Except.error.inj hres).symm⟩
  | ok a =>
      rw [hm] at hres
      cases hres

/-- **The handler panics exactly at a status it does not know.** -/
theorem panics_iff : (FleetRequest.setStatus updates r).Panics s ↔ ¬ Readable updates := by
  rw [← @sortUpdates_panics_iff updates ⟨[], [], []⟩]
  constructor
  · rintro ⟨msg, hp⟩
    rcases h : exec (setGasWalletStatusHandler r updates) s with ⟨res, s'⟩
    rw [h] at hp
    obtain rfl : res = .error (.panicked msg) := hp
    rcases exec_bind_cases h with ⟨e, hsort, he⟩ | ⟨b, s₁, -, h⟩
    · rw [exec_ofExcept] at hsort
      injection hsort with hsort _
      obtain rfl := Except.error.inj he
      exact ⟨msg, hsort⟩
    -- what comes later stops in other ways
    rcases exec_bind_cases h with ⟨e, hclient, he⟩ | ⟨u, s₂, -, h⟩
    · rw [exec_ofExcept] at hclient
      injection hclient with hclient _
      cases hc : r.client with
      | error text =>
          rw [hc] at hclient
          cases hclient.trans he.symm
      | ok u =>
          rw [hc] at hclient
          cases hclient
    rcases exec_bind_cases h with ⟨e, hbatch, he⟩ | ⟨u, s₃, -, h⟩
    · obtain ⟨e', rfl⟩ := reject_error hbatch
      cases he
    rcases exec_bind_cases h with ⟨e, hbatch, he⟩ | ⟨u, s₄, -, hbatch⟩
    · obtain ⟨e', rfl⟩ := reject_error hbatch
      cases he
    · obtain ⟨e', he⟩ := reject_error hbatch
      cases he
  · rintro ⟨msg, hsort⟩
    have hstop : exec (Effect.ofExcept (sortUpdates updates ⟨[], [], []⟩)) s =
        ((.error (.panicked msg) : Except HandlerStop StatusBatches), s) := by
      rw [exec_ofExcept, hsort]
    exact ⟨msg, congrArg Prod.fst (exec_bind_error hstop)⟩

end Handler

/-! ## The other calls -/

section Calls

variable {s s' : Custody} {c : GasCall}

/-- Unique addresses, and a peer exactly where one belongs. -/
structure Orderly (s : Custody) : Prop where
  nodup : (s.gasWallets.map GasWallet.address).Nodup
  paired : s.Paired

/-- **What a creation, a registration or a report does to the rows**, also where it fails: it
rewrites them and leaves peers where they belong, or it adds a fresh one. -/
theorem attempt_rows (hnd : (s.gasWallets.map GasWallet.address).Nodup) (c : GasCall) :
    (∃ g, Rewritten g s (s.attempt c).2 ∧ ∀ w, w.Paired → (g w).Paired) ∨
      ∃ address, address ∉ s.gasWallets.map GasWallet.address ∧
        (s.attempt c).2.gasWallets = s.gasWallets ++ [.new address] := by
  have hidle : ∀ {t : Custody}, ∃ g, Rewritten g t t ∧ ∀ w : GasWallet, w.Paired → (g w).Paired :=
    fun {t} => ⟨id, .refl t, fun _ hw => hw⟩
  rcases ha : s.attempt c with ⟨res, s'⟩
  cases c with
  | create keypair r =>
      rcases Custody.attempt_create ha with ⟨-, -, rfl⟩ | ⟨hfresh, ⟨-, -, rfl⟩ | ⟨-, -, rfl⟩⟩
      · exact .inl hidle
      · exact .inr ⟨keypair.address, hfresh.1, rfl⟩
      · exact .inr ⟨keypair.address, hfresh.1, rfl⟩
  | register peer r =>
      obtain ⟨res₀, ha, -⟩ := exec_unit ha
      rcases registerGasWallet_exact ha with ⟨-, rfl⟩ | ⟨w, -, rfl, -⟩
      · exact .inl hidle
      · exact .inl ⟨_, rewritten_updateWallet (setActive peer r.now) (fun _ => rfl) s w.address,
          fun v hv => paired_markActive peer r.now w.address hv⟩
  | report activePeers r =>
      rcases recordActiveGasWallet_cases ha with ⟨_, -, rfl⟩ | ⟨rfl, -⟩
      · exact .inl hidle
      · refine .inl ⟨_, ⟨gasWallets_sweep hnd, fun w => ?_⟩, fun w hw => ?_⟩
        · split
          · exact address_act w w
          · rfl
        · split
          · exact (moved_act r activePeers w).peerless hw
          · exact hw

theorem nodup_attempt (h : (s.gasWallets.map GasWallet.address).Nodup) (c : GasCall) :
    ((s.attempt c).2.gasWallets.map GasWallet.address).Nodup := by
  rcases attempt_rows h c with ⟨g, hrows, -⟩ | ⟨address, hnew, hrows⟩
  · rw [hrows.map_address]
    exact h
  · rw [hrows]
    exact Rows.nodup_key_append h hnew

/-- **Creations, registrations and reports keep the table in order**, also where they fail. -/
theorem orderly_attempt (h : Orderly s) (c : GasCall) : Orderly (s.attempt c).2 := by
  refine ⟨nodup_attempt h.nodup c, ?_⟩
  rcases attempt_rows h.nodup c with ⟨g, hrows, hpaired⟩ | ⟨address, -, hrows⟩
  · exact hrows.paired fun w hw => hpaired w (h.paired w hw)
  · intro w hw
    rw [hrows] at hw
    rcases List.mem_append.mp hw with hw | hw
    · exact h.paired w hw
    · rw [List.mem_singleton.mp hw]
      exact ⟨fun _ => rfl, fun _ => rfl⟩

/-! ## Back to the pool -/

/-- Every statement of a report is answered. -/
structure ReportReplies.AllAnswered (r : ReportReplies) : Prop where
  load : r.load = .ok ()
  write : ∀ address, r.write address = .ok ()

/-- **A wallet that is not in use returns to the pool**: two reports that do not list its peer
make it inactive, if the first one comes after the grace period. -/
def Reclaimable (s : Custody) : Prop :=
  ∀ w ∈ s.gasWallets, ∀ peers₁ peers₂ r₁ r₂, r₁.AllAnswered → r₂.AllAnswered →
    (∀ peer, w.peerId = some peer → peer ∉ peers₁ ∧ peer ∉ peers₂) → ¬ r₁.WithinGrace w →
    ∃ s', Runs.run gasStep s [.report peers₁ r₁, .report peers₂ r₂] = some s' ∧
      ∃ v ∈ s'.gasWallets, v.address = w.address ∧ v.status = .inactive

theorem reportWallets_ok {r : ReportReplies} (hr : r.AllAnswered) (activePeers : List String)
    (ws : List GasWallet) (s : Custody) : (exec (reportWallets r activePeers ws) s).1 = .ok () := by
  induction ws generalizing s with
  | nil => rfl
  | cons w ws ih =>
      rcases hw : exec (reportWallet r activePeers w) s with ⟨res, s₁⟩
      rcases reportWallet_cases hw with ⟨rfl, -, -⟩ | ⟨-, -, -, msg, hmsg⟩
      · rw [reportWallets, exec_bind_of_ok hw]
        exact ih s₁
      · cases (hr.write w.address).symm.trans hmsg

/-- A report whose statements are answered succeeds. -/
theorem gasStep_answered {r : ReportReplies} (hr : r.AllAnswered) (activePeers : List String)
    (h : (s.gasWallets.map GasWallet.address).Nodup) :
    gasStep s (.report activePeers r) =
      some ⟨s.gasWallets.map (reportRow r activePeers), s.secrets⟩ := by
  have hload : exec (onDb r.load (look (·.gasWallets))) s = (.ok s.gasWallets, s) := by
    rw [hr.load]
    rfl
  have hok : exec (recordActiveGasWallet r activePeers) s =
      (.ok (), (exec (recordActiveGasWallet r activePeers) s).2) := by
    refine Prod.ext ?_ rfl
    rw [recordActiveGasWallet, exec_bind_of_ok hload]
    exact reportWallets_ok hr activePeers _ s
  have hstep : gasStep s (.report activePeers r) =
      some (exec (recordActiveGasWallet r activePeers) s).2 := by
    unfold gasStep
    dsimp only
    rw [hok]
  rw [hstep, gasStep_report h hstep]

/-- Two reports that do not list its peer make a wallet inactive: an active one takes both, a
pending one the first. -/
theorem status_reportRow_reportRow {w : GasWallet} {peers₁ peers₂ : List String}
    {r₁ r₂ : ReportReplies} (hw : w.Paired)
    (hout : ∀ peer, w.peerId = some peer → peer ∉ peers₁ ∧ peer ∉ peers₂)
    (hlate : ¬ r₁.WithinGrace w) :
    (reportRow r₂ peers₂ (reportRow r₁ peers₁ w)).status = .inactive := by
  cases hp : w.peerId with
  | none =>
      have hstay : ∀ r peers, reportRow r peers w = w := fun r peers => by
        rw [reportRow, act_peerless hp]
        rfl
      rw [hstay, hstay]
      exact hw.mpr hp
  | some peer =>
      obtain ⟨hout₁, hout₂⟩ := hout peer hp
      obtain ⟨-, hactive, hpending, -⟩ := @act_absent r₁ peers₁ peer w hp hout₁
      cases hst : w.status with
      | inactive => cases (hw.mp hst).symm.trans hp
      | active =>
          have hfirst : reportRow r₁ peers₁ w = setPending w := by
            rw [reportRow, hactive hst hlate]
          have hnext := (@act_absent r₂ peers₂ peer (setPending w) hp hout₂).2.2.1 rfl
          rw [hfirst, reportRow, hnext]
          rfl
      | pending =>
          have hfirst : reportRow r₁ peers₁ w = setInactive w := by
            rw [reportRow, hpending hst]
          rw [hfirst, reportRow, act_peerless rfl]
          rfl

theorem Orderly.reclaimable (h : Orderly s) : Reclaimable s := by
  intro w hw peers₁ peers₂ r₁ r₂ hr₁ hr₂ hout hlate
  have h₁ := gasStep_answered hr₁ peers₁ h.nodup
  have hfirst : Rewritten (reportRow r₁ peers₁) s
      ⟨s.gasWallets.map (reportRow r₁ peers₁), s.secrets⟩ := ⟨rfl, fun v => address_act v v⟩
  have h₂ := gasStep_answered hr₂ peers₂ (hfirst.map_address.symm ▸ h.nodup)
  refine ⟨_, Runs.run_cons_some.mpr ⟨_, h₁, Runs.run_cons_some.mpr ⟨_, h₂, rfl⟩⟩, ?_⟩
  refine ⟨reportRow r₂ peers₂ (reportRow r₁ peers₁ w),
    List.mem_map_of_mem (List.mem_map_of_mem hw), ?_, ?_⟩
  · exact (address_act _ _).trans (address_act _ _)
  · exact status_reportRow_reportRow (h.paired w hw) hout hlate

end Calls

/-! ## Whole histories -/

section Histories

variable {s s' : Custody} {q : FleetRequest}

/-- The rows survive the request. -/
def FleetRequest.RowsApt (s : Custody) : FleetRequest → Prop
  | .call _ => True
  | .setStatus updates r => ∀ w ∈ s.gasWallets, RowApt updates r w

theorem nodup_serve (h : (s.gasWallets.map GasWallet.address).Nodup) (q : FleetRequest) :
    ((s.serve q).gasWallets.map GasWallet.address).Nodup := by
  cases q with
  | call c => exact nodup_attempt h c
  | setStatus updates r =>
      rcases he : exec (setGasWalletStatusHandler r updates) s with ⟨res, s'⟩
      obtain ⟨g, hrows, haddr, -⟩ := handler_rows he
      have hnext : s.serve (.setStatus updates r) = s' := congrArg Prod.snd he
      rw [hnext, (Rewritten.mk hrows haddr).map_address]
      exact h

/-- **A table in order stays so exactly if the rows survive.** -/
theorem orderly_serve_iff (h : Orderly s) : Orderly (s.serve q) ↔ q.RowsApt s := by
  cases q with
  | call c => exact ⟨fun _ => trivial, fun _ => orderly_attempt h c⟩
  | setStatus updates r =>
      have hnd := nodup_serve h.nodup (.setStatus updates r)
      rcases he : exec (setGasWalletStatusHandler r updates) s with ⟨res, s'⟩
      have hnext : s.serve (.setStatus updates r) = s' := congrArg Prod.snd he
      rw [hnext] at hnd ⊢
      obtain ⟨g, hrows, haddr, hiff⟩ := handler_rows he
      constructor
      · intro h' w hw
        have hmem : g w ∈ s'.gasWallets := hrows ▸ List.mem_map_of_mem hw
        exact (hiff w (h.paired w hw)).mp (h'.paired _ hmem)
      · intro hapt
        refine ⟨hnd, (Rewritten.mk hrows haddr).paired fun w hw => ?_⟩
        exact (hiff w (h.paired w hw)).mpr (hapt w hw)

theorem apt_iff : q.Apt s ↔ ¬ q.Panics s ∧ q.RowsApt s := by
  cases q with
  | call c => exact ⟨fun _ => ⟨id, trivial⟩, fun _ => trivial⟩
  | setStatus updates r =>
      rw [panics_iff, not_not]
      exact Iff.rfl

theorem orderly_empty : Orderly emptyCustody := ⟨List.nodup_nil, fun w hw => by cases hw⟩

/--
**Statuses set by hand.** Along a history of creations, registrations, reports and status
requests that starts with an empty table, the handler does not panic, a wallet has a peer
exactly while it is not inactive, and every wallet that is not in use can return to the pool
through reports, exactly if every status request is apt.
-/
theorem statuses_sound_iff (requests : List FleetRequest) :
    (Runs.Meets Custody.step (fun s q => ¬ q.Panics s) emptyCustody requests ∧
        Runs.Always Custody.step (fun s => s.Paired ∧ Reclaimable s) emptyCustody requests) ↔
      Runs.Meets Custody.step (fun s q => q.Apt s) emptyCustody requests := by
  have hrun := Runs.run_total Custody.serve requests emptyCustody
  have hnodup : ∀ s q s', (s.gasWallets.map GasWallet.address).Nodup →
      Custody.step s q = some s' → (s'.gasWallets.map GasWallet.address).Nodup := by
    intro s q s' h hs
    obtain rfl := Option.some.inj hs
    exact nodup_serve h q
  have hrows : Runs.Always Custody.step Orderly emptyCustody requests ↔
      Runs.Meets Custody.step (fun s q => q.RowsApt s) emptyCustody requests := by
    refine Runs.always_iff_meets (fun s q s' h hs => ?_) requests orderly_empty hrun
    obtain rfl := Option.some.inj hs
    exact orderly_serve_iff h
  have horder : Runs.Always Custody.step (fun s => s.Paired ∧ Reclaimable s) emptyCustody requests ↔
      Runs.Always Custody.step Orderly emptyCustody requests := by
    constructor
    · intro h
      have hboth := (Runs.Always.and_invariant hnodup requests orderly_empty.nodup).mpr h
      exact hboth.imp fun s hs => ⟨hs.1, hs.2.1⟩
    · exact Runs.Always.imp fun s hs => ⟨hs.paired, hs.reclaimable⟩
  rw [horder, hrows, ← Runs.meets_and]
  simp only [apt_iff]

/-! ## A status nobody knows, and a pool wallet marked pending -/

def answeredStatus : StatusReplies := ⟨.ok (), fun _ => .ok (), fun _ => 0, .ok (), .ok ()⟩

/-- The handler panics at an unknown status; and a fresh wallet that is marked pending has no
peer, so that no report ever returns it to the pool. -/
theorem pool_wallet_stranded :
    (FleetRequest.setStatus [⟨"a1", "retired", none⟩] answeredStatus).Panics emptyCustody ∧
      ∃ s, Runs.run Custody.step emptyCustody
          [.call (.create ⟨"a1", "key"⟩ ⟨.ok (), .ok ()⟩),
            .setStatus [⟨"a1", "pending", none⟩] answeredStatus] = some s ∧
        s.gasWallets = [⟨"a1", none, .pending, none⟩] ∧
        ∀ activePeers r s', gasStep s (.report activePeers r) = some s' →
          s'.gasWallets = s.gasWallets := by
  constructor
  · refine panics_iff.mpr fun hreadable => ?_
    obtain ⟨⟨status, hok⟩, -⟩ := hreadable
    have hunknown : (GasWalletStatus.fromStr "retired").toOption = none := by decide +kernel
    rw [show GasWalletStatus.fromStr "retired" = .ok status from hok] at hunknown
    cases hunknown
  · have hrun : (Runs.run Custody.step emptyCustody
        [.call (.create ⟨"a1", "key"⟩ ⟨.ok (), .ok ()⟩),
          .setStatus [⟨"a1", "pending", none⟩] answeredStatus]).map Custody.gasWallets =
            some [⟨"a1", none, .pending, none⟩] := by
      decide +kernel
    obtain ⟨s, hs, hrows⟩ := Option.map_eq_some_iff.mp hrun
    refine ⟨s, hs, hrows, fun activePeers r s' hstep => ?_⟩
    have hnd : (s.gasWallets.map GasWallet.address).Nodup := by
      rw [hrows]
      exact List.nodup_singleton _
    rw [gasStep_report hnd hstep, hrows, List.map_singleton, reportRow, act_peerless rfl]
    rfl

end Histories

end RelayerExtensions.Funds
