import RelayerExtensions.Lib.Effect
import RelayerExtensions.Lib.Rows

/-!
# Gas wallets: the table and the three calls on it

`create_gas_wallet`, `register_gas_wallet` and `record_active_gas_wallet`
(`funds-manager-server/src/custody_client/gas_wallets.rs`) with the queries they
issue (`custody_client/queries.rs`).

The table holds the wallets of the one chain its custody client manages. Which of
several matching rows a query without an order returns is up to the database: the
call's replies carry a `pick`. Each query and each secrets-manager or chain call can
fail for reasons of its own; what was written before stays written. Times are
microseconds, the resolution of the column.

Per call there is one lemma that says everything it can have done:
`registerGasWallet_cases`, `reportWallets_cases` and `createGasWallet_cases`.
-/

namespace RelayerExtensions.Funds

open Effect

inductive GasWalletStatus where
  | active
  | pending
  | inactive
deriving DecidableEq

structure GasWallet where
  address : String
  peerId : Option String
  status : GasWalletStatus
  activatedAt : Option Nat
deriving DecidableEq

def GasWallet.new (address : String) : GasWallet := ⟨address, none, .inactive, none⟩

/-- Active or pending, and owned by the peer. -/
def GasWallet.LiveFor (w : GasWallet) (peer : String) : Prop :=
  w.status ≠ .inactive ∧ w.peerId = some peer

instance (w : GasWallet) (peer : String) : Decidable (w.LiveFor peer) :=
  inferInstanceAs (Decidable (_ ∧ _))

/-- The errors the three calls return. -/
inductive FundsManagerError where
  | db (msg : String)
  | secretsManager (msg : String)
  /-- Whatever the refill fails with. -/
  | refill (msg : String)
deriving DecidableEq

/-- How a remote system answered: at all, or with an error of this text. -/
abbrev Reply := Except String Unit

/-- The table `gas_wallets`, and the secrets manager by name of secret. -/
structure Custody where
  gasWallets : List GasWallet
  secrets : String → Option String

abbrev GasM (α : Type) := Effect FundsManagerError Custody α

/-- A call of a remote system that may fail instead of doing anything. A write that takes effect
and whose answer is lost is not in the model. -/
def answered {α : Type} (wrap : String → FundsManagerError) (reply : Reply) (m : GasM α) : GasM α :=
  match reply with
  | .ok () => m
  | .error msg => throw (wrap msg)

def onDb {α : Type} (db : Reply) (m : GasM α) : GasM α := answered .db db m

def orFail {α : Type} (e : FundsManagerError) : Option α → GasM α
  | some a => pure a
  | none => throw e

/-- Some row of a result without an order. -/
def anyOf (rows : List GasWallet) (pick : Nat) : Option GasWallet := rows[pick % rows.length]?

namespace Custody

/-! ## Statements -/

/-- Active rows sort before pending ones. -/
def findLiveGasWalletForPeer (s : Custody) (pick : Nat) (peer : String) : Option GasWallet :=
  let live := s.gasWallets.filter fun w => decide (w.LiveFor peer)
  let active := live.filter fun w => w.status = .active
  (anyOf active pick).or (anyOf live pick)

def findInactiveGasWallet (s : Custody) (pick : Nat) : Option GasWallet :=
  anyOf (s.gasWallets.filter fun w => w.status = .inactive) pick

def addGasWallet (s : Custody) (address : String) : Custody :=
  { s with gasWallets := s.gasWallets ++ [.new address] }

def updateWallet (s : Custody) (address : String) (f : GasWallet → GasWallet) : Custody :=
  { s with gasWallets := Rows.update GasWallet.address address f s.gasWallets }

end Custody

def setInactive (w : GasWallet) : GasWallet := { w with status := .inactive, peerId := none }

def setPending (w : GasWallet) : GasWallet := { w with status := .pending }

def setActive (peer : String) (now : Nat) (w : GasWallet) : GasWallet :=
  { w with status := .active, peerId := some peer, activatedAt := some now }

def markGasWalletInactive (db : Reply) (address : String) : GasM Unit :=
  onDb db (modify (·.updateWallet address setInactive))

def markGasWalletPending (db : Reply) (address : String) : GasM Unit :=
  onDb db (modify (·.updateWallet address setPending))

def markGasWalletActive (db : Reply) (now : Nat) (address peer : String) : GasM Unit :=
  onDb db (modify (·.updateWallet address (setActive peer now)))

/-! ## The secrets manager -/

def gasWalletSecretName (address : String) : String := "gas-wallet-" ++ address.toLower

/-- A name can be used once. -/
def createSecretsManagerEntry (reply : Reply) (name value : String) : GasM Unit := do
  match ← answered .secretsManager reply (look (·.secrets name)) with
  | some _ => throw (.secretsManager "ResourceExistsException")
  | none => modify fun s => { s with secrets := Function.update s.secrets name (some value) }

def getSecret (reply : Reply) (name : String) : GasM String := do
  let value ← answered .secretsManager reply (look (·.secrets name))
  orFail (.secretsManager "ResourceNotFoundException") value

/-! ## Creating a wallet -/

/-- What `PrivateKeySigner::random` came up with, in hex. -/
structure Keypair where
  address : String
  privateKey : String
deriving DecidableEq

structure CreateReplies where
  insert : Reply
  secret : Reply

def createGasWallet (r : CreateReplies) (keypair : Keypair) : GasM String := do
  onDb r.insert (modify (·.addGasWallet keypair.address))
  createSecretsManagerEntry r.secret (gasWalletSecretName keypair.address) keypair.privateKey
  return keypair.address

/-! ## Registering a peer -/

structure RegisterReplies where
  findLive : Reply
  findInactive : Reply
  mark : Reply
  secret : Reply
  refill : Reply
  pick : Nat
  /-- The time at which the wallet is marked active. -/
  now : Nat

/-- `find_inactive_gas_wallet`: an error if there is none. -/
def findInactiveGasWallet (db : Reply) (pick : Nat) : GasM GasWallet := do
  let wallet ← onDb db (look (·.findInactiveGasWallet pick))
  orFail (.db "Record not found") wallet

/-- The first half of `register_gas_wallet`: the peer's own wallet, or a fresh one. -/
def allotGasWallet (r : RegisterReplies) (peer : String) : GasM GasWallet := do
  match ← onDb r.findLive (look (·.findLiveGasWalletForPeer r.pick peer)) with
  | some existing =>
      if existing.status ≠ .active then
        markGasWalletActive r.mark r.now existing.address peer
      return existing
  | none =>
      let wallet ← findInactiveGasWallet r.findInactive r.pick
      markGasWalletActive r.mark r.now wallet.address peer
      return wallet

/-- The second half: the key, once the wallets have been topped up. -/
def handOutKey (r : RegisterReplies) (gasWallet : GasWallet) : GasM String := do
  let secretValue ← getSecret r.secret (gasWalletSecretName gasWallet.address)
  answered .refill r.refill (pure ())
  return secretValue

def registerGasWallet (r : RegisterReplies) (peer : String) : GasM String := do
  let gasWallet ← allotGasWallet r peer
  handOutKey r gasWallet

/-! ## Recording the active peers -/

inductive GasWalletReportAction where
  | none
  | activate
  | markPending
  | markInactive
deriving DecidableEq

/-- Three minutes. -/
def gasWalletReclaimGrace : Nat := 180 * 1000000

def gasWalletReportAction (status : GasWalletStatus) (peerActive : Bool)
    (activatedElapsed : Option Nat) : GasWalletReportAction :=
  if peerActive then
    match status with
    | .pending => .activate
    | _ => .none
  else
    match status with
    | .active =>
        let withinGrace := (activatedElapsed.map fun age =>
          decide (age < gasWalletReclaimGrace)).getD false
        if withinGrace then .none else .markPending
    | .pending => .markInactive
    | .inactive => .none

/-- `SystemTime::elapsed`: an error for a time that lies ahead. -/
def elapsed (now since : Nat) : Option Nat := if since ≤ now then some (now - since) else none

structure ReportReplies where
  load : Reply
  /-- The statement for the wallet at an address. -/
  write : String → Reply
  /-- The time at which the wallet's age is taken. -/
  clock : String → Nat
  /-- The time with which it is marked active, if it is. -/
  stamp : String → Nat

variable (r : ReportReplies) (activePeers : List String)

/-- What the report does with a wallet of its snapshot. -/
def ReportReplies.action (w : GasWallet) : GasWalletReportAction :=
  match w.peerId with
  | none => .none
  | some peer => gasWalletReportAction w.status (activePeers.contains peer)
      (w.activatedAt.bind (elapsed (r.clock w.address)))

def reportWallet (wallet : GasWallet) : GasM Unit :=
  match wallet.peerId with
  | none => pure ()
  | some peer =>
      match r.action activePeers wallet with
      | .none => pure ()
      | .activate =>
          markGasWalletActive (r.write wallet.address) (r.stamp wallet.address) wallet.address peer
      | .markPending => markGasWalletPending (r.write wallet.address) wallet.address
      | .markInactive => markGasWalletInactive (r.write wallet.address) wallet.address

def reportWallets : List GasWallet → GasM Unit
  | [] => pure ()
  | wallet :: rest => do
      reportWallet r activePeers wallet
      reportWallets rest

def recordActiveGasWallet : GasM Unit := do
  let allWallets ← onDb r.load (look (·.gasWallets))
  reportWallets r activePeers allWallets

/-! ## Queries -/

variable {r activePeers} {s s' : Custody} {pick : Nat} {peer : String} {w : GasWallet}
  {res : Except FundsManagerError Unit}

theorem mem_of_anyOf {rows : List GasWallet} (h : anyOf rows pick = some w) : w ∈ rows :=
  List.mem_of_getElem? h

theorem anyOf_eq_none {rows : List GasWallet} : anyOf rows pick = none ↔ rows = [] := by
  rw [anyOf, List.getElem?_eq_none_iff]
  constructor
  · intro h
    by_contra hne
    exact absurd (Nat.mod_lt pick (List.length_pos_iff.mpr hne)) (Nat.not_lt.mpr h)
  · rintro rfl
    exact Nat.zero_le _

namespace Custody

theorem findLive_some (h : s.findLiveGasWalletForPeer pick peer = some w) :
    w ∈ s.gasWallets ∧ w.LiveFor peer := by
  have hlive : w ∈ s.gasWallets.filter fun w => decide (w.LiveFor peer) := by
    rcases Option.or_eq_some_iff.mp h with h | ⟨-, h⟩
    · exact (List.mem_filter.mp (mem_of_anyOf h)).1
    · exact mem_of_anyOf h
  obtain ⟨hw, hl⟩ := List.mem_filter.mp hlive
  exact ⟨hw, of_decide_eq_true hl⟩

theorem findLive_none :
    s.findLiveGasWalletForPeer pick peer = none ↔ ∀ w ∈ s.gasWallets, ¬ w.LiveFor peer := by
  have hlive : (s.gasWallets.filter fun w => decide (w.LiveFor peer)) = [] ↔
      ∀ w ∈ s.gasWallets, ¬ w.LiveFor peer := by
    simp [List.filter_eq_nil_iff]
  simp only [findLiveGasWalletForPeer, Option.or_eq_none_iff, anyOf_eq_none]
  constructor
  · exact fun h => hlive.mp h.2
  · intro h
    rw [hlive.mpr h]
    exact ⟨rfl, rfl⟩

theorem findInactive_some (h : s.findInactiveGasWallet pick = some w) :
    w ∈ s.gasWallets ∧ w.status = .inactive := by
  obtain ⟨hw, hi⟩ := List.mem_filter.mp (mem_of_anyOf h)
  exact ⟨hw, of_decide_eq_true hi⟩

/-! What becomes of the rows in an update. -/

variable {f : GasWallet → GasWallet}

theorem mem_updateWallet_self (hw : w ∈ s.gasWallets) :
    f w ∈ (s.updateWallet w.address f).gasWallets := by
  have := @Rows.mem_update_of_mem _ _ _ GasWallet.address w.address f _ _ hw
  rwa [if_pos rfl] at this

theorem mem_updateWallet_of_ne {address : String} (hw : w ∈ s.gasWallets)
    (hne : w.address ≠ address) :
    w ∈ (s.updateWallet address f).gasWallets := by
  have := @Rows.mem_update_of_mem _ _ _ GasWallet.address address f _ _ hw
  rwa [if_neg hne] at this

theorem mem_updateWallet {address : String} (hw : w ∈ (s.updateWallet address f).gasWallets) :
    w ∈ s.gasWallets ∧ w.address ≠ address ∨ ∃ v ∈ s.gasWallets, v.address = address ∧ w = f v := by
  obtain ⟨v, hv, rfl⟩ := Rows.mem_update.mp hw
  split
  · rename_i ha
    exact .inr ⟨v, hv, ha, rfl⟩
  · rename_i ha
    exact .inl ⟨hv, ha⟩

/-- The wallet a registration settles on: a live one of the peer, or else an inactive one. -/
def chooseWallet (s : Custody) (pick : Nat) (peer : String) : Option GasWallet :=
  (s.findLiveGasWalletForPeer pick peer).or (s.findInactiveGasWallet pick)

theorem chooseWallet_some (h : s.chooseWallet pick peer = some w) :
    w ∈ s.gasWallets ∧
      (w.LiveFor peer ∨ w.status = .inactive ∧ ∀ v ∈ s.gasWallets, ¬ v.LiveFor peer) := by
  rcases Option.or_eq_some_iff.mp h with h | ⟨hn, h⟩
  · exact ⟨(findLive_some h).1, .inl (findLive_some h).2⟩
  · exact ⟨(findInactive_some h).1, .inr ⟨(findInactive_some h).2, findLive_none.mp hn⟩⟩

end Custody

/-! ## What a registration can have done -/

/-- A call that fails does nothing. -/
theorem answered_cases {α : Type} {wrap : String → FundsManagerError} {reply : Reply} {m : GasM α}
    {res : Except FundsManagerError α} (h : exec (answered wrap reply m) s = (res, s')) :
    (∃ e, res = .error e ∧ s' = s) ∨ exec m s = (res, s') := by
  cases reply with
  | ok u => exact .inr h
  | error msg =>
      injection h with hres hs
      exact .inl ⟨_, hres.symm, hs.symm⟩

theorem orFail_cases {α : Type} {e : FundsManagerError} {x : Option α}
    {res : Except FundsManagerError α} (h : exec (orFail e x) s = (res, s')) :
    s' = s ∧ ∀ a, res = .ok a → x = some a := by
  cases x with
  | none =>
      injection h with hres hs
      refine ⟨hs.symm, fun a ha => ?_⟩
      rw [← hres] at ha
      cases ha
  | some a =>
      injection h with hres hs
      refine ⟨hs.symm, fun b hb => ?_⟩
      rw [Except.ok.inj (hres.trans hb)]

/-- A look-up that may fail, in both ways. -/
theorem lookup_cases {α : Type} {wrap : String → FundsManagerError} {reply : Reply}
    {f : Custody → Option α} {e : FundsManagerError} {res : Except FundsManagerError α}
    (h : exec (do orFail e (← answered wrap reply (look f))) s = (res, s')) :
    s' = s ∧ ∀ a, res = .ok a → f s = some a := by
  rcases exec_bind_cases h with ⟨e, hl, rfl⟩ | ⟨x, s₁, hl, h⟩
  · rcases answered_cases hl with ⟨_, -, rfl⟩ | hl
    · exact ⟨rfl, fun a ha => by cases ha⟩
    · cases hl
  · rcases answered_cases hl with ⟨_, he, -⟩ | hl
    · cases he
    · cases hl
      exact orFail_cases h

/-- The second half writes nothing. -/
theorem handOutKey_cases {r : RegisterReplies} {res : Except FundsManagerError String}
    (h : exec (handOutKey r w) s = (res, s')) :
    s' = s ∧ ∀ key, res = .ok key → s.secrets (gasWalletSecretName w.address) = some key := by
  rcases exec_bind_cases h with ⟨e, hg, rfl⟩ | ⟨key, s₁, hg, hrest⟩
  · exact ⟨(lookup_cases hg).1, fun key hkey => by cases hkey⟩
  obtain ⟨rfl, hkey⟩ := lookup_cases hg
  rcases exec_bind_cases hrest with ⟨e, hf, rfl⟩ | ⟨u, s₂, hf, hret⟩
  · rcases answered_cases hf with ⟨_, -, rfl⟩ | hf
    · exact ⟨rfl, fun key hkey => by cases hkey⟩
    · cases hf
  · rcases answered_cases hf with ⟨_, he, -⟩ | hf
    · cases he
    · cases hf
      injection hret with hres hs
      exact ⟨hs.symm, fun key' hkey' => hkey key' (hres.trans hkey')⟩

theorem markGasWalletActive_cases {db : Reply} {now : Nat} {address : String}
    (h : exec (markGasWalletActive db now address peer) s = (res, s')) :
    (∃ e, res = .error e ∧ s' = s) ∨
      res = .ok () ∧ s' = s.updateWallet address (setActive peer now) := by
  rcases answered_cases h with he | h
  · exact .inl he
  · injection h with hres hs
    exact .inr ⟨hres.symm, hs.symm⟩

/-- The first half marks the wallet it settles on, unless that is active already. -/
def Allots (r : RegisterReplies) (peer : String) (s s' : Custody)
    (res : Except FundsManagerError GasWallet) : Prop :=
  (s' = s ∧ ∀ w, res = .ok w → s.chooseWallet r.pick peer = some w ∧ w.status = .active) ∨
    ∃ w, res = .ok w ∧ s.chooseWallet r.pick peer = some w ∧ w.status ≠ .active ∧
      s' = s.updateWallet w.address (setActive peer r.now)

/-- Marking, as the two branches of the first half do it. -/
theorem markThen_cases {r : RegisterReplies} {res : Except FundsManagerError GasWallet}
    (hchoice : s.chooseWallet r.pick peer = some w) (hne : w.status ≠ .active)
    (h : exec (do markGasWalletActive r.mark r.now w.address peer; return w) s = (res, s')) :
    Allots r peer s s' res := by
  rcases exec_bind_cases h with ⟨e, hm, rfl⟩ | ⟨u, s₁, hm, h⟩
  · rcases markGasWalletActive_cases hm with ⟨_, _, rfl⟩ | ⟨hok, -⟩
    · exact .inl ⟨rfl, fun w hw => by cases hw⟩
    · cases hok
  · rcases markGasWalletActive_cases hm with ⟨_, he, -⟩ | ⟨-, rfl⟩
    · cases he
    · injection h with hres hs
      exact .inr ⟨w, hres.symm, hchoice, hne, hs.symm⟩

theorem allotGasWallet_cases {r : RegisterReplies} {res : Except FundsManagerError GasWallet}
    (h : exec (allotGasWallet r peer) s = (res, s')) : Allots r peer s s' res := by
  rcases exec_bind_cases h with ⟨e, hf, rfl⟩ | ⟨found, s₁, hf, hrest⟩
  · rcases answered_cases hf with ⟨_, _, rfl⟩ | hl
    · exact .inl ⟨rfl, fun w hw => by cases hw⟩
    · cases hl
  rcases answered_cases hf with ⟨_, he, _⟩ | hl
  · cases he
  have hfound : s.findLiveGasWalletForPeer r.pick peer = found :=
    Except.ok.inj (Prod.ext_iff.mp hl).1
  obtain rfl : s = s₁ := (Prod.ext_iff.mp hl).2
  cases found with
  | some existing =>
      have hchoice : s.chooseWallet r.pick peer = some existing := by
        rw [Custody.chooseWallet, hfound, Option.some_or]
      dsimp only at hrest
      by_cases ha : existing.status = .active
      · rw [if_neg (not_not_intro ha)] at hrest
        injection hrest with hres hs
        refine .inl ⟨hs.symm, fun w hw => ?_⟩
        obtain rfl := Except.ok.inj (hres.trans hw)
        exact ⟨hchoice, ha⟩
      · rw [if_pos ha] at hrest
        exact markThen_cases hchoice ha hrest
  | none =>
      dsimp only at hrest
      rcases exec_bind_cases hrest with ⟨e, hi, rfl⟩ | ⟨fresh, s₂, hi, hmark⟩
      · exact .inl ⟨(lookup_cases hi).1, fun w hw => by cases hw⟩
      obtain ⟨rfl, hfresh⟩ := lookup_cases hi
      have hchoice : s₂.chooseWallet r.pick peer = some fresh := by
        rw [Custody.chooseWallet, hfound, Option.none_or]
        exact hfresh fresh rfl
      have hne : fresh.status ≠ .active := by
        rw [(Custody.findInactive_some (hfresh fresh rfl)).2]
        decide
      exact markThen_cases hchoice hne hmark

/-- **What a registration can have done**: nothing to the table, having found the peer's wallet
active or having failed; or it marked the wallet it settled on, and may have failed after. -/
theorem registerGasWallet_cases {r : RegisterReplies} {res : Except FundsManagerError String}
    (h : exec (registerGasWallet r peer) s = (res, s')) :
    (s' = s ∧ ∀ key, res = .ok key → ∃ w, s.chooseWallet r.pick peer = some w ∧
        w.status = .active ∧ s.secrets (gasWalletSecretName w.address) = some key) ∨
      ∃ w, s.chooseWallet r.pick peer = some w ∧ w.status ≠ .active ∧
        s' = s.updateWallet w.address (setActive peer r.now) ∧
        ∀ key, res = .ok key → s.secrets (gasWalletSecretName w.address) = some key := by
  rw [registerGasWallet, exec_bind] at h
  rcases ha : exec (allotGasWallet r peer) s with ⟨res₁, s₁⟩
  rw [ha] at h
  cases res₁ with
  | error e =>
      rcases allotGasWallet_cases ha with ⟨rfl, -⟩ | ⟨w, hw, -⟩
      · injection h with hres hs
        exact .inl ⟨hs.symm, fun key hkey => by rw [← hres] at hkey; cases hkey⟩
      · cases hw
  | ok w =>
      obtain ⟨rfl, hkey⟩ := handOutKey_cases h
      rcases allotGasWallet_cases ha with ⟨rfl, hw⟩ | ⟨w', hw', hchoice, hne, rfl⟩
      · obtain ⟨hchoice, hact⟩ := hw w rfl
        exact .inl ⟨rfl, fun key hres => ⟨w, hchoice, hact, hkey key hres⟩⟩
      · cases hw'
        exact .inr ⟨w, hchoice, hne, rfl, hkey⟩

theorem createSecretsManagerEntry_cases {reply : Reply} {name value : String}
    (h : exec (createSecretsManagerEntry reply name value) s = (res, s')) :
    (¬ (reply = .ok () ∧ s.secrets name = none) ∧ (∃ e, res = .error e) ∧ s' = s) ∨
      (reply = .ok () ∧ s.secrets name = none) ∧ res = .ok () ∧
        s' = { s with secrets := Function.update s.secrets name (some value) } := by
  cases reply with
  | error msg =>
      injection h with hres hs
      exact .inl ⟨fun h => (by cases h.1), ⟨_, hres.symm⟩, hs.symm⟩
  | ok u =>
      have hlook : exec (answered .secretsManager (.ok u) (look (·.secrets name))) s =
          (.ok (s.secrets name), s) := rfl
      rw [createSecretsManagerEntry, exec_bind_of_ok hlook] at h
      cases hname : s.secrets name with
      | some key =>
          rw [hname] at h
          injection h with hres hs
          exact .inl ⟨fun h => (by cases h.2), ⟨_, hres.symm⟩, hs.symm⟩
      | none =>
          rw [hname] at h
          injection h with hres hs
          exact .inr ⟨⟨rfl, rfl⟩, hres.symm, hs.symm⟩

/-- The tables with a new wallet and its key. -/
def Custody.created (s : Custody) (keypair : Keypair) : Custody where
  gasWallets := s.gasWallets ++ [.new keypair.address]
  secrets := Function.update s.secrets (gasWalletSecretName keypair.address)
    (some keypair.privateKey)

/-- **What a creation can have done**: nothing; or it inserted the row and failed to store the
key; or both. -/
theorem createGasWallet_cases {r : CreateReplies} {keypair : Keypair}
    {res : Except FundsManagerError String} (h : exec (createGasWallet r keypair) s = (res, s')) :
    (r.insert ≠ .ok () ∧ (∃ e, res = .error e) ∧ s' = s) ∨
      r.insert = .ok () ∧
        (¬ (r.secret = .ok () ∧ s.secrets (gasWalletSecretName keypair.address) = none) ∧
            (∃ e, res = .error e) ∧ s' = s.addGasWallet keypair.address ∨
          (r.secret = .ok () ∧ s.secrets (gasWalletSecretName keypair.address) = none) ∧
            res = .ok keypair.address ∧
            s' = s.created keypair) := by
  obtain ⟨insert, secret⟩ := r
  cases insert with
  | error msg =>
      injection h with hres hs
      exact .inl ⟨fun h => (by cases h), ⟨_, hres.symm⟩, hs.symm⟩
  | ok u =>
      refine .inr ⟨rfl, ?_⟩
      have hadd : exec (onDb (.ok u) (modify (·.addGasWallet keypair.address))) s =
          (.ok (), s.addGasWallet keypair.address) := rfl
      rw [createGasWallet, exec_bind_of_ok hadd] at h
      rcases exec_bind_cases h with ⟨e, hsecret, rfl⟩ | ⟨u, s₁, hsecret, h⟩
      · rcases createSecretsManagerEntry_cases hsecret with ⟨hno, -, rfl⟩ | ⟨-, hok, -⟩
        · exact .inl ⟨hno, ⟨e, rfl⟩, rfl⟩
        · cases hok
      · rcases createSecretsManagerEntry_cases hsecret with ⟨-, ⟨e, he⟩, -⟩ | ⟨hyes, -, rfl⟩
        · cases he
        · injection h with hres hs
          exact .inr ⟨hyes, hres.symm, hs.symm⟩

/-- A wallet is created under an address whose secret's name was not in use. -/
theorem createGasWallet_ok {r : CreateReplies} {keypair : Keypair} {address : String}
    (h : exec (createGasWallet r keypair) s = (.ok address, s')) :
    s.secrets (gasWalletSecretName keypair.address) = none ∧ s' = s.created keypair := by
  rcases createGasWallet_cases h with ⟨-, ⟨e, he⟩, -⟩ | ⟨-, ⟨-, ⟨e, he⟩, -⟩ | ⟨hfree, -, hs⟩⟩
  · cases he
  · cases he
  · exact ⟨hfree.2, hs⟩

/-! ## What a report can have done -/

/-- What a report's statement about the wallet `w` of its snapshot does to a row. -/
def ReportReplies.act (r : ReportReplies) (activePeers : List String) (w row : GasWallet) :
    GasWallet :=
  match w.peerId, r.action activePeers w with
  | none, _ | _, .none => row
  | some peer, .activate => setActive peer (r.stamp w.address) row
  | some _, .markPending => setPending row
  | some _, .markInactive => setInactive row

/-- The wallets whose turn comes: all before the first whose statement fails. -/
def ReportReplies.reached (r : ReportReplies) (activePeers : List String) :
    List GasWallet → List GasWallet
  | [] => []
  | w :: rest =>
      match r.action activePeers w, r.write w.address with
      | .none, _ | _, .ok () => w :: r.reached activePeers rest
      | _, .error _ => []

/-- One statement for each wallet of the list. -/
def Custody.sweep (s : Custody) (act : GasWallet → GasWallet → GasWallet) (ws : List GasWallet) :
    Custody :=
  { s with gasWallets := Rows.sweep GasWallet.address act ws s.gasWallets }

theorem address_act (w row : GasWallet) : (r.act activePeers w row).address = row.address := by
  unfold ReportReplies.act
  split <;> rfl

/-- A wallet is held if its age is known and below the grace period. -/
def ReportReplies.WithinGrace (r : ReportReplies) (w : GasWallet) : Prop :=
  ∃ age, w.activatedAt.bind (elapsed (r.clock w.address)) = some age ∧ age < gasWalletReclaimGrace

theorem act_of_action {f : GasWallet → GasWallet} (hp : w.peerId = some peer)
    (h : ∀ row, (match r.action activePeers w with
      | .none => row
      | .activate => setActive peer (r.stamp w.address) row
      | .markPending => setPending row
      | .markInactive => setInactive row) = f row) : r.act activePeers w = f := by
  funext row
  rw [← h row]
  unfold ReportReplies.act
  rw [hp]
  cases r.action activePeers w <;> rfl

/-- A wallet without a peer is passed over. -/
theorem act_peerless (hp : w.peerId = none) : r.act activePeers w = id := by
  funext row
  unfold ReportReplies.act
  rw [hp]
  rfl

/-- The peer is there: a wallet that had drifted to pending is activated again. -/
theorem act_present (hp : w.peerId = some peer) (hin : peer ∈ activePeers) :
    r.act activePeers w =
      if w.status = .pending then setActive peer (r.stamp w.address) else id := by
  refine act_of_action hp fun row => ?_
  have hact : r.action activePeers w = gasWalletReportAction w.status true
      (w.activatedAt.bind (elapsed (r.clock w.address))) := by
    rw [ReportReplies.action, hp]
    simp [hin]
  rw [hact]
  cases w.status <;> rfl

/-- The peer is not there: the wallet goes one step towards inactive, unless it is held. -/
theorem act_absent (hp : w.peerId = some peer) (hout : peer ∉ activePeers) :
    (w.status = .active → r.WithinGrace w → r.act activePeers w = id) ∧
      (w.status = .active → ¬ r.WithinGrace w → r.act activePeers w = setPending) ∧
      (w.status = .pending → r.act activePeers w = setInactive) ∧
      (w.status = .inactive → r.act activePeers w = id) := by
  have hact : r.action activePeers w = gasWalletReportAction w.status false
      (w.activatedAt.bind (elapsed (r.clock w.address))) := by
    rw [ReportReplies.action, hp]
    simp [hout]
  refine ⟨fun hs hg => ?_, fun hs hg => ?_, fun hs => ?_, fun hs => ?_⟩ <;>
    refine act_of_action hp fun row => ?_ <;>
    rw [hact, hs]
  · obtain ⟨age, hage, hlt⟩ := hg
    rw [hage]
    unfold gasWalletReportAction
    simp [hlt]
  · unfold ReportReplies.WithinGrace at hg
    cases hage : w.activatedAt.bind (elapsed (r.clock w.address)) with
    | none => rfl
    | some age =>
        have : ¬ age < gasWalletReclaimGrace := fun hlt => hg ⟨age, hage, hlt⟩
        unfold gasWalletReportAction
        simp [this]
  · rfl
  · rfl

/-- **What a report can decide about a wallet.** -/
theorem action_cases (r : ReportReplies) (activePeers : List String) (w : GasWallet) :
    (r.action activePeers w = .none ∧ (w.peerId = none ∨ w.status ≠ .pending)) ∨
      ∃ peer, w.peerId = some peer ∧
        (peer ∈ activePeers ∧ w.status = .pending ∧ r.action activePeers w = .activate ∨
          peer ∉ activePeers ∧ w.status = .active ∧ r.action activePeers w = .markPending ∨
          peer ∉ activePeers ∧ w.status = .pending ∧ r.action activePeers w = .markInactive) := by
  cases hp : w.peerId with
  | none => exact .inl ⟨by rw [ReportReplies.action, hp], .inl rfl⟩
  | some peer =>
      have hact : r.action activePeers w = gasWalletReportAction w.status
          (activePeers.contains peer) (w.activatedAt.bind (elapsed (r.clock w.address))) := by
        rw [ReportReplies.action, hp]
      rw [hact]
      by_cases hin : peer ∈ activePeers
      · rw [List.contains_iff_mem.mpr hin]
        cases w.status with
        | active | inactive => exact .inl ⟨rfl, .inr (by decide)⟩
        | pending => exact .inr ⟨peer, rfl, .inl ⟨hin, rfl, rfl⟩⟩
      · rw [show activePeers.contains peer = false by simp [hin]]
        cases w.status with
        | active =>
            unfold gasWalletReportAction
            rw [if_neg Bool.false_ne_true]
            dsimp only
            split
            · exact .inl ⟨rfl, .inr (by decide)⟩
            · exact .inr ⟨peer, rfl, .inr (.inl ⟨hin, rfl, rfl⟩)⟩
        | pending => exact .inr ⟨peer, rfl, .inr (.inr ⟨hin, rfl, rfl⟩)⟩
        | inactive => exact .inl ⟨rfl, .inr (by decide)⟩

/-- **What its statement does**, accordingly. -/
theorem act_cases (r : ReportReplies) (activePeers : List String) (w : GasWallet) :
    (r.action activePeers w = .none ∧ r.act activePeers w = id ∧
        (w.peerId = none ∨ w.status ≠ .pending)) ∨
      ∃ peer, w.peerId = some peer ∧
        (peer ∈ activePeers ∧ w.status = .pending ∧ r.action activePeers w = .activate ∧
            r.act activePeers w = setActive peer (r.stamp w.address) ∨
          peer ∉ activePeers ∧ w.status = .active ∧ r.action activePeers w = .markPending ∧
            r.act activePeers w = setPending ∨
          peer ∉ activePeers ∧ w.status = .pending ∧ r.action activePeers w = .markInactive ∧
            r.act activePeers w = setInactive) := by
  rcases action_cases r activePeers w with ⟨hnone, hcase⟩ | ⟨peer, hp, hcase⟩
  · refine .inl ⟨hnone, ?_, hcase⟩
    cases hp : w.peerId with
    | none => exact act_peerless hp
    | some peer => exact act_of_action hp (by rw [hnone]; exact fun _ => rfl)
  · have hact : ∀ {action : GasWalletReportAction}, r.action activePeers w = action →
        ∀ row, r.act activePeers w row = (match action with
          | .none => row
          | .activate => setActive peer (r.stamp w.address) row
          | .markPending => setPending row
          | .markInactive => setInactive row) := by
      rintro action rfl row
      rw [act_of_action hp fun _ => rfl]
    refine .inr ⟨peer, hp, ?_⟩
    rcases hcase with ⟨hin, hst, ha⟩ | ⟨hout, hst, ha⟩ | ⟨hout, hst, ha⟩
    · exact .inl ⟨hin, hst, ha, funext (hact ha)⟩
    · exact .inr (.inl ⟨hout, hst, ha, funext (hact ha)⟩)
    · exact .inr (.inr ⟨hout, hst, ha, funext (hact ha)⟩)

/-- One wallet's turn: its statement is issued or none is needed, or the statement fails. -/
def ReportReplies.Turn (r : ReportReplies) (activePeers : List String) (w : GasWallet)
    (s s' : Custody) (res : Except FundsManagerError Unit) : Prop :=
  (res = .ok () ∧ s' = s.updateWallet w.address (r.act activePeers w) ∧
      (r.action activePeers w = .none ∨ r.write w.address = .ok ())) ∨
    (∃ e, res = .error e) ∧ s' = s ∧ r.action activePeers w ≠ .none ∧
      ∃ msg, r.write w.address = .error msg

theorem reportWallet_cases
    (h : exec (reportWallet r activePeers w) s = (res, s')) : r.Turn activePeers w s s' res := by
  have idle : s.updateWallet w.address id = s := by
    unfold Custody.updateWallet Rows.update
    simp
  -- the three statements differ in what they do to a row only
  have write : ∀ {f : GasWallet → GasWallet}, r.action activePeers w ≠ .none →
      r.act activePeers w = f →
      exec (onDb (r.write w.address) (modify (·.updateWallet w.address f))) s = (res, s') →
      r.Turn activePeers w s s' res := by
    intro f hne hf h
    cases hw : r.write w.address with
    | ok u =>
        rw [hw] at h
        injection h with hres hs
        exact .inl ⟨hres.symm, by rw [hf]; exact hs.symm, .inr hw⟩
    | error msg =>
        rw [hw] at h
        injection h with hres hs
        exact .inr ⟨⟨_, hres.symm⟩, hs.symm, hne, msg, hw⟩
  unfold reportWallet at h
  cases hp : w.peerId with
  | none =>
      rw [hp] at h
      injection h with hres hs
      refine .inl ⟨hres.symm, ?_, .inl (by rw [ReportReplies.action, hp])⟩
      rw [act_peerless hp, idle]
      exact hs.symm
  | some peer =>
      rw [hp] at h
      cases ha : r.action activePeers w with
      | none =>
          rw [ha] at h
          injection h with hres hs
          refine .inl ⟨hres.symm, ?_, .inl ha⟩
          rw [act_of_action (f := id) hp (by rw [ha]; exact fun _ => rfl), idle]
          exact hs.symm
      | activate | markPending | markInactive =>
          rw [ha] at h write
          exact write (by decide) (act_of_action hp (by rw [ha]; exact fun _ => rfl)) h

/-- **What a report does**, however it ends: it acts on the wallets it reaches, one after the
other, and it reaches all of them if it ends well. -/
theorem reportWallets_cases {r : ReportReplies} {activePeers : List String} :
    ∀ {ws : List GasWallet} {s s' : Custody} {res : Except FundsManagerError Unit},
      exec (reportWallets r activePeers ws) s = (res, s') →
      s' = s.sweep (r.act activePeers) (r.reached activePeers ws) ∧
        (res = .ok () → r.reached activePeers ws = ws)
  | [], s, s', res, h => by
      injection h with hres hs
      exact ⟨hs.symm, fun _ => rfl⟩
  | w :: ws, s, s', res, h => by
      rcases exec_bind_cases h with ⟨e, hw, rfl⟩ | ⟨u, s₁, hw, hrest⟩
      · rcases reportWallet_cases hw with ⟨hok, -⟩ | ⟨-, rfl, hne, msg, hmsg⟩
        · cases hok
        · have hreach : r.reached activePeers (w :: ws) = [] := by
            rw [ReportReplies.reached, hmsg]
            split <;> simp_all
          rw [hreach]
          exact ⟨rfl, fun h => by cases h⟩
      · rcases reportWallet_cases hw with ⟨-, rfl, hgo⟩ | ⟨⟨_, he⟩, -⟩
        · have hreach : r.reached activePeers (w :: ws) = w :: r.reached activePeers ws := by
            rw [ReportReplies.reached]
            rcases hgo with hgo | hgo
            · rw [hgo]
            · rw [hgo]
              split <;> simp_all
          obtain ⟨hs, hall⟩ := reportWallets_cases hrest
          rw [hreach]
          exact ⟨hs, fun hres => by rw [hall hres]⟩
        · cases he

theorem recordActiveGasWallet_cases (h : exec (recordActiveGasWallet r activePeers) s = (res, s')) :
    (∃ e, res = .error e ∧ s' = s) ∨
      s' = s.sweep (r.act activePeers) (r.reached activePeers s.gasWallets) ∧
        (res = .ok () → r.reached activePeers s.gasWallets = s.gasWallets) := by
  rcases exec_bind_cases h with ⟨e, hl, rfl⟩ | ⟨all, s₁, hl, hrest⟩
  · rcases answered_cases hl with ⟨_, -, rfl⟩ | hl
    · exact .inl ⟨e, rfl, rfl⟩
    · cases hl
  · rcases answered_cases hl with ⟨_, he, -⟩ | hl
    · cases he
    · cases hl
      exact .inr (reportWallets_cases hrest)

theorem reached_isInitial (r : ReportReplies) (activePeers : List String) :
    ∀ ws : List GasWallet, r.reached activePeers ws <+: ws
  | [] => List.prefix_rfl
  | w :: ws => by
      rw [ReportReplies.reached]
      split
      · exact List.prefix_cons_inj w |>.mpr (reached_isInitial r activePeers ws)
      · exact List.prefix_cons_inj w |>.mpr (reached_isInitial r activePeers ws)
      · exact List.nil_prefix

/-- **On a table without double addresses** a report changes each row it reaches by what it
decided about that row. -/
theorem gasWallets_sweep (hnd : (s.gasWallets.map GasWallet.address).Nodup) :
    (s.sweep (r.act activePeers) (r.reached activePeers s.gasWallets)).gasWallets =
      s.gasWallets.map fun w =>
        if w ∈ r.reached activePeers s.gasWallets then r.act activePeers w w else w := by
  have hpre := reached_isInitial r activePeers s.gasWallets
  have hsub := hpre.sublist
  have := Rows.sweep_rows (@address_act r activePeers) hnd (hnd.sublist (hsub.map _))
    fun w hw => hsub.subset hw
  refine this.trans (List.map_congr_left fun w hw => ?_)
  have hiff : w.address ∈ (r.reached activePeers s.gasWallets).map GasWallet.address ↔
      w ∈ r.reached activePeers s.gasWallets := by
    constructor
    · intro hm
      obtain ⟨v, hv, hvw⟩ := List.mem_map.mp hm
      exact List.inj_on_of_nodup_map hnd (hsub.subset hv) hw hvw ▸ hv
    · exact fun hm => List.mem_map_of_mem hm
  simp only [hiff]

end RelayerExtensions.Funds
