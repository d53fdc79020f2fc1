import RelayerExtensions.Funds.GasHistory
import RelayerExtensions.Lib.Procs

/-!
# Gas wallets: registrations and reports at the same time

The calls of `Funds.GasWallets`, cut at every statement. `GasOp` is where a call
stands; `gasSystem` is its code, and `register_alone` and `report_alone` say that
the pieces put together are the calls.

Both calls decide on what they read and write later. A registration looks for a
wallet and marks it in a second statement; a report takes one snapshot of the table
and then issues a statement for each wallet in it. Two registrations that read the
same inactive wallet both mark it, and both return its key. `Undisturbed` says that
this does not happen: what a statement acts on is still as it was read, and a report
leaves a wallet alone whose registration is under way.

The log is ghost state, newest entry first: the keys that were returned, with the
wallet's row at that moment, the report cycles when they took their snapshot, and the
wallets that were marked inactive. `absences` counts the cycles since a peer's last
registration that did not list it. Under `Undisturbed` a peer that was given a key
still owns the wallet, unless it was absent from two cycles first (`Holding`).
-/

namespace RelayerExtensions.Funds

open Procs Effect

inductive GasEvent where
  /-- The key of a wallet goes out to a peer; the wallet's row at that moment. -/
  | returned (address peer : String) (row : Option GasWallet)
  | started (activePeers : List String)
  | inactivated (address : String)
deriving DecidableEq

structure GasShared where
  custody : Custody
  log : List GasEvent

def GasShared.update (s : GasShared) (address : String) (f : GasWallet → GasWallet) : GasShared :=
  { s with custody := s.custody.updateWallet address f }

def GasShared.record (s : GasShared) (e : GasEvent) : GasShared := { s with log := e :: s.log }

/-- The row at an address. -/
def Custody.rowAt (s : Custody) (address : String) : Option GasWallet :=
  s.gasWallets.find? (·.address = address)

/-- Where a call stands: the statement it issues next. -/
inductive GasOp where
  | findLive (peer : String)
  | findInactive (peer : String)
  /-- The wallet is as it was read. -/
  | mark (peer : String) (wallet : GasWallet)
  | fetchKey (peer : String) (wallet : GasWallet)
  | refill (peer : String) (wallet : GasWallet)
  | load (activePeers : List String)
  /-- The wallets of the snapshot still to be treated, and how long the log was then. -/
  | report (activePeers : List String) (since : Nat) (rest : List GasWallet)
deriving DecidableEq

inductive GasRequest where
  | register (peer : String)
  | report (activePeers : List String)
deriving DecidableEq

/-- What a statement gets from outside. -/
structure GasInput where
  reply : Reply
  pick : Nat
  now : Nat

/-- The same answer to all statements. -/
def GasInput.replies (i : GasInput) : ReportReplies :=
  ⟨i.reply, fun _ => i.reply, fun _ => i.now, fun _ => i.now⟩

def launchGas (_ : GasShared) : GasRequest → GasOp
  | .register peer => .findLive peer
  | .report activePeers => .load activePeers

/-- The next statement, if it is answered. -/
def answeredGas (s : GasShared) (input : GasInput) : GasOp → GasShared × Option GasOp
  | .findLive peer =>
      match s.custody.findLiveGasWalletForPeer input.pick peer with
      | some existing =>
          if existing.status ≠ .active then (s, some (.mark peer existing))
          else (s, some (.fetchKey peer existing))
      | none => (s, some (.findInactive peer))
  | .findInactive peer =>
      match s.custody.findInactiveGasWallet input.pick with
      | some wallet => (s, some (.mark peer wallet))
      | none => (s, none)
  | .mark peer wallet =>
      (s.update wallet.address (setActive peer input.now), some (.fetchKey peer wallet))
  | .fetchKey peer wallet =>
      match s.custody.secrets (gasWalletSecretName wallet.address) with
      | some _ => (s, some (.refill peer wallet))
      | none => (s, none)
  | .refill peer wallet =>
      (s.record (.returned wallet.address peer (s.custody.rowAt wallet.address)), none)
  | .load activePeers =>
      (s.record (.started activePeers),
        some (.report activePeers (s.log.length + 1) s.custody.gasWallets))
  | .report activePeers since rest =>
      match anyOf rest input.pick with
      | none => (s, none)
      | some wallet =>
          let written := s.update wallet.address (input.replies.act activePeers wallet)
          (if input.replies.action activePeers wallet = .markInactive
              then written.record (.inactivated wallet.address) else written,
            some (.report activePeers since (rest.eraseIdx (input.pick % rest.length))))

/-- A report that has nothing to do for a wallet issues no statement; any other statement that
fails ends its call. -/
def nextGas (s : GasShared) (op : GasOp) (input : GasInput) : GasShared × Option GasOp :=
  match input.reply, op with
  | .ok (), op => answeredGas s input op
  | .error _, .report activePeers since rest =>
      match anyOf rest input.pick with
      | none => (s, none)
      | some wallet =>
          if input.replies.action activePeers wallet = .none then
            (s, some (.report activePeers since (rest.eraseIdx (input.pick % rest.length))))
          else (s, none)
  | .error _, _ => (s, none)

def gasSystem : System GasShared GasOp GasRequest GasInput := ⟨launchGas, nextGas⟩

/-! ## The pieces put together -/

/-- The replies of a registration whose statements are all answered. -/
def GasInput.registerReplies (i : GasInput) : RegisterReplies :=
  ⟨i.reply, i.reply, i.reply, i.reply, i.reply, i.pick, i.now⟩

variable {input : GasInput}

/-- Running by itself, a registration does to the table what `registerGasWallet` does. -/
theorem register_alone (s : GasShared) (hok : input.reply = .ok ()) (peer : String) :
    (alone gasSystem input 5 s (launchGas s (.register peer))).1.custody =
        (exec (registerGasWallet input.registerReplies peer) s.custody).2 ∧
      (alone gasSystem input 5 s (launchGas s (.register peer))).2 = none := by
  cases hl : s.custody.findLiveGasWalletForPeer input.pick peer with
  | some existing =>
      cases hk : s.custody.secrets (gasWalletSecretName existing.address) <;>
        by_cases ha : existing.status = .active <;>
        simp [alone, gasSystem, launchGas, nextGas, answeredGas, registerGasWallet,
          allotGasWallet, handOutKey, getSecret, orFail, onDb, answered, markGasWalletActive,
          GasInput.registerReplies, GasShared.update, GasShared.record, Custody.updateWallet,
          exec_bind, hok, hl, hk, ha]
  | none =>
      cases hi : s.custody.findInactiveGasWallet input.pick with
      | none =>
          simp [alone, gasSystem, launchGas, nextGas, answeredGas, registerGasWallet,
            allotGasWallet, findInactiveGasWallet, orFail, onDb, answered,
            GasInput.registerReplies, exec_bind, hok, hl, hi]
      | some fresh =>
          cases hk : s.custody.secrets (gasWalletSecretName fresh.address) <;>
            simp [alone, gasSystem, launchGas, nextGas, answeredGas, registerGasWallet,
              allotGasWallet, findInactiveGasWallet, handOutKey, getSecret, orFail, onDb, answered,
              markGasWalletActive, GasInput.registerReplies, GasShared.update, GasShared.record,
              Custody.updateWallet, exec_bind, hok, hl, hi, hk]

/-- So does a report, wallet by wallet. -/
theorem reportRest_alone (hok : input.reply = .ok ()) (hpick : input.pick = 0)
    (activePeers : List String) (since : Nat) : ∀ (rest : List GasWallet) (s : GasShared),
    (alone gasSystem input (rest.length + 1) s (.report activePeers since rest)).1.custody =
        (exec (reportWallets input.replies activePeers rest) s.custody).2 ∧
      (alone gasSystem input (rest.length + 1) s (.report activePeers since rest)).2 = none
  | [], s => by
      have hnext : nextGas s (.report activePeers since []) input = (s, none) := by
        simp [nextGas, answeredGas, hok, anyOf]
      rw [alone_none hnext]
      exact ⟨rfl, rfl⟩
  | w :: rest, s => by
      obtain ⟨s', hnext, hcustody⟩ : ∃ s', nextGas s (.report activePeers since (w :: rest)) input
            = (s', some (.report activePeers since rest)) ∧
          s'.custody = s.custody.updateWallet w.address (input.replies.act activePeers w) := by
        refine ⟨_, by simp [nextGas, answeredGas, hok, hpick, anyOf]; rfl, ?_⟩
        split <;> rfl
      have hexec : exec (reportWallets input.replies activePeers (w :: rest)) s.custody =
          exec (reportWallets input.replies activePeers rest) s'.custody := by
        rcases hw : exec (reportWallet input.replies activePeers w) s.custody with ⟨res, s₁⟩
        rw [reportWallets, exec_bind, hw]
        rcases reportWallet_cases hw with ⟨rfl, rfl, -⟩ | ⟨-, -, -, msg, hmsg⟩
        · rw [hcustody]
        · have : input.reply = .error msg := hmsg
          rw [hok] at this
          cases this
      rw [List.length_cons, alone_some hnext, hexec]
      exact reportRest_alone hok hpick activePeers since rest s'

theorem report_alone (s : GasShared) (hok : input.reply = .ok ()) (hpick : input.pick = 0)
    (activePeers : List String) :
    (alone gasSystem input (s.custody.gasWallets.length + 2) s
        (launchGas s (.report activePeers))).1.custody =
        (exec (recordActiveGasWallet input.replies activePeers) s.custody).2 ∧
      (alone gasSystem input (s.custody.gasWallets.length + 2) s
        (launchGas s (.report activePeers))).2 = none := by
  have hnext : nextGas s (.load activePeers) input = (s.record (.started activePeers),
      some (.report activePeers (s.log.length + 1) s.custody.gasWallets)) := by
    simp [nextGas, answeredGas, hok]
  have hexec : exec (recordActiveGasWallet input.replies activePeers) s.custody =
      exec (reportWallets input.replies activePeers s.custody.gasWallets) s.custody := by
    simp [recordActiveGasWallet, onDb, answered, GasInput.replies, exec_bind, hok]
  change (alone gasSystem input (_ + 1 + 1) s (.load activePeers)).1.custody = _ ∧
    (alone gasSystem input (_ + 1 + 1) s (.load activePeers)).2 = none
  rw [alone_some hnext, hexec]
  exact reportRest_alone hok hpick activePeers _ _ _

/-! ## What the log says -/

/-- The report cycles since the peer's last registration that did not list it. -/
def absences (peer : String) : List GasEvent → Nat
  | [] => 0
  | .returned _ p _ :: log => if p = peer then 0 else absences peer log
  | .started activePeers :: log =>
      if peer ∈ activePeers then absences peer log else absences peer log + 1
  | .inactivated _ :: log => absences peer log

/-- The peer was given the key of the wallet, and the wallet has not been marked inactive after
two absences of the peer since. -/
def Holding (address peer : String) : List GasEvent → Prop
  | [] => False
  | .returned a p _ :: log => (a = address ∧ p = peer) ∨ Holding address peer log
  | .started _ :: log => Holding address peer log
  | .inactivated a :: log => (a = address → absences peer log < 2) ∧ Holding address peer log

/-- A registration of the peer returns. -/
def GasEvent.ReturnedTo (peer : String) : GasEvent → Prop
  | .returned _ p _ => p = peer
  | _ => False

instance (peer : String) : DecidablePred (GasEvent.ReturnedTo peer)
  | .returned _ p _ => inferInstanceAs (Decidable (p = peer))
  | .started _ | .inactivated _ => .isFalse id

/-- No registration of the peer returned in this part of the log. -/
def NoReturn (peer : String) (log : List GasEvent) : Prop := ∀ e ∈ log, ¬ e.ReturnedTo peer

instance (peer : String) (log : List GasEvent) : Decidable (NoReturn peer log) :=
  inferInstanceAs (Decidable (∀ _ ∈ _, _))

/-- Every key went out for a row that was active for the peer, and to a peer other than its
holder never. -/
def Legit : List GasEvent → Prop
  | [] => True
  | .returned a q row :: log =>
      (∃ w ∈ row, w.status = .active ∧ w.peerId = some q) ∧ (∀ p, Holding a p log → p = q) ∧
        Legit log
  | _ :: log => Legit log

/-! ## The condition -/

/-- The wallet a registration is about to mark is as it was read: still inactive, with the peer
still without a wallet; or still the peer's own. -/
def StillFound (s : Custody) (peer : String) (wallet : GasWallet) : Prop :=
  ∃ row ∈ s.gasWallets, row.address = wallet.address ∧
    (row.LiveFor peer ∨ row.status = .inactive ∧ ∀ v ∈ s.gasWallets, ¬ v.LiveFor peer)

/-- A registration that has settled on the wallet and has not returned yet. -/
def GasOp.Settles (address : String) : GasOp → Prop
  | .fetchKey _ wallet | .refill _ wallet => wallet.address = address
  | _ => False

/-- The wallet a report is about to change is as its snapshot has it; and to step it towards
inactive, no registration of its peer may have returned since the snapshot, or be about to
return this wallet. -/
def StillSeen (w : World GasShared GasOp) (activePeers : List String) (since : Nat)
    (wallet : GasWallet) : Prop :=
  (∃ row ∈ w.shared.custody.gasWallets, row.address = wallet.address ∧
      row.status = wallet.status ∧ row.peerId = wallet.peerId) ∧
    ∀ peer ∈ wallet.peerId, peer ∉ activePeers →
      NoReturn peer (w.shared.log.take (w.shared.log.length - since)) ∧
        ∀ q op, w.ops q = some op → ¬ op.Settles wallet.address

def Undisturbed (w : World GasShared GasOp) : Tick GasRequest GasInput → Prop
  | .advance p input => ∀ op, w.ops p = some op →
      match op with
      | .mark peer wallet => StillFound w.shared.custody peer wallet
      | .report activePeers since rest => ∀ wallet, anyOf rest input.pick = some wallet →
          input.replies.action activePeers wallet ≠ .none →
          StillSeen w activePeers since wallet
      | _ => True
  | _ => True

/-! ## Invariants -/

/-- A pending wallet's peer has been absent once; whoever holds a key owns the wallet; and keys
went out as they should. -/
structure Sound (s : GasShared) : Prop where
  tidy : Tidy s.custody
  pending : ∀ w ∈ s.custody.gasWallets, w.status = .pending → ∀ peer ∈ w.peerId,
    1 ≤ absences peer s.log
  held : ∀ address peer, Holding address peer s.log →
    ∃ w ∈ s.custody.gasWallets, w.address = address ∧ w.LiveFor peer
  legit : Legit s.log

/-- A registration that has settled on a wallet finds it active for its peer. A report that
omits a peer adds one absence to what its snapshot shows, if the peer has not registered
since. -/
def OpSound (s : GasShared) : GasOp → Prop
  | .fetchKey peer wallet | .refill peer wallet =>
      ∃ row ∈ s.custody.gasWallets, row.address = wallet.address ∧ row.status = .active ∧
        row.peerId = some peer
  | .report activePeers since rest => since ≤ s.log.length ∧
      ∀ v ∈ rest, ∀ peer ∈ v.peerId, peer ∉ activePeers →
        NoReturn peer (s.log.take (s.log.length - since)) →
        1 ≤ absences peer s.log ∧ (v.status = .pending → 2 ≤ absences peer s.log)
  | _ => True

variable {s : GasShared} {op : GasOp} {peer address : String} {row : GasWallet} {e : GasEvent}
  {f : GasWallet → GasWallet}

theorem absences_le_cons {log : List GasEvent} (he : ¬ e.ReturnedTo peer) :
    absences peer log ≤ absences peer (e :: log) := by
  cases e with
  | returned a p w =>
      have hp : p ≠ peer := he
      exact Nat.le_of_eq (if_neg hp).symm
  | started activePeers =>
      rw [absences]
      split
      · exact Nat.le_refl _
      · exact Nat.le_succ _
  | inactivated a => exact Nat.le_refl _

/-- A call under way is indifferent to new entries of the log. -/
theorem OpSound.record (h : OpSound s op) (e : GasEvent) : OpSound (s.record e) op := by
  cases op with
  | fetchKey peer wallet | refill peer wallet => exact h
  | report activePeers since rest =>
      obtain ⟨hlen, hrest⟩ := h
      refine ⟨Nat.le_succ_of_le hlen, fun v hv peer hp hout hno => ?_⟩
      have htake : (e :: s.log).take ((e :: s.log).length - since)
          = e :: s.log.take (s.log.length - since) := by
        rw [List.length_cons, Nat.succ_sub hlen, List.take_succ_cons]
      change NoReturn peer ((e :: s.log).take ((e :: s.log).length - since)) at hno
      rw [htake] at hno
      have hmono : absences peer s.log ≤ absences peer (s.record e).log :=
        absences_le_cons (hno e List.mem_cons_self)
      obtain ⟨hone, htwo⟩ := hrest v hv peer hp hout fun e' he' =>
        hno e' (List.mem_cons_of_mem _ he')
      exact ⟨Nat.le_trans hone hmono, fun hs => Nat.le_trans (htwo hs) hmono⟩
  | _ => trivial

/-- It notices an update only if it has settled on the wallet, and then only if the wallet does
not stay active for its peer. -/
theorem OpSound.update (h : OpSound s op) (haddr : ∀ w, (f w).address = w.address)
    (hkeep : op.Settles address → ∀ w ∈ s.custody.gasWallets, w.address = address →
      w.status = .active → (f w).status = .active ∧ (f w).peerId = w.peerId) :
    OpSound (s.update address f) op := by
  have hsettled : ∀ {p : String} {wallet : GasWallet}, (wallet.address = address →
      op.Settles address) →
      (∃ row ∈ s.custody.gasWallets, row.address = wallet.address ∧ row.status = .active ∧
        row.peerId = some p) →
      ∃ row ∈ (s.update address f).custody.gasWallets, row.address = wallet.address ∧
        row.status = .active ∧ row.peerId = some p := by
    rintro p wallet hop ⟨row, hrow, ha, hact, hp⟩
    by_cases heq : row.address = address
    · obtain ⟨hact', hp'⟩ := hkeep (hop (ha ▸ heq)) row hrow heq hact
      subst heq
      exact ⟨f row, Custody.mem_updateWallet_self hrow, (haddr row).trans ha, hact',
        hp'.trans hp⟩
    · exact ⟨row, Custody.mem_updateWallet_of_ne hrow heq, ha, hact, hp⟩
  cases op with
  | fetchKey p wallet | refill p wallet => exact hsettled id h
  | report activePeers since rest => exact h
  | _ => trivial

/-! ### What one statement keeps -/

theorem Sound.row_eq (h : Sound s) {v w : GasWallet} (hv : v ∈ s.custody.gasWallets)
    (hw : w ∈ s.custody.gasWallets) (ha : v.address = w.address) : v = w :=
  List.inj_on_of_nodup_map h.tidy.nodup hv hw ha

/-- Whoever holds the key of a wallet is its row's peer. -/
theorem Sound.holder (h : Sound s) (hrow : row ∈ s.custody.gasWallets)
    (hold : Holding row.address peer s.log) : row.LiveFor peer := by
  obtain ⟨w, hw, ha, hl⟩ := h.held _ _ hold
  exact h.row_eq hw hrow ha ▸ hl

/-- Marking a wallet active for its own peer, or for one without a wallet if nobody has it. -/
theorem sound_setActive (h : Sound s) {now : Nat} (hrow : row ∈ s.custody.gasWallets)
    (hfound : row.LiveFor peer ∨
      row.status = .inactive ∧ ∀ v ∈ s.custody.gasWallets, ¬ v.LiveFor peer) :
    Sound (s.update row.address (setActive peer now)) where
  tidy := tidy_setActive h.tidy hrow hfound
  pending w hw hst := by
    rcases Custody.mem_updateWallet hw with ⟨hw, -⟩ | ⟨v, -, -, rfl⟩
    · exact h.pending w hw hst
    · cases hst
  held a p hold := by
    obtain ⟨w, hw, ha, hl⟩ := h.held a p hold
    by_cases heq : w.address = row.address
    · obtain rfl := h.row_eq hw hrow heq
      refine ⟨_, Custody.mem_updateWallet_self hw, ha, fun hs => (by cases hs), ?_⟩
      rcases hfound with hown | ⟨hidle, -⟩
      · exact hown.2.symm.trans hl.2
      · exact absurd hidle hl.1
    · exact ⟨w, Custody.mem_updateWallet_of_ne hw heq, ha, hl⟩
  legit := h.legit

/-- It leaves the row as any registration that has settled on it needs it. -/
theorem setActive_keeps (h : Sound s) {now : Nat} (hrow : row ∈ s.custody.gasWallets)
    (hfound : row.LiveFor peer ∨
      row.status = .inactive ∧ ∀ v ∈ s.custody.gasWallets, ¬ v.LiveFor peer) :
    ∀ w ∈ s.custody.gasWallets, w.address = row.address → w.status = .active →
      (setActive peer now w).status = .active ∧ (setActive peer now w).peerId = w.peerId := by
  intro w hw ha hact
  obtain rfl := h.row_eq hw hrow ha
  refine ⟨rfl, ?_⟩
  rcases hfound with hown | ⟨hidle, -⟩
  · exact hown.2.symm
  · rw [hact] at hidle
    cases hidle

/-- A report's change to one row. -/
theorem Sound.tidy_moved (h : Sound s) (hrow : row ∈ s.custody.gasWallets)
    (hmoved : Moved row (f row)) : Tidy (s.update row.address f).custody := by
  refine h.tidy.moved (fun w hw => ?_) rfl
  split
  · rename_i ha
    exact h.row_eq hw hrow ha ▸ hmoved
  · exact .kept

theorem rowAt_eq (h : Sound s) (hrow : row ∈ s.custody.gasWallets) :
    s.custody.rowAt row.address = some row := by
  cases hf : s.custody.rowAt row.address with
  | none => exact absurd (List.find?_eq_none.mp hf row hrow) (by simp)
  | some w =>
      have ha : w.address = row.address := by simpa using List.find?_some hf
      rw [h.row_eq (List.mem_of_find?_eq_some hf) hrow ha]

theorem sound_returned (h : Sound s) (hrow : row ∈ s.custody.gasWallets)
    (hact : row.status = .active) (hp : row.peerId = some peer) :
    Sound (s.record (.returned row.address peer (s.custody.rowAt row.address))) where
  tidy := h.tidy
  pending w hw hst p hwp := by
    -- the peer's one wallet is active, so it is not this one
    have hne : peer ≠ p := by
      rintro rfl
      have heq := h.tidy.single w hw row hrow peer ⟨by rw [hst]; decide, hwp⟩
        ⟨by rw [hact]; decide, hp⟩
      rw [heq, hact] at hst
      cases hst
    change 1 ≤ absences p (_ :: s.log)
    rw [absences, if_neg hne]
    exact h.pending w hw hst p hwp
  held a p hold := by
    rcases hold with ⟨rfl, rfl⟩ | hold
    · exact ⟨row, hrow, rfl, by rw [hact]; decide, hp⟩
    · exact h.held a p hold
  legit := by
    refine ⟨⟨row, rowAt_eq h hrow, hact, hp⟩, fun p hold => ?_, h.legit⟩
    exact Option.some.inj ((h.holder hrow hold).2.symm.trans hp)

theorem sound_started (h : Sound s) (activePeers : List String) :
    Sound (s.record (.started activePeers)) where
  tidy := h.tidy
  pending w hw hst p hp := Nat.le_trans (h.pending w hw hst p hp)
    (absences_le_cons id)
  held a p hold := h.held a p hold
  legit := h.legit

theorem opSound_started (h : Sound s) (activePeers : List String) :
    OpSound (s.record (.started activePeers))
      (.report activePeers (s.log.length + 1) s.custody.gasWallets) := by
  refine ⟨Nat.le_refl _, fun v hv p hp hout _ => ?_⟩
  have habs : absences p (s.record (.started activePeers)).log = absences p s.log + 1 := by
    change absences p (_ :: s.log) = _
    rw [absences, if_neg hout]
  rw [habs]
  exact ⟨Nat.succ_pos _, fun hst => Nat.succ_le_succ (h.pending v hv hst p hp)⟩

/-- An active wallet steps down after one absence of its peer. -/
theorem sound_setPending (h : Sound s) (hrow : row ∈ s.custody.gasWallets)
    (hact : row.status = .active) (hp : row.peerId = some peer)
    (habs : 1 ≤ absences peer s.log) : Sound (s.update row.address setPending) where
  tidy := h.tidy_moved hrow (.pending hp (by rw [hact]; decide))
  pending w hw hst p hwp := by
    rcases Custody.mem_updateWallet hw with ⟨hw, -⟩ | ⟨v, hv, ha, rfl⟩
    · exact h.pending w hw hst p hwp
    · obtain rfl := h.row_eq hv hrow ha
      obtain rfl : peer = p := Option.some.inj (hp.symm.trans hwp)
      exact habs
  held a p hold := by
    obtain ⟨w, hw, ha, hl⟩ := h.held a p hold
    by_cases heq : w.address = row.address
    · subst ha
      rw [heq]
      refine ⟨setPending w, ?_, heq, fun hs => (by cases hs), hl.2⟩
      exact heq ▸ Custody.mem_updateWallet_self hw
    · exact ⟨w, Custody.mem_updateWallet_of_ne hw heq, ha, hl⟩
  legit := h.legit

/-- A pending wallet is given up after two. -/
theorem sound_setInactive (h : Sound s) (hrow : row ∈ s.custody.gasWallets)
    (hst : row.status = .pending) (hp : row.peerId = some peer) (habs : 2 ≤ absences peer s.log) :
    Sound ((s.update row.address setInactive).record (.inactivated row.address)) where
  tidy := h.tidy_moved hrow (.inactivated hp (by rw [hst]; decide))
  pending w hw hst p hwp := by
    rcases Custody.mem_updateWallet hw with ⟨hw, -⟩ | ⟨v, -, -, rfl⟩
    · exact h.pending w hw hst p hwp
    · cases hst
  held a p hold := by
    obtain ⟨hfew, hold⟩ := hold
    obtain ⟨w, hw, ha, hl⟩ := h.held a p hold
    by_cases heq : w.address = row.address
    · -- the holder was the row's peer, which has been absent twice
      obtain rfl := h.row_eq hw hrow heq
      obtain rfl : peer = p := Option.some.inj (hp.symm.trans hl.2)
      exact absurd (hfew ha) (Nat.not_lt.mpr habs)
    · exact ⟨w, Custody.mem_updateWallet_of_ne hw heq, ha, hl⟩
  legit := h.legit

/-! ### One statement -/

theorem nextGas_ok (h : input.reply = .ok ()) (s : GasShared) (op : GasOp) :
    nextGas s op input = answeredGas s input op := by
  unfold nextGas
  rw [h]

/-- A statement that fails changes nothing, and a report goes on only from a wallet it had
nothing to do for. -/
theorem nextGas_error {msg : String} (h : input.reply = .error msg) (s : GasShared) (op : GasOp) :
    (nextGas s op input).1 = s ∧ ∀ op', (nextGas s op input).2 = some op' →
      ∃ activePeers since rest, op = .report activePeers since rest ∧
        op' = .report activePeers since (rest.eraseIdx (input.pick % rest.length)) := by
  unfold nextGas
  rw [h]
  cases op with
  | report activePeers since rest =>
      dsimp only
      split
      · exact ⟨rfl, fun op' hop => by cases hop⟩
      · split
        · exact ⟨rfl, fun op' hop => ⟨_, _, _, rfl, (Option.some.inj hop).symm⟩⟩
        · exact ⟨rfl, fun op' hop => by cases hop⟩
  | _ => exact ⟨rfl, fun op' hop => by cases hop⟩

theorem OpSound.rest {activePeers : List String} {since : Nat} {rest rest' : List GasWallet}
    (h : OpSound s (.report activePeers since rest)) (hsub : ∀ v ∈ rest', v ∈ rest) :
    OpSound s (.report activePeers since rest') :=
  ⟨h.1, fun v hv => h.2 v (hsub v hv)⟩

theorem GasShared.update_id (s : GasShared) (address : String) : s.update address id = s := by
  have hrows : Rows.update GasWallet.address address id s.custody.gasWallets
      = s.custody.gasWallets := by
    unfold Rows.update
    simp
  unfold GasShared.update Custody.updateWallet
  rw [hrows]

/-- A report's statement about a wallet that is as its snapshot has it. -/
theorem sound_report {w : World GasShared GasOp} {r : ReportReplies} {activePeers : List String}
    {since : Nat} {rest : List GasWallet} {v : GasWallet} (hI : Sound w.shared)
    (hop : OpSound w.shared (.report activePeers since rest)) (hv : v ∈ rest)
    (hseen : r.action activePeers v ≠ .none → StillSeen w activePeers since v) :
    let s' := if r.action activePeers v = .markInactive
      then (w.shared.update v.address (r.act activePeers v)).record (.inactivated v.address)
      else w.shared.update v.address (r.act activePeers v)
    Sound s' ∧ ∀ q o, w.ops q = some o → OpSound w.shared o → OpSound s' o := by
  intro s'
  rcases act_cases r activePeers v with ⟨hnone, hid, -⟩ | ⟨peer, hp, hcase⟩
  · have hs : s' = w.shared := by
      change ite _ _ _ = _
      rw [if_neg (by rw [hnone]; decide), hid, GasShared.update_id]
    rw [hs]
    exact ⟨hI, fun _ _ _ h => h⟩
  · rcases hcase with ⟨-, hst, haction, hact⟩ | ⟨hout, hst, haction, hact⟩ |
      ⟨hout, hst, haction, hact⟩
    all_goals
      obtain ⟨⟨row, hrow, ha, hrst, hrp⟩, hquiet⟩ := hseen (by rw [haction]; decide)
      rw [hst] at hrst
      rw [hp] at hrp
    · -- the peer is back
      have hs : s' = w.shared.update row.address (setActive peer (r.stamp v.address)) := by
        change ite _ _ _ = _
        rw [if_neg (by rw [haction]; decide), hact, ha]
      have hfound : row.LiveFor peer ∨
          row.status = .inactive ∧ ∀ u ∈ w.shared.custody.gasWallets, ¬ u.LiveFor peer :=
        .inl ⟨by rw [hrst]; decide, hrp⟩
      rw [hs]
      refine ⟨sound_setActive hI hrow hfound, fun q o _ ho => ?_⟩
      exact ho.update (fun _ => rfl) fun _ => setActive_keeps hI hrow hfound
    · -- one absence: the report's own
      obtain ⟨hno, hfree⟩ := hquiet peer hp hout
      obtain ⟨hone, -⟩ := hop.2 v hv peer hp hout hno
      have hs : s' = w.shared.update row.address setPending := by
        change ite _ _ _ = _
        rw [if_neg (by rw [haction]; decide), hact, ha]
      rw [hs]
      refine ⟨sound_setPending hI hrow hrst hrp hone, fun q o hq ho => ?_⟩
      exact ho.update (fun _ => rfl) fun hset => absurd (ha ▸ hset) (hfree q o hq)
    · -- two absences: the report's own, and the one before its snapshot
      obtain ⟨hno, hfree⟩ := hquiet peer hp hout
      obtain ⟨-, htwo⟩ := hop.2 v hv peer hp hout hno
      have hs : s' = (w.shared.update row.address setInactive).record
          (.inactivated row.address) := by
        change ite _ _ _ = _
        rw [if_pos haction, hact, ha]
      rw [hs]
      refine ⟨sound_setInactive hI hrow hrst hrp (htwo hst), fun q o hq ho => ?_⟩
      refine OpSound.record ?_ _
      exact ho.update (fun _ => rfl) fun hset => absurd (ha ▸ hset) (hfree q o hq)

/-- **One statement keeps the table and the log in order**, and the calls under way in line with
them. -/
theorem sound_next (w : World GasShared GasOp) (p : Pid) (o : GasOp) (input : GasInput)
    (h : Inv Sound OpSound w) (ho : w.ops p = some o) (hC : Undisturbed w (.advance p input)) :
    Sound (nextGas w.shared o input).1 ∧
      (∀ o', (nextGas w.shared o input).2 = some o' → OpSound (nextGas w.shared o input).1 o') ∧
      ∀ q o', q ≠ p → w.ops q = some o' → OpSound (nextGas w.shared o input).1 o' := by
  obtain ⟨hI, hJ⟩ := h
  have hop := hJ p o ho
  have same : ∀ q o', q ≠ p → w.ops q = some o' → OpSound w.shared o' :=
    fun q o' _ hq => hJ q o' hq
  have hshrink : ∀ {rest : List GasWallet}, ∀ v ∈ rest.eraseIdx (input.pick % rest.length),
      v ∈ rest := fun v hv => List.mem_of_mem_eraseIdx hv
  cases hreply : input.reply with
  | error msg =>
      obtain ⟨hs, hnext⟩ := nextGas_error hreply w.shared o
      rw [hs]
      refine ⟨hI, fun o' ho' => ?_, same⟩
      obtain ⟨activePeers, since, rest, rfl, rfl⟩ := hnext o' ho'
      exact hop.rest hshrink
  | ok u =>
      rw [nextGas_ok hreply]
      cases o with
      | findLive peer =>
          unfold answeredGas
          dsimp only
          split
          · rename_i existing hfind
            obtain ⟨hmem, hl⟩ := Custody.findLive_some hfind
            split
            · exact ⟨hI, fun o' ho' => Option.some.inj ho' ▸ trivial, same⟩
            · rename_i hact
              refine ⟨hI, fun o' ho' => Option.some.inj ho' ▸ ?_, same⟩
              exact ⟨existing, hmem, rfl, not_not.mp hact, hl.2⟩
          · exact ⟨hI, fun o' ho' => Option.some.inj ho' ▸ trivial, same⟩
      | findInactive peer =>
          unfold answeredGas
          dsimp only
          split
          · exact ⟨hI, fun o' ho' => Option.some.inj ho' ▸ trivial, same⟩
          · exact ⟨hI, by simp, same⟩
      | mark peer wallet =>
          obtain ⟨row, hrow, ha, hfound⟩ := hC _ ho
          unfold answeredGas
          dsimp only
          rw [← ha]
          refine ⟨sound_setActive hI hrow hfound, fun o' ho' => Option.some.inj ho' ▸ ?_,
            fun q o' _ hq => ?_⟩
          · exact ⟨_, Custody.mem_updateWallet_self hrow, ha, rfl, rfl⟩
          · exact (hJ q o' hq).update (fun _ => rfl) fun _ => setActive_keeps hI hrow hfound
      | fetchKey peer wallet =>
          unfold answeredGas
          dsimp only
          split
          · exact ⟨hI, fun o' ho' => Option.some.inj ho' ▸ hop, same⟩
          · exact ⟨hI, by simp, same⟩
      | refill peer wallet =>
          obtain ⟨row, hrow, ha, hact, hp⟩ := hop
          unfold answeredGas
          dsimp only
          rw [← ha]
          refine ⟨sound_returned hI hrow hact hp, by simp, ?_⟩
          exact fun q o' _ hq => (hJ q o' hq).record _
      | load activePeers =>
          refine ⟨sound_started hI activePeers, fun o' ho' => Option.some.inj ho' ▸ ?_, ?_⟩
          · exact opSound_started hI activePeers
          · exact fun q o' _ hq => (hJ q o' hq).record _
      | report activePeers since rest =>
          unfold answeredGas
          dsimp only
          split
          · exact ⟨hI, by simp, same⟩
          · rename_i v hv
            obtain ⟨hsound, hcalls⟩ := sound_report hI hop (mem_of_anyOf hv) (hC _ ho v hv)
            refine ⟨hsound, fun o' ho' => Option.some.inj ho' ▸ ?_, fun q o' _ hq => ?_⟩
            · exact (hcalls p _ ho hop).rest hshrink
            · exact hcalls q o' hq (hJ q o' hq)

/-! ## Keys go to one peer at a time -/

/-- Wallets nobody has used yet, and no call under way. -/
def idleGas (addresses : List String) (secrets : String → Option String) : World GasShared GasOp :=
  ⟨⟨⟨addresses.map GasWallet.new, secrets⟩, []⟩, fun _ => none⟩

theorem inv_idleGas {addresses : List String} (hnd : addresses.Nodup)
    (secrets : String → Option String) : Inv Sound OpSound (idleGas addresses secrets) := by
  have hnew : ∀ w ∈ addresses.map GasWallet.new, w.status = .inactive ∧ w.peerId = none := by
    intro w hw
    obtain ⟨a, -, rfl⟩ := List.mem_map.mp hw
    exact ⟨rfl, rfl⟩
  refine ⟨⟨⟨?_, fun w hw => ?_, fun w hw v _ peer hl _ => ?_⟩, fun w hw hst => ?_,
    fun a p hold => hold.elim, trivial⟩, fun p o ho => by cases ho⟩
  · change ((addresses.map GasWallet.new).map GasWallet.address).Nodup
    rwa [List.map_map, show GasWallet.address ∘ GasWallet.new = id from rfl, List.map_id]
  · exact ⟨fun _ => (hnew w hw).2, fun _ => (hnew w hw).1⟩
  · exact absurd (hnew w hw).1 hl.1
  · rw [(hnew w hw).1] at hst
    cases hst

/-- A key that went out and was not given up since is still held. -/
theorem holding_of_split {m t : List GasEvent} {row : Option GasWallet}
    (h : ¬ ∃ m₂ m₁, m = m₂ ++ .inactivated address :: m₁ ∧
      2 ≤ absences peer (m₁ ++ .returned address peer row :: t)) :
    Holding address peer (m ++ .returned address peer row :: t) := by
  induction m with
  | nil => exact .inl ⟨rfl, rfl⟩
  | cons e m ih =>
      have hrest : Holding address peer (m ++ .returned address peer row :: t) := by
        refine ih ?_
        rintro ⟨m₂, m₁, rfl, habs⟩
        exact h ⟨e :: m₂, m₁, rfl, habs⟩
      cases e with
      | returned a p v => exact .inr hrest
      | started activePeers => exact hrest
      | inactivated a =>
          refine ⟨fun ha => ?_, hrest⟩
          subst ha
          by_contra habs
          exact h ⟨[], m, rfl, Nat.not_lt.mp habs⟩

theorem Legit.of_append {l log : List GasEvent} (h : Legit (l ++ log)) : Legit log := by
  induction l with
  | nil => exact h
  | cons e l ih =>
      cases e with
      | returned a p v => exact ih h.2.2
      | started activePeers | inactivated a => exact ih h

/--
**Keys go to one peer at a time.** In every interleaving of registrations and report cycles in
which each statement finds what the call had read, a wallet's key goes out to a second peer only
after the wallet was marked inactive, and that after the first peer had been absent from two
cycles that started after its last registration; and whenever a key goes out, the wallet's row is
active for the peer that gets it.
-/
theorem one_peer_per_key {addresses : List String} {secrets : String → Option String}
    {es : List (Tick GasRequest GasInput)} {w : World GasShared GasOp} (hnd : addresses.Nodup)
    (hm : Runs.Meets (step gasSystem) Undisturbed (idleGas addresses secrets) es)
    (hr : Runs.run (step gasSystem) (idleGas addresses secrets) es = some w) :
    (∀ l address q row' m p row t, w.shared.log =
        l ++ .returned address q row' :: (m ++ .returned address p row :: t) → p ≠ q →
        ∃ m₂ m₁, m = m₂ ++ .inactivated address :: m₁ ∧
          2 ≤ absences p (m₁ ++ .returned address p row :: t)) ∧
      ∀ address peer row, .returned address peer row ∈ w.shared.log →
        ∃ v, row = some v ∧ v.status = .active ∧ v.peerId = some peer := by
  have hlegit : Legit w.shared.log :=
    (inv_run (fun s call _ => by cases call <;> trivial) sound_next es
      (inv_idleGas hnd secrets) hm hr).1.legit
  refine ⟨fun l address q row' m p row t hlog hne => ?_, fun address peer row hmem => ?_⟩
  · rw [hlog] at hlegit
    by_contra hnone
    exact hne (hlegit.of_append.2.1 p (holding_of_split hnone))
  · obtain ⟨l, t, hlog⟩ := List.append_of_mem hmem
    rw [hlog] at hlegit
    exact hlegit.of_append.1

/-! ## Two registrations that read the same wallet -/

def keyed : String → Option String := fun _ => some "key"

/-- Everything is answered, long after anything was activated. -/
def prompt : GasInput := ⟨.ok (), 0, gasWalletReclaimGrace⟩

/-- The wallet's row while a peer has it. -/
def ownedBy (peer : String) : GasWallet := ⟨"a1", some peer, .active, some gasWalletReclaimGrace⟩

/-- Both peers find the one inactive wallet before either has marked it. -/
def racingRun : List (Tick GasRequest GasInput) :=
  [.launch 0 (.register "p"), .launch 1 (.register "q"),
    .advance 0 prompt, .advance 0 prompt, .advance 1 prompt, .advance 1 prompt,
    .advance 0 prompt, .advance 1 prompt,
    .advance 0 prompt, .advance 0 prompt, .advance 1 prompt, .advance 1 prompt]

/-- The key goes out to both, the first time although the row is the other peer's by then, and
there has not been a single report. -/
theorem racing_registrations_share_key :
    ∃ w, Runs.run (step gasSystem) (idleGas ["a1"] keyed) racingRun = some w ∧
      w.shared.log = [.returned "a1" "q" (some (ownedBy "q")),
        .returned "a1" "p" (some (ownedBy "q"))] :=
  Option.map_eq_some_iff.mp (by decide +kernel)

/-! ## Calls that overlap and do not disturb each other -/

/-- What the next statement of a call needs, if only the first `n` calls are under way. -/
def GasOp.Finds (n : Nat) (w : World GasShared GasOp) (input : GasInput) : GasOp → Prop
  | .mark peer wallet => StillFound w.shared.custody peer wallet
  | .report activePeers since rest => ∀ wallet ∈ anyOf rest input.pick,
      (∃ row ∈ w.shared.custody.gasWallets, row.address = wallet.address ∧
          row.status = wallet.status ∧ row.peerId = wallet.peerId) ∧
        ∀ peer ∈ wallet.peerId, peer ∉ activePeers →
          NoReturn peer (w.shared.log.take (w.shared.log.length - since)) ∧
            ∀ q < n, ∀ o, w.ops q = some o → ¬ o.Settles wallet.address
  | _ => True

def FindsBelow (n : Nat) (w : World GasShared GasOp) : Tick GasRequest GasInput → Prop
  | .launch .. | .drop _ => True
  | .advance p input => ∀ op, w.ops p = some op → op.Finds n w input

instance (s : Custody) (peer : String) (wallet : GasWallet) :
    Decidable (StillFound s peer wallet) :=
  inferInstanceAs (Decidable (∃ row ∈ _, _))

instance (address : String) : DecidablePred (GasOp.Settles address)
  | .fetchKey _ wallet | .refill _ wallet => inferInstanceAs (Decidable (wallet.address = address))
  | .findLive _ | .findInactive _ | .mark .. | .load _ | .report .. => .isFalse id

instance (n : Nat) (w : World GasShared GasOp) (input : GasInput) :
    DecidablePred (GasOp.Finds n w input)
  | .mark peer wallet => inferInstanceAs (Decidable (StillFound w.shared.custody peer wallet))
  | .report activePeers _ rest => inferInstanceAs (Decidable
      (∀ wallet ∈ anyOf rest input.pick, (∃ row ∈ w.shared.custody.gasWallets, _ ∧ _ ∧ _) ∧
        ∀ peer ∈ wallet.peerId, peer ∉ activePeers → NoReturn peer _ ∧
          ∀ q < n, ∀ o, w.ops q = some o → ¬ o.Settles wallet.address))
  | .findLive _ | .findInactive _ | .fetchKey .. | .refill .. | .load _ => .isTrue trivial

instance (n : Nat) (w : World GasShared GasOp) : ∀ e, Decidable (FindsBelow n w e)
  | .launch .. | .drop _ => .isTrue trivial
  | .advance p input => decidableOp w p (GasOp.Finds n w input)

theorem undisturbed_of_finds {n : Nat} {w : World GasShared GasOp} {e : Tick GasRequest GasInput}
    (hw : w.Below n) (h : FindsBelow n w e) : Undisturbed w e := by
  cases e with
  | launch p call | drop p => trivial
  | advance p input =>
      intro op hop
      have h := h op hop
      cases op with
      | mark peer wallet => exact h
      | report activePeers since rest =>
          intro wallet hwallet _
          obtain ⟨hrow, hno⟩ := h wallet hwallet
          refine ⟨hrow, fun peer hp hout => ⟨(hno peer hp hout).1, ?_⟩⟩
          exact hw.all (hno peer hp hout).2
      | _ => trivial

/-- Two calls take so many turns. -/
def turns (n : Nat) (input₀ input₁ : GasInput) : List (Tick GasRequest GasInput) :=
  (List.replicate n [.advance 0 input₀, .advance 1 input₁]).flatten

def later : GasInput := ⟨.ok (), 0, 1000000000⟩

/-- Two peers register and get a wallet each. A report that omits the first overlaps with another
registration of the second, and the next such report with that of a third peer, which finds the
first one's wallet as soon as it is inactive. -/
def overlappingGasRun : List (Tick GasRequest GasInput) :=
  [.launch 0 (.register "p"), .launch 1 (.register "q")] ++
    turns 5 prompt { prompt with pick := 1 } ++
    [.launch 0 (.report ["q"]), .launch 1 (.register "q")] ++ turns 3 later later ++
    [.advance 0 later, .launch 0 (.report ["q"]), .launch 1 (.register "r")] ++
    turns 4 later later ++ [.advance 1 later]

/-- The second peer gets its key, twice. -/
def secondServed : GasEvent :=
  .returned "a2" "q" (some ⟨"a2", some "q", .active, some gasWalletReclaimGrace⟩)

theorem one_peer_per_key_overlapping :
    ∃ w row' m, Runs.run (step gasSystem) (idleGas ["a1", "a2"] keyed) overlappingGasRun = some w ∧
      w.shared.log = .returned "a1" "r" row' ::
        (m ++ [.returned "a1" "p" (some (ownedBy "p"))]) ∧
      ∃ m₂ m₁, m = m₂ ++ .inactivated "a1" :: m₁ ∧
        2 ≤ absences "p" (m₁ ++ [.returned "a1" "p" (some (ownedBy "p"))]) := by
  obtain ⟨w, hr, hlog⟩ := Option.map_eq_some_iff.mp
    (show (Runs.run (step gasSystem) (idleGas ["a1", "a2"] keyed) overlappingGasRun).map
      (·.shared.log) = some (.returned "a1" "r" (some ⟨"a1", some "r", .active, some later.now⟩) ::
        ([.inactivated "a1", .started ["q"], secondServed, .started ["q"], secondServed] ++
          [.returned "a1" "p" (some (ownedBy "p"))])) by decide +kernel)
  have hm : Runs.Meets (step gasSystem) (fun w e => e.pid < 2 ∧ FindsBelow 2 w e)
      (idleGas ["a1", "a2"] keyed) overlappingGasRun := by decide +kernel
  refine ⟨w, _, _, hr, hlog, ?_⟩
  exact (one_peer_per_key (by decide) (meets_of_below 2 (fun _ _ hw _ => undisturbed_of_finds hw)
    (fun _ _ => rfl) hm) hr).1 [] "a1" "r" _ _ "p" _ [] hlog (by decide)

end RelayerExtensions.Funds
