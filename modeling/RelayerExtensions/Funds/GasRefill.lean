import Mathlib.Algebra.Order.BigOperators.Group.List
import Mathlib.Algebra.Order.Field.Basic
import Mathlib.Algebra.Order.Ring.Rat
import Mathlib.Tactic.Linarith
import RelayerExtensions.Funds.GasWallets
import RelayerExtensions.Lib.Ledger

/-!
# Refilling the gas wallets

`refill_gas_for_wallets` and `top_up_gas_with_tolerance`
(`funds-manager-server/src/custody_client/gas_wallets.rs`). The hot wallet of the gas vault pays
for everything. A first pass over the wallets adds up what they lack; if the hot wallet has less
than that, the target is an equal share of what it has. A second pass reads each balance again
and tops the wallet up to the target, unless it is within tolerance.

Amounts are rationals, and fees are not counted. A transfer is not refused for want of funds:
that the transfers come to no more than the hot wallet had is for the code to see to, and it
does (`refillGasForWallets_paid`). Every look-up, balance and transfer can fail, and what was
transferred before stays transferred.
-/

namespace RelayerExtensions.Funds

open Effect

/-- What the addresses hold, and the transfers made, in order. -/
structure Chain where
  balance : String → ℚ
  transfers : List (String × ℚ)

inductive RefillError where
  | db (msg : String)
  | onChain (msg : String)
  | secretsManager (msg : String)
deriving DecidableEq

abbrev RefillM (α : Type) := Effect RefillError Chain α

/-- What the custody client is set up with: the gas vault's hot wallet, `gas_top_up_amount` and
`gas_refill_tolerance`. -/
structure GasConfig where
  hotWallet : String
  topUpAmount : ℚ
  tolerance : ℚ

/-- The replies to the calls of a refill, by wallet where there is one for each. -/
structure RefillReplies where
  hotWallet : Reply
  hotBalance : Reply
  /-- The balance as the first pass asks for it. -/
  balance : String → Reply
  /-- The balance as the second pass does. -/
  reread : String → Reply
  vault : String → Reply
  key : String → Reply
  transfer : String → Reply

/-- A call of a remote system that may fail. -/
def ask (wrap : String → RefillError) (reply : Reply) : RefillM Unit :=
  Effect.ofExcept (reply.mapError wrap)

def getEtherBalance (reply : Reply) (address : String) : RefillM ℚ := do
  ask .onChain reply
  look (·.balance address)

/-- The chain after payments by the hot wallet. -/
def Chain.pay (c : Chain) (hot : String) (ps : List (String × ℚ)) : Chain :=
  ⟨Ledger.payAll hot c.balance ps, c.transfers ++ ps⟩

def transferEther (reply : Reply) (hot dest : String) (amount : ℚ) : RefillM Unit := do
  ask .onChain reply
  modify (·.pay hot [(dest, amount)])

section Refill

variable (cfg : GasConfig) (r : RefillReplies)

def topUpGasWithTolerance (addr : String) (amount tolerance : ℚ) : RefillM Unit := do
  let bal ← getEtherBalance (r.reread addr) addr
  if bal > amount * tolerance then pure ()
  else do
    ask .db (r.vault addr)
    ask .secretsManager (r.key addr)
    transferEther (r.transfer addr) cfg.hotWallet addr (amount - bal)

def topUpGas (addr : String) (amount : ℚ) : RefillM Unit :=
  topUpGasWithTolerance cfg r addr amount cfg.tolerance

/-- The first pass. -/
def totalAmount (fillTo : ℚ) : List GasWallet → ℚ → RefillM ℚ
  | [], total => pure total
  | wallet :: rest, total => do
      let bal ← getEtherBalance (r.balance wallet.address) wallet.address
      totalAmount fillTo rest (total + max (fillTo - bal) 0)

/-- The second pass. -/
def topUpWallets (target : ℚ) : List GasWallet → RefillM Unit
  | [] => pure ()
  | wallet :: rest => do
      topUpGas cfg r wallet.address target
      topUpWallets target rest

/-- What each wallet is topped up to. -/
def refillTarget (myBalance total fillTo : ℚ) (wallets : Nat) : ℚ :=
  if myBalance < total then myBalance / wallets else fillTo

def refillGasForWallets (wallets : List GasWallet) (fillTo : ℚ) : RefillM Unit := do
  ask .db r.hotWallet
  let myBalance ← getEtherBalance r.hotBalance cfg.hotWallet
  let total ← totalAmount r fillTo wallets 0
  topUpWallets cfg r (refillTarget myBalance total fillTo wallets.length) wallets

end Refill

/-! ## What the passes compute -/

/-- What the wallets lack, in sum. -/
def shortfall (fillTo : ℚ) (balance : String → ℚ) (ws : List GasWallet) : ℚ :=
  (ws.map fun w => max (fillTo - balance w.address) 0).sum

/-- The transfer that tops one wallet up, if it is not within tolerance. -/
def owed (target tolerance : ℚ) (balance : String → ℚ) (addr : String) : List (String × ℚ) :=
  if balance addr > target * tolerance then [] else [(addr, target - balance addr)]

def payments (target tolerance : ℚ) (balance : String → ℚ) (ws : List GasWallet) :
    List (String × ℚ) :=
  ws.flatMap fun w => owed target tolerance balance w.address

section Calls

variable {cfg : GasConfig} {r : RefillReplies} {c c' : Chain} {addr : String} {target : ℚ}
  {res : Except RefillError Unit} {ws : List GasWallet}

/-- The calls that topping one wallet up makes are answered. -/
def TopUpAnswered (cfg : GasConfig) (r : RefillReplies) (target : ℚ) (c : Chain) (addr : String) :
    Prop :=
  r.reread addr = .ok () ∧ (c.balance addr ≤ target * cfg.tolerance →
    r.vault addr = .ok () ∧ r.key addr = .ok () ∧ r.transfer addr = .ok ())

/-- The calls of the second pass are answered, with the chain as the pass finds it. -/
def TopUpsAnswered (cfg : GasConfig) (r : RefillReplies) (target : ℚ) :
    List GasWallet → Chain → Prop
  | [], _ => True
  | w :: ws, c => TopUpAnswered cfg r target c w.address ∧
      TopUpsAnswered cfg r target ws
        (c.pay cfg.hotWallet (owed target cfg.tolerance c.balance w.address))

/-- All calls of a refill are answered. -/
def RefillAnswered (cfg : GasConfig) (r : RefillReplies) (ws : List GasWallet) (fillTo : ℚ)
    (c : Chain) : Prop :=
  (r.hotWallet = .ok () ∧ r.hotBalance = .ok () ∧ ∀ w ∈ ws, r.balance w.address = .ok ()) ∧
    TopUpsAnswered cfg r (refillTarget (c.balance cfg.hotWallet) (shortfall fillTo c.balance ws)
      fillTo ws.length) ws c

theorem ask_cases {α : Type} {wrap : String → RefillError} {reply : Reply} {m : RefillM α}
    {res : Except RefillError α} (h : exec (do ask wrap reply; m) c = (res, c')) :
    (reply ≠ .ok () ∧ (∃ e, res = .error e) ∧ c' = c) ∨ reply = .ok () ∧ exec m c = (res, c') := by
  cases reply with
  | ok u => exact .inr ⟨rfl, h⟩
  | error msg =>
      injection h with hres hc
      exact .inl ⟨fun h => (by cases h), ⟨_, hres.symm⟩, hc.symm⟩

theorem balance_cases {α : Type} {reply : Reply} {k : ℚ → RefillM α} {res : Except RefillError α}
    (h : exec (getEtherBalance reply addr >>= k) c = (res, c')) :
    (reply ≠ .ok () ∧ (∃ e, res = .error e) ∧ c' = c) ∨
      reply = .ok () ∧ exec (k (c.balance addr)) c = (res, c') := by
  cases reply with
  | ok u => exact .inr ⟨rfl, h⟩
  | error msg =>
      injection h with hres hc
      exact .inl ⟨fun h => (by cases h), ⟨_, hres.symm⟩, hc.symm⟩

/-- **One wallet's turn**: it is topped up as far as it is owed, or nothing happens. -/
theorem topUpGas_cases (h : exec (topUpGas cfg r addr target) c = (res, c')) :
    (TopUpAnswered cfg r target c addr ∧ res = .ok () ∧
        c' = c.pay cfg.hotWallet (owed target cfg.tolerance c.balance addr)) ∨
      ¬ TopUpAnswered cfg r target c addr ∧ (∃ e, res = .error e) ∧ c' = c := by
  rcases balance_cases h with ⟨hne, he, rfl⟩ | ⟨hread, h⟩
  · exact .inr ⟨fun ha => hne ha.1, he, rfl⟩
  by_cases hover : c.balance addr > target * cfg.tolerance
  · -- within tolerance: no transfer
    rw [if_pos hover] at h
    injection h with hres hc
    refine .inl ⟨⟨hread, fun hle => absurd hover (not_lt.mpr hle)⟩, hres.symm, ?_⟩
    rw [owed, if_pos hover, ← hc]
    unfold Chain.pay
    rw [Ledger.payAll_nil, List.append_nil]
  rw [if_neg hover] at h
  have hle := not_lt.mp hover
  rcases ask_cases h with ⟨hne, he, rfl⟩ | ⟨hvault, h⟩
  · exact .inr ⟨fun ha => hne (ha.2 hle).1, he, rfl⟩
  rcases ask_cases h with ⟨hne, he, rfl⟩ | ⟨hkey, h⟩
  · exact .inr ⟨fun ha => hne (ha.2 hle).2.1, he, rfl⟩
  rcases ask_cases h with ⟨hne, he, rfl⟩ | ⟨htransfer, h⟩
  · exact .inr ⟨fun ha => hne (ha.2 hle).2.2, he, rfl⟩
  · injection h with hres hc
    refine .inl ⟨⟨hread, fun _ => ⟨hvault, hkey, htransfer⟩⟩, hres.symm, ?_⟩
    rw [owed, if_neg hover, ← hc]

theorem topUpWallets_ok_iff (h : exec (topUpWallets cfg r target ws) c = (res, c')) :
    res = .ok () ↔ TopUpsAnswered cfg r target ws c := by
  induction ws generalizing c with
  | nil =>
      injection h with hres hc
      exact ⟨fun _ => trivial, fun _ => hres.symm⟩
  | cons w ws ih =>
      rcases exec_bind_cases h with ⟨e, hw, rfl⟩ | ⟨u, c₁, hw, hrest⟩
      · rcases topUpGas_cases hw with ⟨-, hok, -⟩ | ⟨hno, -, -⟩
        · cases hok
        · exact ⟨fun hok => (by cases hok), fun ha => absurd ha.1 hno⟩
      · rcases topUpGas_cases hw with ⟨hyes, -, rfl⟩ | ⟨-, ⟨e, he⟩, -⟩
        · rw [ih hrest]
          exact ⟨fun ha => ⟨hyes, ha⟩, fun ha => ha.2⟩
        · cases he

theorem totalAmount_cases {fillTo total : ℚ} {res : Except RefillError ℚ}
    (h : exec (totalAmount r fillTo ws total) c = (res, c')) :
    c' = c ∧ ((∀ w ∈ ws, r.balance w.address = .ok ()) ∧
          res = .ok (total + shortfall fillTo c.balance ws) ∨
        (¬ ∀ w ∈ ws, r.balance w.address = .ok ()) ∧ ∃ e, res = .error e) := by
  induction ws generalizing total with
  | nil =>
      injection h with hres hc
      refine ⟨hc.symm, .inl ⟨fun w hw => (by cases hw), ?_⟩⟩
      rw [← hres, shortfall, List.map_nil, List.sum_nil, add_zero]
  | cons w ws ih =>
      rw [List.forall_mem_cons]
      rcases balance_cases h with ⟨hne, he, rfl⟩ | ⟨hread, h⟩
      · exact ⟨rfl, .inr ⟨fun ha => hne ha.1, he⟩⟩
      obtain ⟨hc, ⟨hall, hres⟩ | ⟨hno, he⟩⟩ := ih h
      · refine ⟨hc, .inl ⟨⟨hread, hall⟩, ?_⟩⟩
        rw [hres, shortfall, shortfall, List.map_cons, List.sum_cons, add_assoc]
      · exact ⟨hc, .inr ⟨fun ha => hno ha.2, he⟩⟩

/-- **A refill** stops while it reads, or makes its second pass. -/
theorem refillGasForWallets_cases {fillTo : ℚ}
    (h : exec (refillGasForWallets cfg r ws fillTo) c = (res, c')) :
    (¬ (r.hotWallet = .ok () ∧ r.hotBalance = .ok () ∧ ∀ w ∈ ws, r.balance w.address = .ok ()) ∧
        (∃ e, res = .error e) ∧ c' = c) ∨
      (r.hotWallet = .ok () ∧ r.hotBalance = .ok () ∧ ∀ w ∈ ws, r.balance w.address = .ok ()) ∧
        exec (topUpWallets cfg r (refillTarget (c.balance cfg.hotWallet)
          (shortfall fillTo c.balance ws) fillTo ws.length) ws) c = (res, c') := by
  rcases ask_cases h with ⟨hne, he, rfl⟩ | ⟨hhot, h⟩
  · exact .inl ⟨fun ha => hne ha.1, he, rfl⟩
  rcases balance_cases h with ⟨hne, he, rfl⟩ | ⟨hmine, h⟩
  · exact .inl ⟨fun ha => hne ha.2.1, he, rfl⟩
  rcases exec_bind_cases h with ⟨e, ht, rfl⟩ | ⟨total, c₁, ht, h⟩
  · obtain ⟨rfl, ⟨-, hok⟩ | ⟨hno, -⟩⟩ := totalAmount_cases ht
    · cases hok
    · exact .inl ⟨fun ha => hno ha.2.2, ⟨e, rfl⟩, rfl⟩
  · obtain ⟨rfl, ⟨hall, hok⟩ | ⟨-, e, he⟩⟩ := totalAmount_cases ht
    · obtain rfl : total = shortfall fillTo c₁.balance ws := by
        rw [Except.ok.inj hok, zero_add]
      exact .inr ⟨⟨hhot, hmine, hall⟩, h⟩
    · cases he

theorem refillGasForWallets_ok_iff {fillTo : ℚ}
    (h : exec (refillGasForWallets cfg r ws fillTo) c = (res, c')) :
    res = .ok () ↔ RefillAnswered cfg r ws fillTo c := by
  rcases refillGasForWallets_cases h with ⟨hno, ⟨e, rfl⟩, -⟩ | ⟨hread, h⟩
  · exact ⟨fun hok => (by cases hok), fun ha => absurd ha.1 hno⟩
  · rw [topUpWallets_ok_iff h]
    exact ⟨fun ha => ⟨hread, ha⟩, fun ha => ha.2⟩

theorem topUpsAnswered_congr {ws ws' : List GasWallet}
    (h : ws'.map GasWallet.address = ws.map GasWallet.address) :
    TopUpsAnswered cfg r target ws' c ↔ TopUpsAnswered cfg r target ws c := by
  induction ws generalizing ws' c with
  | nil => rw [List.map_eq_nil_iff.mp h]
  | cons w ws ih =>
      obtain ⟨w', rest, rfl, hw, hrest⟩ := List.map_eq_cons_iff.mp h
      unfold TopUpsAnswered
      rw [hw, ih hrest]

/-- Of the wallets, a refill looks at the addresses only. -/
theorem refillAnswered_congr {ws ws' : List GasWallet} {fillTo : ℚ}
    (h : ws'.map GasWallet.address = ws.map GasWallet.address) :
    RefillAnswered cfg r ws' fillTo c ↔ RefillAnswered cfg r ws fillTo c := by
  have hreads : (∀ w ∈ ws', r.balance w.address = .ok ()) ↔
      ∀ w ∈ ws, r.balance w.address = .ok () := by
    rw [← List.forall_mem_map (P := fun a => r.balance a = .ok ()), h, List.forall_mem_map]
  have hsum : shortfall fillTo c.balance ws' = shortfall fillTo c.balance ws := by
    have hneeds := congrArg (List.map fun a => max (fillTo - c.balance a) 0) h
    rw [List.map_map, List.map_map] at hneeds
    exact congrArg List.sum hneeds
  have hlength : ws'.length = ws.length := by
    rw [← List.length_map GasWallet.address, h, List.length_map]
  unfold RefillAnswered
  rw [hreads, hsum, hlength, topUpsAnswered_congr h]

end Calls

/-! ## What is paid -/

section Payments

variable {target tolerance fillTo : ℚ} {balance : String → ℚ} {ws done : List GasWallet}

theorem mem_payments {p : String × ℚ} :
    p ∈ payments target tolerance balance ws ↔
      ∃ w ∈ ws, balance w.address ≤ target * tolerance ∧
        p = (w.address, target - balance w.address) := by
  rw [payments, List.mem_flatMap]
  refine exists_congr fun w => and_congr_right fun _ => ?_
  unfold owed
  split
  · rename_i hover
    exact ⟨fun h => (by cases h), fun h => absurd h.1 (not_le.mpr hover)⟩
  · rename_i hle
    rw [List.mem_singleton]
    exact ⟨fun h => ⟨not_lt.mp hle, h⟩, fun h => h.2⟩

/-- Each wallet is paid once at most. -/
theorem payees_sublist :
    ((payments target tolerance balance ws).map Prod.fst).Sublist (ws.map GasWallet.address) := by
  induction ws with
  | nil => exact List.Sublist.refl _
  | cons w ws ih =>
      rw [payments, List.flatMap_cons, List.map_append, List.map_cons]
      unfold owed
      split
      · exact ih.cons _
      · exact ih.cons_cons _

/-- Only the balances of the wallets themselves matter. -/
theorem payments_congr {balance' : String → ℚ}
    (h : ∀ w ∈ ws, balance' w.address = balance w.address) :
    payments target tolerance balance' ws = payments target tolerance balance ws := by
  induction ws with
  | nil => rfl
  | cons w ws ih =>
      obtain ⟨hw, hws⟩ := List.forall_mem_cons.mp h
      have hrest := ih hws
      unfold payments at hrest ⊢
      rw [List.flatMap_cons, List.flatMap_cons, hrest]
      unfold owed
      rw [hw]

/-- No more is paid than is lacking. -/
theorem sum_payments_le_shortfall :
    ((payments target tolerance balance ws).map Prod.snd).sum ≤ shortfall target balance ws := by
  induction ws with
  | nil => exact le_refl _
  | cons w ws ih =>
      have hneeds : ((owed target tolerance balance w.address).map Prod.snd).sum ≤
          max (target - balance w.address) 0 := by
        unfold owed
        split
        · exact le_max_right _ _
        · simp
      have hsum : ((payments target tolerance balance (w :: ws)).map Prod.snd).sum =
          ((owed target tolerance balance w.address).map Prod.snd).sum +
            ((payments target tolerance balance ws).map Prod.snd).sum := by
        rw [payments, List.flatMap_cons, List.map_append, List.sum_append]
        rfl
      rw [hsum, shortfall, List.map_cons, List.sum_cons]
      exact add_le_add hneeds ih

theorem shortfall_mono (h : done.Sublist ws) :
    shortfall target balance done ≤ shortfall target balance ws := by
  refine (h.map _).sum_le_sum fun x hx => ?_
  obtain ⟨w, -, rfl⟩ := List.mem_map.mp hx
  exact le_max_right _ _

/-- Wallets that are not overdrawn lack the whole of the target at most. -/
theorem shortfall_le (hbal : ∀ w ∈ ws, 0 ≤ balance w.address) (htarget : 0 ≤ target) :
    shortfall target balance ws ≤ ws.length * target := by
  have hcard := List.sum_le_card_nsmul (ws.map fun w => max (target - balance w.address) 0) target
    fun x hx => by
      obtain ⟨w, hw, rfl⟩ := List.mem_map.mp hx
      exact max_le (sub_le_self _ (hbal w hw)) htarget
  rwa [List.length_map, nsmul_eq_mul] at hcard

/-! ## The target -/

section Target

variable {hot : ℚ}

theorem refillTarget_nonneg {total : ℚ} {n : Nat} (hhot : 0 ≤ hot) (hfill : 0 ≤ fillTo) :
    0 ≤ refillTarget hot total fillTo n := by
  unfold refillTarget
  split
  · exact div_nonneg hhot (Nat.cast_nonneg n)
  · exact hfill

/-- The hot wallet has less than is lacking, so an equal share of it is less than `fill_to`. -/
theorem refillTarget_le (hbal : ∀ w ∈ ws, 0 ≤ balance w.address) (hfill : 0 ≤ fillTo) :
    refillTarget hot (shortfall fillTo balance ws) fillTo ws.length ≤ fillTo := by
  unfold refillTarget
  split
  · rename_i hless
    refine div_le_of_le_mul₀ (Nat.cast_nonneg _) hfill ?_
    rw [mul_comm]
    exact le_trans hless.le (shortfall_le hbal hfill)
  · exact le_refl _

/-- **The target is one that the hot wallet can pay for.** -/
theorem shortfall_refillTarget_le (hbal : ∀ w ∈ ws, 0 ≤ balance w.address) (hhot : 0 ≤ hot) :
    shortfall (refillTarget hot (shortfall fillTo balance ws) fillTo ws.length) balance ws ≤
      hot := by
  unfold refillTarget
  split
  · calc shortfall (hot / ws.length) balance ws
        ≤ ws.length * (hot / ws.length) :=
          shortfall_le hbal (div_nonneg hhot (Nat.cast_nonneg _))
      _ ≤ hot := by
          rcases Nat.eq_zero_or_pos ws.length with hzero | hpos
          · rw [hzero, Nat.cast_zero, zero_mul]
            exact hhot
          · rw [mul_div_cancel₀ hot (Nat.cast_ne_zero.mpr hpos.ne')]
  · rename_i hcovers
    exact not_lt.mp hcovers

end Target

end Payments

/-! ## A whole refill -/

section Whole

variable {cfg : GasConfig} {r : RefillReplies} {c c' : Chain} {target fillTo : ℚ}
  {ws done : List GasWallet} {w : GasWallet}

theorem Chain.pay_pay (c : Chain) (hot : String) (ps qs : List (String × ℚ)) :
    (c.pay hot ps).pay hot qs = c.pay hot (ps ++ qs) := by
  unfold Chain.pay Ledger.payAll
  rw [List.foldl_append, List.append_assoc]

/-- **The second pass** pays the wallets it gets to what they are owed by the balances before
it, since no wallet comes twice and none is the hot wallet. -/
theorem topUpWallets_cases {res : Except RefillError Unit} (hnd : (ws.map GasWallet.address).Nodup)
    (hhot : cfg.hotWallet ∉ ws.map GasWallet.address)
    (h : exec (topUpWallets cfg r target ws) c = (res, c')) :
    ∃ done, done <+: ws ∧ (res = .ok () → done = ws) ∧
      c' = c.pay cfg.hotWallet (payments target cfg.tolerance c.balance done) := by
  induction ws generalizing c with
  | nil =>
      injection h with hres hc
      refine ⟨[], List.prefix_rfl, fun _ => rfl, ?_⟩
      rw [← hc]
      unfold Chain.pay
      simp [payments]
  | cons w ws ih =>
      rw [List.map_cons] at hnd hhot
      obtain ⟨hw, hnd⟩ := List.nodup_cons.mp hnd
      obtain ⟨hne, hhot⟩ := not_or.mp (fun h => hhot (List.mem_cons.mpr h))
      rcases exec_bind_cases h with ⟨e, ht, rfl⟩ | ⟨u, c₁, ht, hrest⟩
      · rcases topUpGas_cases ht with ⟨-, hok, -⟩ | ⟨-, -, rfl⟩
        · cases hok
        · refine ⟨[], List.nil_prefix, fun hok => (by cases hok), ?_⟩
          unfold Chain.pay
          simp [payments]
      rcases topUpGas_cases ht with ⟨-, -, rfl⟩ | ⟨-, ⟨e, he⟩, -⟩
      · obtain ⟨done, hpre, hall, rfl⟩ := ih hnd hhot hrest
        refine ⟨w :: done, (List.prefix_cons_inj w).mpr hpre, fun hok => by rw [hall hok], ?_⟩
        -- the wallets that come later still have what they had
        have hsame : ∀ v ∈ done, (c.pay cfg.hotWallet (owed target cfg.tolerance c.balance
            w.address)).balance v.address = c.balance v.address := by
          intro v hv
          have hmem : v.address ∈ ws.map GasWallet.address :=
            List.mem_map_of_mem (hpre.subset hv)
          refine Ledger.payAll_other (fun heq => hhot (heq ▸ hmem)) fun hpaid => ?_
          obtain ⟨p, hp, hpv⟩ := List.mem_map.mp hpaid
          unfold owed at hp
          split at hp
          · cases hp
          · obtain rfl := List.mem_singleton.mp hp
            have heq : w.address = v.address := hpv
            exact hw (heq ▸ hmem)
        rw [payments_congr hsame, Chain.pay_pay]
        rfl
      · cases he

/-- What a wallet ends with, if the second pass gets to it. -/
theorem balance_of_mem (hnd : (done.map GasWallet.address).Nodup)
    (hhot : cfg.hotWallet ∉ done.map GasWallet.address) (hw : w ∈ done) :
    (c.pay cfg.hotWallet (payments target cfg.tolerance c.balance done)).balance w.address =
      if c.balance w.address > target * cfg.tolerance then c.balance w.address else target := by
  have hsub := @payees_sublist target cfg.tolerance c.balance done
  have hsource : cfg.hotWallet ∉ (payments target cfg.tolerance c.balance done).map Prod.fst :=
    fun h => hhot (hsub.subset h)
  have hnot : w.address ≠ cfg.hotWallet := fun h => hhot (h ▸ List.mem_map_of_mem hw)
  split
  · rename_i hover
    refine Ledger.payAll_other hnot fun hpaid => ?_
    obtain ⟨p, hp, hpw⟩ := List.mem_map.mp hpaid
    obtain ⟨v, hv, hle, rfl⟩ := mem_payments.mp hp
    rw [show v.address = w.address from hpw] at hle
    exact absurd hover (not_lt.mpr hle)
  · rename_i hle
    have hpaid : (w.address, target - c.balance w.address) ∈
        payments target cfg.tolerance c.balance done :=
      mem_payments.mpr ⟨w, hw, not_lt.mp hle, rfl⟩
    have hend := @Ledger.payAll_payee _ _ _ _ _ c.balance _ _ hsource (hnd.sublist hsub) hpaid
    exact hend.trans (add_sub_cancel _ _)

/-- And if it does not. -/
theorem balance_of_not_mem (hhot : w.address ≠ cfg.hotWallet)
    (hw : w.address ∉ done.map GasWallet.address) :
    (c.pay cfg.hotWallet (payments target cfg.tolerance c.balance done)).balance w.address =
      c.balance w.address :=
  Ledger.payAll_other hhot fun h => hw (payees_sublist.subset h)

/-- No wallet is paid above the target. -/
theorem balance_le (hnd : (ws.map GasWallet.address).Nodup)
    (hhot : cfg.hotWallet ∉ ws.map GasWallet.address) (hsub : done.Sublist ws) (hw : w ∈ ws) :
    (c.pay cfg.hotWallet (payments target cfg.tolerance c.balance done)).balance w.address ≤
      max (c.balance w.address) target := by
  have haddr := hsub.map GasWallet.address
  by_cases hdone : w.address ∈ done.map GasWallet.address
  · obtain ⟨v, hv, hvw⟩ := List.mem_map.mp hdone
    obtain rfl := List.inj_on_of_nodup_map hnd (hsub.subset hv) hw hvw
    rw [balance_of_mem (hnd.sublist haddr) (fun h => hhot (haddr.subset h)) hv]
    split
    · exact le_max_left _ _
    · exact le_max_right _ _
  · have hne : w.address ≠ cfg.hotWallet := fun h => hhot (h ▸ List.mem_map_of_mem hw)
    rw [balance_of_not_mem hne hdone]
    exact le_max_left _ _

/-- Every call is answered. -/
structure RefillReplies.AllAnswered (r : RefillReplies) : Prop where
  hotWallet : r.hotWallet = .ok ()
  hotBalance : r.hotBalance = .ok ()
  balance : ∀ addr, r.balance addr = .ok ()
  reread : ∀ addr, r.reread addr = .ok ()
  vault : ∀ addr, r.vault addr = .ok ()
  key : ∀ addr, r.key addr = .ok ()
  transfer : ∀ addr, r.transfer addr = .ok ()

theorem RefillReplies.AllAnswered.refillAnswered (h : r.AllAnswered) :
    RefillAnswered cfg r ws fillTo c := by
  refine ⟨⟨h.hotWallet, h.hotBalance, fun w _ => h.balance w.address⟩, ?_⟩
  generalize refillTarget _ _ _ _ = target
  induction ws generalizing c with
  | nil => trivial
  | cons w ws ih =>
      exact ⟨⟨h.reread _, fun _ => ⟨h.vault _, h.key _, h.transfer _⟩⟩, ih⟩

section Funded

variable {res : Except RefillError Unit} (hnd : (ws.map GasWallet.address).Nodup)
  (hhot : cfg.hotWallet ∉ ws.map GasWallet.address)
  (hbal : ∀ w ∈ ws, 0 ≤ c.balance w.address) (hmine : 0 ≤ c.balance cfg.hotWallet)
  (hfill : 0 ≤ fillTo) (h : exec (refillGasForWallets cfg r ws fillTo) c = (res, c'))
include hnd hhot hbal hmine hfill h

/-- **What a refill does**, however it ends: it pays the wallets it gets to what they are owed by
a target that is not above `fill_to` and that the hot wallet can afford. -/
theorem refillGasForWallets_paid : ∃ target done, done <+: ws ∧
    c' = c.pay cfg.hotWallet (payments target cfg.tolerance c.balance done) ∧
    0 ≤ target ∧ target ≤ fillTo ∧
    ((payments target cfg.tolerance c.balance done).map Prod.snd).sum ≤
      c.balance cfg.hotWallet ∧
    (res = .ok () → done = ws ∧
      (shortfall fillTo c.balance ws ≤ c.balance cfg.hotWallet → target = fillTo)) := by
  rcases refillGasForWallets_cases h with ⟨-, ⟨e, rfl⟩, rfl⟩ | ⟨-, h⟩
  · refine ⟨0, [], List.nil_prefix, ?_, le_refl _, hfill, hmine, fun hres => (by cases hres)⟩
    unfold Chain.pay
    simp [payments]
  obtain ⟨done, hpre, hall, rfl⟩ := topUpWallets_cases hnd hhot h
  refine ⟨_, done, hpre, rfl, refillTarget_nonneg hmine hfill, refillTarget_le hbal hfill, ?_,
    fun hres => ⟨hall hres, fun hcovers => if_neg (not_lt.mpr hcovers)⟩⟩
  exact sum_payments_le_shortfall.trans
    ((shortfall_mono hpre.sublist).trans (shortfall_refillTarget_le hbal hmine))

end Funded

/--
**A refill stays within its means and within its bounds**, however it ends. The transfers it
makes are not negative, come to no more than the hot wallet had, and raise no wallet above
`fill_to`. If all calls are answered it succeeds; and if it succeeds and the hot wallet had what
the wallets lacked, each of them ends at `fill_to` or above the tolerated part of it.
-/
theorem refill_within_bounds (cfg : GasConfig) (r : RefillReplies) (ws : List GasWallet)
    (fillTo : ℚ) (c c' : Chain) (res : Except RefillError Unit)
    (hnd : (ws.map GasWallet.address).Nodup) (hhot : cfg.hotWallet ∉ ws.map GasWallet.address)
    (hbal : ∀ w ∈ ws, 0 ≤ c.balance w.address) (hmine : 0 ≤ c.balance cfg.hotWallet)
    (hfill : 0 ≤ fillTo) (htol : 0 ≤ cfg.tolerance ∧ cfg.tolerance ≤ 1)
    (h : exec (refillGasForWallets cfg r ws fillTo) c = (res, c')) :
    (∃ made, c'.transfers = c.transfers ++ made ∧ (∀ p ∈ made, 0 ≤ p.2) ∧
        (made.map Prod.snd).sum ≤ c.balance cfg.hotWallet) ∧
      (∀ w ∈ ws, c'.balance w.address ≤ max (c.balance w.address) fillTo) ∧
      (r.AllAnswered → res = .ok ()) ∧
      (res = .ok () → shortfall fillTo c.balance ws ≤ c.balance cfg.hotWallet → ∀ w ∈ ws,
        c'.balance w.address = fillTo ∨ cfg.tolerance * fillTo < c'.balance w.address) := by
  have hok : r.AllAnswered → res = .ok () := fun ha =>
    (refillGasForWallets_ok_iff h).mpr ha.refillAnswered
  obtain ⟨target, done, hpre, rfl, hpos, hle, hsum, hall⟩ :=
    refillGasForWallets_paid hnd hhot hbal hmine hfill h
  refine ⟨⟨payments target cfg.tolerance c.balance done, rfl, fun p hp => ?_, hsum⟩,
    fun w hw => ?_, hok, fun hres hcovers w hw => ?_⟩
  · obtain ⟨w, -, hlow, rfl⟩ := mem_payments.mp hp
    have hpart : target * cfg.tolerance ≤ target := mul_le_of_le_one_right hpos htol.2
    exact sub_nonneg.mpr (le_trans hlow hpart)
  · exact le_trans (balance_le hnd hhot hpre.sublist hw) (max_le_max_left _ hle)
  · obtain ⟨rfl, htarget⟩ := hall hres
    obtain rfl := htarget hcovers
    rw [balance_of_mem hnd hhot hw]
    split
    · rename_i hover
      rw [mul_comm] at hover
      exact .inr hover
    · exact .inl rfl

end Whole

/-! ## Two wallets, one of them within reach of the tolerance -/

def refillConfig : GasConfig := ⟨"hot", 1, 1 / 10⟩

def answeredRefill : RefillReplies :=
  ⟨.ok (), .ok (), fun _ => .ok (), fun _ => .ok (), fun _ => .ok (), fun _ => .ok (),
    fun _ => .ok ()⟩

theorem answeredRefill_all : answeredRefill.AllAnswered :=
  ⟨rfl, rfl, fun _ => rfl, fun _ => rfl, fun _ => rfl, fun _ => rfl, fun _ => rfl⟩

def lowChain : Chain :=
  ⟨fun addr => if addr = "hot" then 3 else if addr = "a2" then 1 / 2 else 0, []⟩

theorem refill_of_two : ∃ c',
    exec (refillGasForWallets refillConfig answeredRefill [.new "a1", .new "a2"] 1) lowChain =
      (.ok (), c') ∧ c'.transfers = [("a1", 1)] ∧
      (∀ w ∈ [GasWallet.new "a1", .new "a2"],
        c'.balance w.address = 1 ∨ 1 / 10 * 1 < c'.balance w.address) := by
  obtain ⟨-, -, hok, hend⟩ := refill_within_bounds refillConfig answeredRefill
    [.new "a1", .new "a2"] 1 lowChain _ _ (by decide) (by decide) (by decide +kernel)
    (by decide +kernel) (by decide +kernel) (by decide +kernel) rfl
  have hres := hok answeredRefill_all
  exact ⟨_, Prod.ext hres rfl, by decide +kernel, hend hres (by decide +kernel)⟩

end RelayerExtensions.Funds
