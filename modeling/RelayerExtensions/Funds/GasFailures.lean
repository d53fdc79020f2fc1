import RelayerExtensions.Funds.GasHistory
import RelayerExtensions.Funds.GasRefill

/-!
# Gas wallets: calls that fail

`create_gas_wallet` and `register_gas_wallet` make several remote calls with no transaction
around them, so a call that fails leaves behind what it did before. Here a history is made of
calls that may fail at any of them, the refill at the end of a registration included
(`Treasury.registerGasWallet`), and `Custody.attempt` and `Treasury.attempt` say how a call ended
and what it left.

Both calls write to the table before the last thing that can fail. A wallet's row is inserted
before its key is stored, and a pool wallet is marked active before its key is read and before
all gas wallets are topped up. `Answered` is the condition under which the calls after such a
write are answered, and a call leaves the table alone in an error exactly under it.
-/

namespace RelayerExtensions.Funds

open Effect

/-! ## Calls on the table -/

/-- The column is `UNIQUE`: an address that is there is not inserted again. -/
def Custody.insertReply (s : Custody) (address : String) (reply : Reply) : Reply :=
  if address ∈ s.gasWallets.map GasWallet.address then
    reply.bind fun _ => .error "duplicate key value violates unique constraint"
  else reply

/-- How a call ends, and what it leaves. -/
def Custody.attempt (s : Custody) : GasCall → Except FundsManagerError Unit × Custody
  | .create keypair r =>
      exec ((fun _ => ()) <$> createGasWallet
        { r with insert := s.insertReply keypair.address r.insert } keypair) s
  | .register peer r => exec ((fun _ => ()) <$> registerGasWallet r peer) s
  | .report activePeers r => exec (recordActiveGasWallet r activePeers) s

/-! ## Registrations with their refill -/

/-- The table and the secrets, the chain, and every keypair that was sampled. -/
structure Treasury where
  custody : Custody
  chain : Chain
  sampled : List Keypair

abbrev TreasuryM (α : Type) := Effect FundsManagerError Treasury α

def RefillError.wrap : RefillError → FundsManagerError
  | .db msg => .db msg
  | .onChain msg => .refill msg
  | .secretsManager msg => .secretsManager msg

def onCustody {α : Type} (m : GasM α) : TreasuryM α :=
  zoom Treasury.custody (fun t s => { t with custody := s }) id m

def onChain {α : Type} (m : RefillM α) : TreasuryM α :=
  zoom Treasury.chain (fun t c => { t with chain := c }) RefillError.wrap m

section Refill

variable (cfg : GasConfig)

/-- All gas wallets are refilled, whatever their status. -/
def refillGasWallets (load : Reply) (refill : RefillReplies) (fillTo : ℚ) : TreasuryM Unit := do
  let gasWallets ← onCustody (onDb load (look (·.gasWallets)))
  onChain (refillGasForWallets cfg refill gasWallets fillTo)

/-- `register_gas_wallet`, with the refill made on the chain: the reply `r.refill` that stands
for it in `registerGasWallet` is not used. -/
def Treasury.registerGasWallet (r : RegisterReplies) (load : Reply) (refill : RefillReplies)
    (peer : String) : TreasuryM String := do
  let gasWallet ← onCustody (allotGasWallet r peer)
  let secretValue ← onCustody (getSecret r.secret (gasWalletSecretName gasWallet.address))
  refillGasWallets cfg load refill cfg.topUpAmount
  return secretValue

end Refill

inductive TreasuryCall where
  | create (keypair : Keypair) (r : CreateReplies)
  | register (peer : String) (r : RegisterReplies) (load : Reply) (refill : RefillReplies)
  | report (activePeers : List String) (r : ReportReplies)

def Treasury.attempt (cfg : GasConfig) (t : Treasury) :
    TreasuryCall → Except FundsManagerError Unit × Treasury
  | .create keypair r =>
      ((t.custody.attempt (.create keypair r)).1,
        { t with
          custody := (t.custody.attempt (.create keypair r)).2
          sampled := t.sampled ++ [keypair] })
  | .register peer r load refill =>
      exec ((fun _ => ()) <$> Treasury.registerGasWallet cfg r load refill peer) t
  | .report activePeers r =>
      ((t.custody.attempt (.report activePeers r)).1,
        { t with custody := (t.custody.attempt (.report activePeers r)).2 })

/-- A history goes on after a call, however the call ended. -/
def Treasury.step (cfg : GasConfig) (t : Treasury) (c : TreasuryCall) : Option Treasury :=
  some (t.attempt cfg c).2

section Register

variable {cfg : GasConfig} {t t' : Treasury} {s s' : Custody} {r : RegisterReplies}
  {load : Reply} {refill : RefillReplies} {peer : String} {w : GasWallet}
  {res : Except FundsManagerError String}

theorem onCustody_cases {α : Type} {m : GasM α} {res : Except FundsManagerError α}
    (h : exec (onCustody m) t = (res, t')) :
    exec m t.custody = (res, t'.custody) ∧ t' = { t with custody := t'.custody } := by
  rw [onCustody, exec_zoom] at h
  injection h with hres ht
  have hid : ∀ x : Except FundsManagerError α, x.mapError id = x := fun x => by cases x <;> rfl
  rw [hid] at hres
  subst ht
  exact ⟨Prod.ext hres rfl, rfl⟩

theorem onChain_cases {α : Type} {m : RefillM α} {res : Except FundsManagerError α}
    (h : exec (onChain m) t = (res, t')) :
    ∃ res₀, exec m t.chain = (res₀, t'.chain) ∧ t' = { t with chain := t'.chain } ∧
      ∀ a, res = .ok a ↔ res₀ = .ok a := by
  rw [onChain, exec_zoom] at h
  injection h with hres ht
  subst ht
  refine ⟨(exec m t.chain).1, rfl, rfl, fun a => ?_⟩
  rw [← hres, mapError_ok]

/-- The refill reads the table, and leaves it alone. -/
theorem refillGasWallets_cases {fillTo : ℚ} {res : Except FundsManagerError Unit}
    (h : exec (refillGasWallets cfg load refill fillTo) t = (res, t')) :
    t' = { t with chain := t'.chain } ∧
      (res = .ok () ↔ load = .ok () ∧
        RefillAnswered cfg refill t.custody.gasWallets fillTo t.chain) := by
  rcases exec_bind_cases h with ⟨e, hl, rfl⟩ | ⟨ws, t₁, hl, hrest⟩
  · obtain ⟨hl, ht⟩ := onCustody_cases hl
    cases load with
    | ok u => cases hl
    | error msg =>
        injection hl with _ hs
        refine ⟨by rw [ht, ← hs], fun hok => (by cases hok), fun ha => (by cases ha.1)⟩
  · obtain ⟨hl, ht⟩ := onCustody_cases hl
    obtain ⟨res₀, hrefill, ht', hiff⟩ := onChain_cases hrest
    cases load with
    | error msg => cases hl
    | ok u =>
        injection hl with hws hs
        injection hws with hws
        obtain rfl : t₁ = t := by rw [ht, ← hs]
        subst hws
        refine ⟨ht', ?_⟩
        rw [hiff, refillGasForWallets_ok_iff hrefill]
        exact ⟨fun ha => ⟨rfl, ha⟩, fun ha => ha.2⟩

theorem reply_of (p : Prop) : ∃ reply : Reply, reply = .ok () ↔ p := by
  by_cases hp : p
  · exact ⟨.ok (), fun _ => hp, fun _ => rfl⟩
  · exact ⟨.error "", fun h => (by cases h), fun h => absurd h hp⟩

/-- **A registration on the chain is one of the table's**, whose refill is answered exactly if
every call of the real one is. -/
theorem registerGasWallet_onTable
    (h : exec (Treasury.registerGasWallet cfg r load refill peer) t = (res, t')) :
    t'.sampled = t.sampled ∧ ∃ reply res₀,
      (reply = .ok () ↔ load = .ok () ∧
        RefillAnswered cfg refill t'.custody.gasWallets cfg.topUpAmount t.chain) ∧
      exec (registerGasWallet { r with refill := reply } peer) t.custody = (res₀, t'.custody) ∧
      ∀ key, res = .ok key ↔ res₀ = .ok key := by
  -- where the refill is not reached its reply does not matter
  obtain ⟨reply, hreply⟩ := reply_of (load = .ok () ∧
    RefillAnswered cfg refill t'.custody.gasWallets cfg.topUpAmount t.chain)
  rcases exec_bind_cases h with ⟨e, ha, rfl⟩ | ⟨w, t₁, ha, h⟩
  · obtain ⟨ha, ht⟩ := onCustody_cases ha
    refine ⟨by rw [ht], reply, .error e, hreply, ?_, fun key => Iff.rfl⟩
    exact exec_bind_error ha
  obtain ⟨ha, ht₁⟩ := onCustody_cases ha
  rcases exec_bind_cases h with ⟨e, hk, rfl⟩ | ⟨secretValue, t₂, hk, h⟩
  · obtain ⟨hk, ht⟩ := onCustody_cases hk
    refine ⟨by rw [ht, ht₁], reply, .error e, hreply, ?_, fun key => Iff.rfl⟩
    exact (exec_bind_of_ok ha).trans (exec_bind_error hk)
  obtain ⟨hk, ht₂⟩ := onCustody_cases hk
  have hchain : t₂.chain = t.chain := by rw [ht₂, ht₁]
  have hsampled : t₂.sampled = t.sampled := by rw [ht₂, ht₁]
  rcases exec_bind_cases h with ⟨e, hf, rfl⟩ | ⟨u, t₃, hf, h⟩
  · obtain ⟨ht, hok⟩ := refillGasWallets_cases hf
    have hcustody : t'.custody = t₂.custody := by rw [ht]
    rw [hcustody, ← hchain, ← hok] at hreply
    cases reply with
    | ok u => cases hreply.mp rfl
    | error msg =>
        refine ⟨by rw [ht, hsampled], .error msg, .error (.refill msg), ?_, ?_, fun key => ?_⟩
        · rw [hcustody, ← hchain, ← hok]
          exact hreply
        · exact (exec_bind_of_ok ha).trans ((exec_bind_of_ok hk).trans (by rw [hcustody]; rfl))
        · exact ⟨fun h => (by cases h), fun h => (by cases h)⟩
  · obtain ⟨ht, hok⟩ := refillGasWallets_cases hf
    injection h with hres ht₃
    subst ht₃
    have hcustody : t₃.custody = t₂.custody := by rw [ht]
    rw [hcustody, ← hchain, ← hok] at hreply
    cases reply with
    | error msg => cases hreply.mpr rfl
    | ok u =>
        refine ⟨by rw [ht, hsampled], .ok (), res, ?_, ?_, fun key => Iff.rfl⟩
        · rw [hcustody, ← hchain, ← hok]
          exact hreply
        · rw [hcustody, ← hres]
          exact (exec_bind_of_ok ha).trans ((exec_bind_of_ok hk).trans rfl)

/-! ## When a registration marks a wallet, and when it then returns its key -/

/-- The registration gets as far as marking the wallet `w`, which was not active. -/
structure Marks (r : RegisterReplies) (peer : String) (s : Custody) (w : GasWallet) : Prop where
  findLive : r.findLive = .ok ()
  choice : s.chooseWallet r.pick peer = some w
  findInactive : s.findLiveGasWalletForPeer r.pick peer = none → r.findInactive = .ok ()
  notActive : w.status ≠ .active
  mark : r.mark = .ok ()

/-- The end of both branches of the first half. -/
theorem markThen_exact (hl : r.findLive = .ok ()) (hchoice : s.chooseWallet r.pick peer = some w)
    (hi : s.findLiveGasWalletForPeer r.pick peer = none → r.findInactive = .ok ())
    (hne : w.status ≠ .active) :
    (∃ v, Marks r peer s v ∧
        exec (do markGasWalletActive r.mark r.now w.address peer; return w) s =
          (.ok v, s.updateWallet v.address (setActive peer r.now))) ∨
      (∀ v, ¬ Marks r peer s v) ∧
        (exec (do markGasWalletActive r.mark r.now w.address peer; return w) s).2 = s := by
  cases hm : r.mark with
  | ok u => exact .inl ⟨w, ⟨hl, hchoice, hi, hne, hm⟩, rfl⟩
  | error msg =>
      refine .inr ⟨fun v hv => ?_, rfl⟩
      cases hm.symm.trans hv.mark

/-- **The first half of a registration marks a wallet, or does nothing.** -/
theorem allotGasWallet_exact (r : RegisterReplies) (peer : String) (s : Custody) :
    (∃ w, Marks r peer s w ∧ exec (allotGasWallet r peer) s =
        (.ok w, s.updateWallet w.address (setActive peer r.now))) ∨
      (∀ w, ¬ Marks r peer s w) ∧ (exec (allotGasWallet r peer) s).2 = s := by
  cases hl : r.findLive with
  | error msg =>
      have hfail : exec (onDb r.findLive (look (·.findLiveGasWalletForPeer r.pick peer))) s =
          (.error (.db msg), s) := by rw [hl]; rfl
      refine .inr ⟨fun w hw => ?_, congrArg Prod.snd (exec_bind_error hfail)⟩
      cases hl.symm.trans hw.findLive
  | ok u =>
      have hfind : exec (onDb r.findLive (look (·.findLiveGasWalletForPeer r.pick peer))) s =
          (.ok (s.findLiveGasWalletForPeer r.pick peer), s) := by rw [hl]; rfl
      rw [allotGasWallet, exec_bind_of_ok hfind]
      cases hf : s.findLiveGasWalletForPeer r.pick peer with
      | some existing =>
          have hchoice : s.chooseWallet r.pick peer = some existing := by
            rw [Custody.chooseWallet, hf, Option.some_or]
          dsimp only
          by_cases ha : existing.status = .active
          · -- the peer's wallet is active as it is
            rw [if_neg (not_not_intro ha)]
            refine .inr ⟨fun w hw => ?_, rfl⟩
            obtain rfl := Option.some.inj (hchoice.symm.trans hw.choice)
            exact hw.notActive ha
          · rw [if_pos ha]
            exact markThen_exact hl hchoice (fun hn => by cases hf.symm.trans hn) ha
      | none =>
          dsimp only
          cases hi : r.findInactive with
          | error msg =>
              refine .inr ⟨fun w hw => ?_, rfl⟩
              cases hi.symm.trans (hw.findInactive hf)
          | ok u =>
              have hpool : s.chooseWallet r.pick peer = s.findInactiveGasWallet r.pick := by
                rw [Custody.chooseWallet, hf, Option.none_or]
              have hlook : exec (onDb (.ok u) (look (·.findInactiveGasWallet r.pick))) s =
                  (.ok (s.findInactiveGasWallet r.pick), s) := rfl
              rw [findInactiveGasWallet, bind_assoc, exec_bind_of_ok hlook]
              cases hp : s.findInactiveGasWallet r.pick with
              | none =>
                  refine .inr ⟨fun w hw => ?_, rfl⟩
                  cases (hpool.trans hp).symm.trans hw.choice
              | some fresh =>
                  have hne : fresh.status ≠ .active := by
                    rw [(Custody.findInactive_some hp).2]
                    decide
                  exact markThen_exact hl (hpool.trans hp) (fun _ => hi) hne

/-- The second half returns the key exactly if its calls are answered and the key is there. -/
theorem handOutKey_ok_iff (h : exec (handOutKey r w) s = (res, s')) :
    (∃ key, res = .ok key) ↔ r.secret = .ok () ∧
      s.secrets (gasWalletSecretName w.address) ≠ none ∧ r.refill = .ok () := by
  obtain rfl : (exec (handOutKey r w) s).1 = res := congrArg Prod.fst h
  unfold handOutKey getSecret
  cases r.secret with
  | error msg => exact ⟨fun ⟨_, hk⟩ => (by cases hk), fun ha => (by cases ha.1)⟩
  | ok u =>
      have hlook : exec (answered .secretsManager (.ok u)
          (look (·.secrets (gasWalletSecretName w.address)))) s =
            (.ok (s.secrets (gasWalletSecretName w.address)), s) := rfl
      rw [bind_assoc, exec_bind_of_ok hlook]
      cases s.secrets (gasWalletSecretName w.address) with
      | none => exact ⟨fun ⟨_, hk⟩ => (by cases hk), fun ha => absurd rfl ha.2.1⟩
      | some key =>
          cases r.refill with
          | error msg => exact ⟨fun ⟨_, hk⟩ => (by cases hk), fun ha => (by cases ha.2.2)⟩
          | ok u => exact ⟨fun _ => ⟨rfl, fun hn => (by cases hn), rfl⟩, fun _ => ⟨key, rfl⟩⟩

/-- **What a registration has done to the table**: nothing; or it has marked a wallet, and then
it returned the key exactly if everything after that was answered. -/
theorem registerGasWallet_exact (h : exec (registerGasWallet r peer) s = (res, s')) :
    (∀ w, ¬ Marks r peer s w) ∧ s' = s ∨
      ∃ w, Marks r peer s w ∧ s' = s.updateWallet w.address (setActive peer r.now) ∧
        ((∃ key, res = .ok key) ↔ r.secret = .ok () ∧
          s.secrets (gasWalletSecretName w.address) ≠ none ∧ r.refill = .ok ()) := by
  rcases allotGasWallet_exact r peer s with ⟨w, hw, ha⟩ | ⟨hnone, ha⟩
  · rw [registerGasWallet, exec_bind_of_ok ha] at h
    have hkey := handOutKey_ok_iff h
    exact .inr ⟨w, hw, (handOutKey_cases h).1, hkey⟩
  · refine .inl ⟨hnone, ?_⟩
    rcases exec_bind_cases h with ⟨e, he, -⟩ | ⟨w, s₁, hw, hrest⟩
    · rw [he] at ha
      exact ha
    · rw [hw] at ha
      exact (handOutKey_cases hrest).1.trans ha

/-- Marking a wallet that was not active changes the table. -/
theorem Marks.ne (h : Marks r peer s w) :
    (s.updateWallet w.address (setActive peer r.now)).gasWallets ≠ s.gasWallets := by
  intro heq
  have hmem := (Custody.chooseWallet_some h.choice).1
  have hrow := List.map_inj_left.mp (heq.trans (List.map_id _).symm) w hmem
  rw [if_pos rfl] at hrow
  exact h.notActive (congrArg GasWallet.status hrow.symm)

end Register

/-! ## What is asked of a call that fails -/

section Failures

variable {cfg : GasConfig} {t t' : Treasury} {c : TreasuryCall}
  {res : Except FundsManagerError Unit}

def TreasuryCall.isRegistration : TreasuryCall → Bool
  | .register _ _ _ _ => true
  | _ => false

def TreasuryCall.isReport : TreasuryCall → Bool
  | .report _ _ => true
  | _ => false

/-- A creation or registration that returns an error leaves the table as it was. -/
def TableKept (cfg : GasConfig) (t : Treasury) (c : TreasuryCall) : Prop :=
  c.isReport = false → (∃ e, (t.attempt cfg c).1 = .error e) →
    (t.attempt cfg c).2.custody.gasWallets = t.custody.gasWallets

/-- A registration that returns an error, and so no key, takes no wallet from the pool. -/
def PoolKept (cfg : GasConfig) (t : Treasury) (c : TreasuryCall) : Prop :=
  c.isRegistration = true → (∃ e, (t.attempt cfg c).1 = .error e) →
    ∀ w ∈ t.custody.gasWallets, w.status = .inactive → w ∈ (t.attempt cfg c).2.custody.gasWallets

/-- Every wallet's private key is stored under its secret name. -/
def KeysStored (t : Treasury) : Prop :=
  ∀ w ∈ t.custody.gasWallets, ∃ keypair ∈ t.sampled, keypair.address = w.address ∧
    t.custody.secrets (gasWalletSecretName w.address) = some keypair.privateKey

/-- **Whatever comes after a write to the table is answered**: after a row is inserted its key is
stored, under a name that is free; after a wallet is marked its key is there and is read, and the
refill gets through. -/
def Answered (cfg : GasConfig) (t : Treasury) : TreasuryCall → Prop
  | .create keypair r => keypair.address ∉ t.custody.gasWallets.map GasWallet.address →
      r.insert = .ok () →
      r.secret = .ok () ∧ t.custody.secrets (gasWalletSecretName keypair.address) = none
  | .register peer r load refill => ∀ w, Marks r peer t.custody w →
      r.secret = .ok () ∧ t.custody.secrets (gasWalletSecretName w.address) ≠ none ∧
        load = .ok () ∧
        RefillAnswered cfg refill t.custody.gasWallets cfg.topUpAmount t.chain
  | .report _ _ => True

theorem insertReply_ok {s : Custody} {address : String} {reply : Reply} :
    s.insertReply address reply = .ok () ↔
      address ∉ s.gasWallets.map GasWallet.address ∧ reply = .ok () := by
  unfold Custody.insertReply
  split
  · rename_i hmem
    refine ⟨fun h => ?_, fun h => absurd hmem h.1⟩
    cases reply <;> cases h
  · rename_i hmem
    exact ⟨fun h => ⟨hmem, h⟩, fun h => h.2⟩

theorem exec_unit {ε σ α : Type} {m : Effect ε σ α} {s s' : σ} {res : Except ε Unit}
    (h : exec ((fun _ => ()) <$> m) s = (res, s')) :
    ∃ res₀, exec m s = (res₀, s') ∧ ((∃ e, res = .error e) ↔ ¬ ∃ a, res₀ = .ok a) := by
  rw [exec_map] at h
  injection h with hres hs
  refine ⟨(exec m s).1, Prod.ext rfl hs, ?_⟩
  subst hres
  cases (exec m s).1 with
  | error e => exact ⟨fun _ ⟨_, ha⟩ => (by cases ha), fun _ => ⟨e, rfl⟩⟩
  | ok a => exact ⟨fun ⟨_, he⟩ => (by cases he), fun hno => absurd ⟨a, rfl⟩ hno⟩

/-! ## One call -/

/-- **A creation that may fail.** -/
theorem Custody.attempt_create {s s' : Custody} {keypair : Keypair} {r : CreateReplies}
    (h : s.attempt (.create keypair r) = (res, s')) :
    ¬ (keypair.address ∉ s.gasWallets.map GasWallet.address ∧ r.insert = .ok ()) ∧
        (∃ e, res = .error e) ∧ s' = s ∨
      (keypair.address ∉ s.gasWallets.map GasWallet.address ∧ r.insert = .ok ()) ∧
        (¬ (r.secret = .ok () ∧ s.secrets (gasWalletSecretName keypair.address) = none) ∧
            (∃ e, res = .error e) ∧ s' = s.addGasWallet keypair.address ∨
          (r.secret = .ok () ∧ s.secrets (gasWalletSecretName keypair.address) = none) ∧
            (¬ ∃ e, res = .error e) ∧ s' = s.created keypair) := by
  obtain ⟨res₀, h, hiff⟩ := exec_unit h
  rw [hiff, ← insertReply_ok]
  have hfail : ∀ {e}, res₀ = .error e → ¬ ∃ a, res₀ = .ok a := by
    rintro e rfl ⟨a, ha⟩
    cases ha
  rcases createGasWallet_cases h with ⟨hno, ⟨e, he⟩, hs⟩ | ⟨hyes, hrest⟩
  · exact .inl ⟨hno, hfail he, hs⟩
  · refine .inr ⟨hyes, ?_⟩
    rcases hrest with ⟨hno, ⟨e, he⟩, hs⟩ | ⟨hkey, hok, hs⟩
    · exact .inl ⟨hno, hfail he, hs⟩
    · exact .inr ⟨hkey, fun hn => hn ⟨_, hok⟩, hs⟩

theorem address_updateWallet {s : Custody} {address : String} {f : GasWallet → GasWallet}
    (hf : ∀ w, (f w).address = w.address) :
    (s.updateWallet address f).gasWallets.map GasWallet.address =
      s.gasWallets.map GasWallet.address :=
  Rows.map_key_update hf s.gasWallets

/-- **A registration that may fail**, its refill included. -/
theorem attempt_register {peer : String} {r : RegisterReplies} {load : Reply}
    {refill : RefillReplies} (h : t.attempt cfg (.register peer r load refill) = (res, t')) :
    t'.sampled = t.sampled ∧
      ((∀ w, ¬ Marks r peer t.custody w) ∧ t'.custody = t.custody ∨
        ∃ w, Marks r peer t.custody w ∧
          t'.custody = t.custody.updateWallet w.address (setActive peer r.now) ∧
          ((∃ e, res = .error e) ↔
            ¬ (r.secret = .ok () ∧ t.custody.secrets (gasWalletSecretName w.address) ≠ none ∧
              load = .ok () ∧
              RefillAnswered cfg refill t.custody.gasWallets cfg.topUpAmount t.chain))) := by
  obtain ⟨res₀, h, hiff⟩ := exec_unit h
  obtain ⟨hsampled, reply, res₁, hreply, htable, hsame⟩ := registerGasWallet_onTable h
  refine ⟨hsampled, ?_⟩
  rcases registerGasWallet_exact htable with ⟨hnone, hs⟩ | ⟨w, hw, hs, hkey⟩
  · exact .inl ⟨fun w hw => hnone w ⟨hw.1, hw.2, hw.3, hw.4, hw.5⟩, hs⟩
  · refine .inr ⟨w, ⟨hw.1, hw.2, hw.3, hw.4, hw.5⟩, hs, ?_⟩
    have haddr : t'.custody.gasWallets.map GasWallet.address =
        t.custody.gasWallets.map GasWallet.address := by
      rw [hs]
      exact address_updateWallet fun _ => rfl
    rw [hiff, not_iff_not, exists_congr hsame, hkey, hreply, refillAnswered_congr haddr]

/-- A report changes neither the addresses nor the secrets. -/
theorem attempt_report {s : Custody} (activePeers : List String) (r : ReportReplies) :
    (s.attempt (.report activePeers r)).2.secrets = s.secrets ∧
      (s.attempt (.report activePeers r)).2.gasWallets.map GasWallet.address =
        s.gasWallets.map GasWallet.address := by
  rcases h : s.attempt (.report activePeers r) with ⟨res, s'⟩
  rcases recordActiveGasWallet_cases h with ⟨_, -, rfl⟩ | ⟨rfl, -⟩
  · exact ⟨rfl, rfl⟩
  · exact ⟨rfl, Rows.map_key_sweep address_act _ _⟩

theorem Treasury.attempt_create {keypair : Keypair} {r : CreateReplies}
    (h : t.attempt cfg (.create keypair r) = (res, t')) :
    t.custody.attempt (.create keypair r) = (res, t'.custody) ∧
      t'.sampled = t.sampled ++ [keypair] := by
  injection h with hres ht
  subst ht
  exact ⟨Prod.ext hres rfl, rfl⟩

/-- **An error leaves the table alone exactly if what comes after a write is answered.** -/
theorem tableKept_iff : TableKept cfg t c ↔ Answered cfg t c := by
  unfold TableKept
  rcases h : t.attempt cfg c with ⟨res, t'⟩
  dsimp only
  cases c with
  | create keypair r =>
      refine (imp_iff_right rfl).trans ?_
      obtain ⟨h, -⟩ := Treasury.attempt_create h
      rcases Custody.attempt_create h with ⟨hno, he, hs⟩ | ⟨hyes, ⟨hno, he, hs⟩ | ⟨hkey, hok, -⟩⟩
      · exact ⟨fun _ hfresh hins => absurd ⟨hfresh, hins⟩ hno, fun _ _ => by rw [hs]⟩
      · -- the row is there and the key is not
        constructor
        · intro hk
          have hlen := congrArg List.length (hk he)
          rw [hs] at hlen
          simp [Custody.addGasWallet] at hlen
        · intro ha
          exact absurd (ha hyes.1 hyes.2) hno
      · exact ⟨fun _ _ _ => hkey, fun _ he => absurd he hok⟩
  | register peer r load refill =>
      refine (imp_iff_right rfl).trans ?_
      rcases (attempt_register h).2 with ⟨hnone, hs⟩ | ⟨w, hw, hs, herr⟩
      · exact ⟨fun _ w hw => absurd hw (hnone w), fun _ _ => by rw [hs]⟩
      · rw [herr, hs]
        constructor
        · intro hk v hv
          obtain rfl := Option.some.inj (hw.choice.symm.trans hv.choice)
          by_contra hno
          exact hw.ne (hk hno)
        · intro ha hno
          exact absurd (ha w hw) hno
  | report activePeers r => exact ⟨fun _ => trivial, fun _ h => (by cases h)⟩

theorem poolKept_of_tableKept (h : TableKept cfg t c) : PoolKept cfg t c := by
  intro hreg he w hw _
  have hnot : c.isReport = false := by
    cases c with
    | register peer r load refill | create keypair r => rfl
    | report activePeers r => cases hreg
  rw [h hnot he]
  exact hw

/-! ## Whole histories -/

/-- Rows with the same addresses, in front of the same secrets. -/
theorem KeysStored.of_addresses (h : KeysStored t) (hsampled : ∀ k ∈ t.sampled, k ∈ t'.sampled)
    (haddr : t'.custody.gasWallets.map GasWallet.address =
      t.custody.gasWallets.map GasWallet.address)
    (hsecrets : t'.custody.secrets = t.custody.secrets) : KeysStored t' := by
  intro w hw
  have hmem : w.address ∈ t.custody.gasWallets.map GasWallet.address :=
    haddr ▸ List.mem_map_of_mem hw
  obtain ⟨v, hv, hvw⟩ := List.mem_map.mp hmem
  obtain ⟨keypair, hk, ha, hkey⟩ := h v hv
  rw [hvw] at ha hkey
  exact ⟨keypair, hsampled _ hk, ha, by rw [hsecrets, hkey]⟩

/-- A call that is answered after its writes leaves no wallet without its key. -/
theorem keysStored_step (h : KeysStored t) (ha : Answered cfg t c)
    (hs : t.step cfg c = some t') : KeysStored t' := by
  obtain rfl := Option.some.inj hs
  cases c with
  | create keypair r =>
      rcases hc : t.attempt cfg (.create keypair r) with ⟨res, t'⟩
      obtain ⟨hc, hsampled⟩ := Treasury.attempt_create hc
      have hgrow : ∀ k ∈ t.sampled, k ∈ t'.sampled := fun k hk => by
        rw [hsampled]
        exact List.mem_append_left _ hk
      rcases Custody.attempt_create hc with ⟨-, -, hs⟩ | ⟨hyes, ⟨hno, -, -⟩ | ⟨⟨-, hfree⟩, -, hs⟩⟩
      · exact h.of_addresses hgrow (by rw [hs]) (by rw [hs])
      · exact absurd (ha hyes.1 hyes.2) hno
      · unfold KeysStored
        dsimp only
        rw [hs, hsampled]
        intro w hw
        rcases List.mem_append.mp hw with hw | hw
        · obtain ⟨k, hk, haddr, hkey⟩ := h w hw
          refine ⟨k, List.mem_append_left _ hk, haddr, ?_⟩
          -- the name that was free is not this wallet's
          have hne : gasWalletSecretName w.address ≠ gasWalletSecretName keypair.address := by
            intro heq
            rw [heq, hfree] at hkey
            cases hkey
          exact (Function.update_of_ne hne _ _).trans hkey
        · obtain rfl := List.mem_singleton.mp hw
          exact ⟨keypair, List.mem_append_right _ List.mem_cons_self, rfl,
            Function.update_self ..⟩
  | register peer r load refill =>
      rcases hr : t.attempt cfg (.register peer r load refill) with ⟨res, t'⟩
      obtain ⟨hsampled, hcustody⟩ := attempt_register hr
      have hsame : ∀ k ∈ t.sampled, k ∈ t'.sampled := fun k hk => hsampled ▸ hk
      rcases hcustody with ⟨-, hs⟩ | ⟨w, -, hs, -⟩
      · exact h.of_addresses hsame (by rw [hs]) (by rw [hs])
      · refine h.of_addresses hsame ?_ (by rw [hs]; rfl)
        rw [hs]
        exact address_updateWallet fun _ => rfl
  | report activePeers r =>
      obtain ⟨hsecrets, haddr⟩ := @attempt_report t.custody activePeers r
      exact h.of_addresses (fun k hk => hk) haddr hsecrets

def opened (chain : Chain) : Treasury := ⟨emptyCustody, chain, []⟩

/--
**What failing calls may leave behind.** Along a history that starts with an empty table, every
creation and registration that fails leaves the table as it was, every wallet has its key
stored, and no pool wallet goes to a registration that returned none, exactly if everything that
comes after a write to the table is answered.
-/
theorem failures_harmless_iff (cfg : GasConfig) (chain : Chain) (calls : List TreasuryCall) :
    (Runs.Meets (Treasury.step cfg) (TableKept cfg) (opened chain) calls ∧
        Runs.Always (Treasury.step cfg) KeysStored (opened chain) calls ∧
        Runs.Meets (Treasury.step cfg) (PoolKept cfg) (opened chain) calls) ↔
      Runs.Meets (Treasury.step cfg) (Answered cfg) (opened chain) calls := by
  have himp : ∀ {C D : Treasury → TreasuryCall → Prop}, (∀ t c, C t c → D t c) →
      Runs.Meets (Treasury.step cfg) C (opened chain) calls →
      Runs.Meets (Treasury.step cfg) D (opened chain) calls := fun h =>
    Runs.Meets.imp (J := fun _ => True) (fun _ _ _ _ _ _ => trivial) (fun t c _ => h t c) trivial
  constructor
  · rintro ⟨hkept, -, -⟩
    exact himp (fun t c => tableKept_iff.mp) hkept
  · intro ha
    have hempty : KeysStored (opened chain) := fun w hw => by cases hw
    refine ⟨himp (fun t c => tableKept_iff.mpr) ha, ?_, ?_⟩
    · exact ha.always (fun t c t' h hc hs => keysStored_step h hc hs) calls hempty
    · exact himp (fun t c h => poolKept_of_tableKept (tableKept_iff.mpr h)) ha

/-! ## A registration whose refill fails, and a creation whose key is not stored -/

def refusedRefill : RefillReplies :=
  { answeredRefill with transfer := fun _ => .error "insufficient funds" }

theorem failed_calls_lose_wallets :
    (∃ t t' e, Runs.run (Treasury.step refillConfig) (opened lowChain)
          [.create ⟨"a1", "key"⟩ ⟨.ok (), .ok ()⟩] = some t ∧
        t.custody.gasWallets = [.new "a1"] ∧
        t.attempt refillConfig (.register "peer" allAnswered (.ok ()) refusedRefill) =
          (.error e, t') ∧
        t'.custody.gasWallets = [⟨"a1", some "peer", .active, some 0⟩]) ∧
      ∃ t' e, (opened lowChain).attempt refillConfig
          (.create ⟨"a1", "key"⟩ ⟨.ok (), .error "throttled"⟩) = (.error e, t') ∧
        t'.custody.gasWallets = [.new "a1"] ∧
        t'.custody.secrets (gasWalletSecretName "a1") = none := by
  have herror : ∀ {x : Except FundsManagerError Unit}, x.toOption = none → ∃ e, x = .error e := by
    intro x hx
    cases x with
    | error e => exact ⟨e, rfl⟩
    | ok u => cases hx
  constructor
  · obtain ⟨e, he⟩ : ∃ e, (Treasury.attempt refillConfig (Treasury.attempt refillConfig
        (opened lowChain) (.create ⟨"a1", "key"⟩ ⟨.ok (), .ok ()⟩)).2
        (.register "peer" allAnswered (.ok ()) refusedRefill)).1 = .error e :=
      herror (by decide +kernel)
    exact ⟨_, _, e, rfl, by decide +kernel, Prod.ext he rfl, by decide +kernel⟩
  · exact ⟨_, .secretsManager "throttled", rfl, by decide +kernel, by decide +kernel⟩

end Failures

end RelayerExtensions.Funds
