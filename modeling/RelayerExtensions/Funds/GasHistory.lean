import RelayerExtensions.Funds.GasWallets
import RelayerExtensions.Lib.Runs

/-!
# Gas wallets: histories of successful calls, one after the other

`gasStep` is one call that succeeds, so a run of it from the empty table is a
sequential history. `Stocked` is what every such history keeps: addresses are told
apart by their secrets, which cannot be created twice, a wallet has a peer exactly
while it is not inactive, and no peer has two of them.

The second half follows one wallet. While it is not inactive its peer stays, so
only two things can be done to it in steps: a report that omits the peer makes it
pending, and another one makes it inactive, and anything that names the peer in
between starts this over (`from_active`).
-/

namespace RelayerExtensions.Funds

open Effect

inductive GasCall where
  | create (keypair : Keypair) (r : CreateReplies)
  | register (peer : String) (r : RegisterReplies)
  | report (activePeers : List String) (r : ReportReplies)

/-- A call that succeeds. -/
def gasStep (s : Custody) : GasCall → Option Custody
  | .create keypair r =>
      match exec (createGasWallet r keypair) s with
      | (.ok _, s') => some s'
      | (.error _, _) => none
  | .register peer r =>
      match exec (registerGasWallet r peer) s with
      | (.ok _, s') => some s'
      | (.error _, _) => none
  | .report activePeers r =>
      match exec (recordActiveGasWallet r activePeers) s with
      | (.ok _, s') => some s'
      | (.error _, _) => none

def emptyCustody : Custody := ⟨[], fun _ => none⟩

/-- Addresses are unique, a wallet has a peer exactly while it is not inactive, and no peer has
two such wallets. -/
structure Tidy (s : Custody) : Prop where
  nodup : (s.gasWallets.map GasWallet.address).Nodup
  peerless : ∀ w ∈ s.gasWallets, w.status = .inactive ↔ w.peerId = none
  single : ∀ w ∈ s.gasWallets, ∀ v ∈ s.gasWallets, ∀ peer, w.LiveFor peer → v.LiveFor peer → w = v

/-- What every history keeps. -/
structure Stocked (s : Custody) : Prop extends Tidy s where
  sealed : ∀ w ∈ s.gasWallets, s.secrets (gasWalletSecretName w.address) ≠ none

variable {s s' : Custody} {c : GasCall} {w : GasWallet} {peer : String}

theorem stocked_empty : Stocked emptyCustody where
  nodup := List.nodup_nil
  peerless w hw := by cases hw
  single w hw := by cases hw
  sealed w hw := by cases hw

/-! ## One call -/

/-- What a successful report does to the rows. -/
def reportRow (r : ReportReplies) (activePeers : List String) (w : GasWallet) : GasWallet :=
  r.act activePeers w w

theorem gasStep_create {keypair : Keypair} {r : CreateReplies}
    (h : gasStep s (.create keypair r) = some s') :
    s.secrets (gasWalletSecretName keypair.address) = none ∧ s' = s.created keypair := by
  unfold gasStep at h
  dsimp only at h
  split at h
  · rename_i address s₁ he
    injection h with h
    exact h ▸ createGasWallet_ok he
  · cases h

/-- A registration that succeeds leaves the wallet it settles on active for the peer. -/
theorem gasStep_register {r : RegisterReplies} (h : gasStep s (.register peer r) = some s') :
    ∃ w key, s.chooseWallet r.pick peer = some w ∧
      exec (registerGasWallet r peer) s = (.ok key, s') ∧
      s.secrets (gasWalletSecretName w.address) = some key ∧
      (w.status = .active ∧ s' = s ∨ s' = s.updateWallet w.address (setActive peer r.now)) := by
  unfold gasStep at h
  dsimp only at h
  split at h
  · rename_i key s₁ he
    cases h
    rcases registerGasWallet_cases he with ⟨rfl, hkey⟩ | ⟨w, hw, -, rfl, hkey⟩
    · obtain ⟨w, hw, hact, hsec⟩ := hkey key rfl
      exact ⟨w, key, hw, he, hsec, .inl ⟨hact, rfl⟩⟩
    · exact ⟨w, key, hw, he, hkey key rfl, .inr rfl⟩
  · cases h

theorem gasStep_report {activePeers : List String} {r : ReportReplies}
    (hnd : (s.gasWallets.map GasWallet.address).Nodup)
    (h : gasStep s (.report activePeers r) = some s') :
    s' = ⟨s.gasWallets.map (reportRow r activePeers), s.secrets⟩ := by
  unfold gasStep at h
  dsimp only at h
  split at h
  · rename_i u s₁ he
    cases h
    rcases recordActiveGasWallet_cases he with ⟨_, he, -⟩ | ⟨rfl, hall⟩
    · cases he
    · have hrows := @gasWallets_sweep r activePeers s hnd
      rw [hall rfl] at hrows ⊢
      refine congrArg (Custody.mk · s.secrets) (hrows.trans ?_)
      exact List.map_congr_left fun w hw => if_pos hw
  · cases h

/-! ## Tidiness -/

/-- Rows changed one by one stay tidy if each stays tidy by itself and becomes a peer's only if
it was, or if nothing else is. -/
theorem Tidy.map (h : Tidy s) {f : GasWallet → GasWallet}
    (hrows : s'.gasWallets = s.gasWallets.map f)
    (haddr : ∀ w ∈ s.gasWallets, (f w).address = w.address)
    (hpeer : ∀ w ∈ s.gasWallets, (f w).status = .inactive ↔ (f w).peerId = none)
    (hlive : ∀ w ∈ s.gasWallets, ∀ peer, (f w).LiveFor peer → w.LiveFor peer ∨
      (∀ v ∈ s.gasWallets, ¬ v.LiveFor peer) ∧
        ∀ v ∈ s.gasWallets, (f v).LiveFor peer → v = w) : Tidy s' := by
  constructor
  · have : s'.gasWallets.map GasWallet.address = s.gasWallets.map GasWallet.address := by
      rw [hrows, List.map_map]
      exact List.map_congr_left haddr
    exact this ▸ h.nodup
  · intro w hw
    rw [hrows] at hw
    obtain ⟨v, hv, rfl⟩ := List.mem_map.mp hw
    exact hpeer v hv
  · intro w hw v hv peer hwl hvl
    rw [hrows] at hw hv
    obtain ⟨w₀, hw₀, rfl⟩ := List.mem_map.mp hw
    obtain ⟨v₀, hv₀, rfl⟩ := List.mem_map.mp hv
    rcases hlive w₀ hw₀ peer hwl with hwo | ⟨-, honly⟩
    · rcases hlive v₀ hv₀ peer hvl with hvo | ⟨hnone, -⟩
      · exact congrArg f (h.single w₀ hw₀ v₀ hv₀ peer hwo hvo)
      · exact absurd hwo (hnone w₀ hw₀)
    · rw [honly v₀ hv₀ hvl]

theorem tidy_create (h : Tidy s) {address : String} (hnew : ∀ w ∈ s.gasWallets, w.address ≠ address)
    (hrows : s'.gasWallets = s.gasWallets ++ [.new address]) : Tidy s' := by
  have hcases : ∀ {w : GasWallet}, w ∈ s'.gasWallets → w ∈ s.gasWallets ∨ w = .new address :=
    fun hw => by
      rw [hrows] at hw
      rcases List.mem_append.mp hw with hw | hw
      · exact .inl hw
      · exact .inr (List.mem_singleton.mp hw)
  have hidle : ∀ peer, ¬ (GasWallet.new address).LiveFor peer := fun peer hl => hl.1 rfl
  constructor
  · rw [hrows]
    refine Rows.nodup_key_append h.nodup fun hmem => ?_
    obtain ⟨w, hw, haddr⟩ := List.mem_map.mp hmem
    exact hnew w hw haddr
  · intro w hw
    rcases hcases hw with hw | rfl
    · exact h.peerless w hw
    · exact ⟨fun _ => rfl, fun _ => rfl⟩
  · intro w hw v hv peer hwl hvl
    rcases hcases hw with hw | rfl
    · rcases hcases hv with hv | rfl
      · exact h.single w hw v hv peer hwl hvl
      · exact absurd hvl (hidle peer)
    · exact absurd hwl (hidle peer)

/-- Marking a wallet active for a peer that owns it, or for one that owns none if nobody has
the wallet. -/
theorem tidy_setActive (h : Tidy s) {now : Nat} (hmem : w ∈ s.gasWallets)
    (hchoice : w.LiveFor peer ∨ w.status = .inactive ∧ ∀ v ∈ s.gasWallets, ¬ v.LiveFor peer) :
    Tidy (s.updateWallet w.address (setActive peer now)) := by
  -- the row that is marked is the one that was found
  have hrow : ∀ v ∈ s.gasWallets, v.address = w.address → v = w := fun v hv =>
    List.inj_on_of_nodup_map h.nodup hv hmem
  refine h.map rfl (fun v _ => ?_) (fun v hv => ?_) (fun v hv q hl => ?_)
  · split <;> rfl
  · split
    · exact ⟨fun hs => (by cases hs), fun hp => (by cases hp)⟩
    · exact h.peerless v hv
  · by_cases hva : v.address = w.address
    · obtain rfl := hrow v hv hva
      rw [if_pos rfl] at hl
      obtain rfl : peer = q := Option.some.inj hl.2
      rcases hchoice with hown | ⟨-, hnone⟩
      · exact .inl hown
      · refine .inr ⟨hnone, fun u hu hul => ?_⟩
        by_contra hne
        have hua : u.address ≠ v.address := fun heq => hne (hrow u hu heq)
        rw [if_neg hua] at hul
        exact hnone u hu hul
    · rw [if_neg hva] at hl
      exact .inl hl

/-- The changes a report makes to a wallet that is not inactive. -/
inductive Moved (w : GasWallet) : GasWallet → Prop where
  | kept : Moved w w
  | activated {peer : String} (hp : w.peerId = some peer) (hs : w.status ≠ .inactive) (now : Nat) :
      Moved w (setActive peer now w)
  | pending {peer : String} (hp : w.peerId = some peer) (hs : w.status ≠ .inactive) :
      Moved w (setPending w)
  | inactivated {peer : String} (hp : w.peerId = some peer) (hs : w.status ≠ .inactive) :
      Moved w (setInactive w)

theorem moved_act (r : ReportReplies) (activePeers : List String) (w : GasWallet) :
    Moved w (r.act activePeers w w) := by
  rcases act_cases r activePeers w with ⟨-, hkeep, -⟩ | ⟨p, hp, hmove⟩
  · exact hkeep ▸ .kept
  · rcases hmove with ⟨-, hst, -, hmove⟩ | ⟨-, hst, -, hmove⟩ | ⟨-, hst, -, hmove⟩ <;> rw [hmove]
    · exact .activated hp (by rw [hst]; decide) _
    · exact .pending hp (by rw [hst]; decide)
    · exact .inactivated hp (by rw [hst]; decide)

theorem Moved.address {v : GasWallet} (h : Moved w v) : v.address = w.address := by
  cases h <;> rfl

theorem Moved.peerless {v : GasWallet} (h : Moved w v)
    (hw : w.status = .inactive ↔ w.peerId = none) : v.status = .inactive ↔ v.peerId = none := by
  cases h with
  | kept => exact hw
  | activated hp hs now => exact ⟨fun hs => (by cases hs), fun hp => (by cases hp)⟩
  | pending hp hs =>
      refine ⟨fun hs => (by cases hs), fun hnone => ?_⟩
      rw [setPending, hp] at hnone
      cases hnone
  | inactivated hp hs => exact ⟨fun _ => rfl, fun _ => rfl⟩

/-- A wallet that is a peer's after the change was before. -/
theorem Moved.liveFor {v : GasWallet} (h : Moved w v) (hl : v.LiveFor peer) : w.LiveFor peer := by
  cases h with
  | kept => exact hl
  | activated hp hs now => exact ⟨hs, hp.trans hl.2⟩
  | pending hp hs => exact ⟨hs, hl.2⟩
  | inactivated hp hs => exact absurd rfl hl.1

/-- Such changes keep the table tidy, to whichever wallets they are made. -/
theorem Tidy.moved (h : Tidy s) {f : GasWallet → GasWallet} (hf : ∀ w ∈ s.gasWallets, Moved w (f w))
    (hrows : s'.gasWallets = s.gasWallets.map f) :
    Tidy s' :=
  h.map hrows (fun w hw => (hf w hw).address) (fun w hw => (hf w hw).peerless (h.peerless w hw))
    fun w hw _ hl => .inl ((hf w hw).liveFor hl)

theorem stocked_register (h : Stocked s) {r : RegisterReplies}
    (hw : s.chooseWallet r.pick peer = some w) :
    Stocked (s.updateWallet w.address (setActive peer r.now)) := by
  obtain ⟨hmem, hchoice⟩ := Custody.chooseWallet_some hw
  refine ⟨tidy_setActive h.toTidy hmem hchoice, fun v hv => ?_⟩
  rcases Custody.mem_updateWallet hv with ⟨hv, -⟩ | ⟨u, hu, -, rfl⟩
  · exact h.sealed v hv
  · exact h.sealed u hu

/-- **Every successful call keeps the table tidy**, and every wallet's secret in place. -/
theorem stocked_step (h : Stocked s) (hs : gasStep s c = some s') : Stocked s' := by
  cases c with
  | create keypair r =>
      obtain ⟨hfree, rfl⟩ := gasStep_create hs
      -- an address whose secret's name is free is a new one
      have hnew : ∀ w ∈ s.gasWallets,
          gasWalletSecretName w.address ≠ gasWalletSecretName keypair.address :=
        fun w hw heq => h.sealed w hw (heq ▸ hfree)
      refine ⟨tidy_create h.toTidy (fun w hw heq => hnew w hw (heq ▸ rfl)) rfl, fun w hw => ?_⟩
      dsimp only [Custody.created]
      rcases List.mem_append.mp hw with hw | hw
      · rw [Function.update_of_ne (hnew w hw)]
        exact h.sealed w hw
      · obtain rfl := List.mem_singleton.mp hw
        simp [GasWallet.new]
  | register peer r =>
      obtain ⟨w, key, hw, -, -, ⟨-, rfl⟩ | rfl⟩ := gasStep_register hs
      · exact h
      · exact stocked_register h hw
  | report activePeers r =>
      obtain rfl := gasStep_report h.nodup hs
      refine ⟨h.toTidy.moved (fun w _ => moved_act r activePeers w) rfl, fun w hw => ?_⟩
      obtain ⟨v, hv, rfl⟩ := List.mem_map.mp hw
      rw [reportRow, address_act]
      exact h.sealed v hv

theorem stocked_run {es : List GasCall} (hr : Runs.run gasStep emptyCustody es = some s) :
    Stocked s :=
  Runs.run_preserves (fun _ _ _ => stocked_step) es stocked_empty hr

/-! ## Keys -/

/-- Each wallet's secret is the private key it was created with, by one of these calls. -/
def Issued (cs : List GasCall) (s : Custody) : Prop :=
  ∀ w ∈ s.gasWallets, ∃ keypair r, GasCall.create keypair r ∈ cs ∧ keypair.address = w.address ∧
    s.secrets (gasWalletSecretName w.address) = some keypair.privateKey

theorem Issued.of_rows {cs : List GasCall} (h : Issued cs s)
    (hrows : ∀ w ∈ s'.gasWallets, ∃ v ∈ s.gasWallets, v.address = w.address)
    (hsec : s'.secrets = s.secrets) (c : GasCall) : Issued (cs ++ [c]) s' := by
  intro w hw
  obtain ⟨v, hv, ha⟩ := hrows w hw
  obtain ⟨keypair, r, hc, hk, hkey⟩ := h v hv
  exact ⟨keypair, r, List.mem_append_left _ hc, hk.trans ha, by rw [← ha, hsec, hkey]⟩

theorem issued_step {cs : List GasCall} (ht : Stocked s) (h : Issued cs s)
    (hs : gasStep s c = some s') : Issued (cs ++ [c]) s' := by
  cases c with
  | create keypair r =>
      obtain ⟨hfree, rfl⟩ := gasStep_create hs
      intro w hw
      rcases List.mem_append.mp hw with hw | hw
      · obtain ⟨kp, rc, hc, hk, hkey⟩ := h w hw
        refine ⟨kp, rc, List.mem_append_left _ hc, hk, ?_⟩
        have hne : gasWalletSecretName w.address ≠ gasWalletSecretName keypair.address :=
          fun heq => ht.sealed w hw (heq ▸ hfree)
        dsimp only [Custody.created]
        rw [Function.update_of_ne hne, hkey]
      · obtain rfl := List.mem_singleton.mp hw
        exact ⟨keypair, r, List.mem_append_right _ List.mem_cons_self, rfl,
          Function.update_self ..⟩
  | register peer r =>
      obtain ⟨w, key, -, -, -, ⟨-, rfl⟩ | rfl⟩ := gasStep_register hs
      · exact h.of_rows (fun w hw => ⟨w, hw, rfl⟩) rfl _
      · refine h.of_rows (fun v hv => ?_) (by rfl) _
        rcases Custody.mem_updateWallet hv with ⟨hv, -⟩ | ⟨u, hu, -, rfl⟩
        · exact ⟨v, hv, rfl⟩
        · exact ⟨u, hu, rfl⟩
  | report activePeers r =>
      obtain rfl := gasStep_report ht.nodup hs
      refine h.of_rows (fun w hw => ?_) (by rfl) _
      obtain ⟨v, hv, rfl⟩ := List.mem_map.mp hw
      exact ⟨v, hv, (address_act v v).symm⟩

theorem issued_run : ∀ (es : List GasCall) {cs : List GasCall} {s s' : Custody}, Stocked s →
    Issued cs s → Runs.run gasStep s es = some s' → Issued (cs ++ es) s'
  | [], cs, s, s', _, h, hr => by
      injection hr with hr
      rw [List.append_nil]
      exact hr ▸ h
  | c :: es, cs, s, s', ht, h, hr => by
      obtain ⟨s₁, h₁, hr⟩ := Runs.run_cons_some.mp hr
      have := issued_run es (stocked_step ht h₁) (issued_step ht h h₁) hr
      rwa [List.append_assoc, List.singleton_append] at this

/-- A peer that has a wallet gets that wallet, active. -/
theorem register_live (ht : Tidy s) (hw : w ∈ s.gasWallets) (hl : w.LiveFor peer)
    {r : RegisterReplies} {key : String} (hr : exec (registerGasWallet r peer) s = (.ok key, s')) :
    s.secrets (gasWalletSecretName w.address) = some key ∧
      ∃ w' ∈ s'.gasWallets, w'.address = w.address ∧ w'.status = .active ∧
        w'.peerId = some peer := by
  have hstep : gasStep s (.register peer r) = some s' := by
    unfold gasStep
    dsimp only
    rw [hr]
  obtain ⟨v, key', hv, hr', hsec, hrows⟩ := gasStep_register hstep
  obtain ⟨hvm, hvl⟩ := Custody.chooseWallet_some hv
  have hvl : v.LiveFor peer := hvl.resolve_right fun hn => hn.2 w hw hl
  obtain rfl := ht.single v hvm w hw peer hvl hl
  obtain rfl : key' = key := Except.ok.inj (Prod.ext_iff.mp (hr'.symm.trans hr)).1
  refine ⟨hsec, ?_⟩
  rcases hrows with ⟨hact, rfl⟩ | rfl
  · exact ⟨v, hw, rfl, hact, hl.2⟩
  · exact ⟨_, Custody.mem_updateWallet_self hw, rfl, rfl, rfl⟩

/-! ## The way to inactive -/

/-- A report that does not list the peer. -/
def GasCall.Omits (peer : String) : GasCall → Prop
  | .report activePeers _ => peer ∉ activePeers
  | _ => False

/-- A report that lists the peer, or a registration of it. -/
def GasCall.Names (peer : String) : GasCall → Prop
  | .report activePeers _ => peer ∈ activePeers
  | .register p _ => p = peer
  | .create _ _ => False

/-- What a call can do to a wallet that is not inactive. -/
theorem step_live (ht : Tidy s) (hs : gasStep s c = some s') (hw : w ∈ s.gasWallets)
    (hl : w.LiveFor peer) :
    ∃ w' ∈ s'.gasWallets, w'.address = w.address ∧
      (w'.LiveFor peer ∧ (w'.status = .active ∨ w'.status = w.status ∧ ¬ c.Names peer ∨
          w'.status = .pending ∧ w.status = .active ∧ c.Omits peer) ∨
        w.status = .pending ∧ c.Omits peer) := by
  cases c with
  | create keypair r =>
      obtain ⟨-, rfl⟩ := gasStep_create hs
      exact ⟨w, List.mem_append_left _ hw, rfl, .inl ⟨hl, .inr (.inl ⟨rfl, id⟩)⟩⟩
  | register p r =>
      obtain ⟨v, key, hv, hr, -, hrows⟩ := gasStep_register hs
      obtain ⟨hvm, hchoice⟩ := Custody.chooseWallet_some hv
      by_cases hp : p = peer
      · subst hp
        obtain ⟨-, w', hw', ha, hact, hpeer⟩ := register_live ht hw hl hr
        exact ⟨w', hw', ha, .inl ⟨⟨by rw [hact]; decide, hpeer⟩, .inl hact⟩⟩
      · -- another peer's registration leaves the row alone
        have hrow : w ∈ s'.gasWallets := by
          rcases hrows with ⟨-, rfl⟩ | rfl
          · exact hw
          · refine Custody.mem_updateWallet_of_ne hw fun ha => ?_
            obtain rfl := List.inj_on_of_nodup_map ht.nodup hw hvm ha
            rcases hchoice with hown | ⟨hidle, -⟩
            · exact hp (Option.some.inj (hown.2.symm.trans hl.2))
            · exact hl.1 hidle
        exact ⟨w, hrow, rfl, .inl ⟨hl, .inr (.inl ⟨rfl, hp⟩)⟩⟩
  | report activePeers r =>
      rw [gasStep_report ht.nodup hs]
      refine ⟨_, List.mem_map_of_mem hw, address_act w w, ?_⟩
      rcases act_cases r activePeers w with ⟨-, hkeep, hcase⟩ | ⟨p, hp, hmove⟩
      · have hact : w.status = .active := by
          rcases hcase with hnone | hne
          · rw [hl.2] at hnone
            cases hnone
          · have := hl.1
            cases hst : w.status <;> simp_all
        rw [reportRow, hkeep]
        exact .inl ⟨hl, .inl hact⟩
      · obtain rfl : p = peer := Option.some.inj (hp.symm.trans hl.2)
        rcases hmove with ⟨-, -, -, hmove⟩ | ⟨hout, hst, -, hmove⟩ | ⟨hout, hst, -⟩
        · rw [reportRow, hmove]
          exact .inl ⟨⟨fun h => (by cases h), rfl⟩, .inl rfl⟩
        · rw [reportRow, hmove]
          exact .inl ⟨⟨fun h => (by cases h), hp⟩, .inr (.inr ⟨rfl, hst, hout⟩)⟩
        · exact .inr ⟨hst, hout⟩

/-- Two reports omit the peer, and no call between them names it. -/
def OmittedTwice (peer : String) (es : List GasCall) : Prop :=
  ∃ l₁ c₁ l₂ c₂ l₃, es = l₁ ++ c₁ :: (l₂ ++ c₂ :: l₃) ∧ c₁.Omits peer ∧ c₂.Omits peer ∧
    ∀ c ∈ l₂, ¬ c.Names peer

theorem OmittedTwice.cons {es : List GasCall} (h : OmittedTwice peer es) (c : GasCall) :
    OmittedTwice peer (c :: es) := by
  obtain ⟨l₁, c₁, l₂, c₂, l₃, rfl, hrest⟩ := h
  exact ⟨c :: l₁, c₁, l₂, c₂, l₃, rfl, hrest⟩

/-- A report omits the peer before any call names it. -/
def OmittedNext (peer : String) (es : List GasCall) : Prop :=
  ∃ l₂ c₂ l₃, es = l₂ ++ c₂ :: l₃ ∧ c₂.Omits peer ∧ ∀ c ∈ l₂, ¬ c.Names peer

/-- **From active, and from pending, to inactive.** By induction on the calls: the wallet stays
its peer's until the last step, and each step back to active starts over. -/
theorem to_inactive : ∀ (es : List GasCall) {s s' : Custody} {w w' : GasWallet}, Stocked s →
    Runs.run gasStep s es = some s' → w ∈ s.gasWallets → w' ∈ s'.gasWallets → w.LiveFor peer →
    w'.address = w.address → w'.status = .inactive →
    OmittedTwice peer es ∨ w.status = .pending ∧ OmittedNext peer es
  | [], s, s', w, w', ht, hr, hw, hw', hl, ha, hi => by
      cases hr
      obtain rfl := List.inj_on_of_nodup_map ht.nodup hw' hw ha
      exact absurd hi hl.1
  | c :: es, s, s', w, w', ht, hr, hw, hw', hl, ha, hi => by
      obtain ⟨s₁, h₁, hr⟩ := Runs.run_cons_some.mp hr
      obtain ⟨w₁, hw₁, ha₁, ⟨hl₁, hcase⟩ | ⟨hst, hom⟩⟩ := step_live ht.toTidy h₁ hw hl
      · rcases to_inactive es (stocked_step ht h₁) hr hw₁ hw' hl₁ (ha.trans ha₁.symm) hi with
          htwice | ⟨hst₁, l₂, c₂, l₃, rfl, hom, hquiet⟩
        · exact .inl (htwice.cons c)
        · rcases hcase with hact | ⟨hsame, hname⟩ | ⟨-, -, hom₁⟩
          · rw [hact] at hst₁
            cases hst₁
          · refine .inr ⟨hsame.symm.trans hst₁, c :: l₂, c₂, l₃, rfl, hom, ?_⟩
            exact List.forall_mem_cons.mpr ⟨hname, hquiet⟩
          · exact .inl ⟨[], c, l₂, c₂, l₃, rfl, hom₁, hom, hquiet⟩
      · exact .inr ⟨hst, [], c, es, rfl, hom, by simp⟩

/--
**Sequential histories of successful calls.** After any of them a wallet is inactive exactly if
it has no peer, and a peer has at most one wallet that is not; a registration of such a peer
returns the key its wallet was created with and leaves the wallet active; and a wallet that is
active now and inactive after more calls has been through two reports that omit its peer, with
no call in between that names the peer.
-/
theorem gas_wallet_history {pre es : List GasCall} {s s' : Custody}
    (hpre : Runs.run gasStep emptyCustody pre = some s) (hes : Runs.run gasStep s es = some s') :
    (∀ w ∈ s.gasWallets, w.status = .inactive ↔ w.peerId = none) ∧
      (∀ peer, (s.gasWallets.filter fun w => decide (w.LiveFor peer)).length ≤ 1) ∧
      (∀ w ∈ s.gasWallets, ∀ peer, w.LiveFor peer → ∀ r key s₁,
        exec (registerGasWallet r peer) s = (.ok key, s₁) →
          (∃ keypair rc, GasCall.create keypair rc ∈ pre ∧ keypair.address = w.address ∧
            keypair.privateKey = key) ∧
          ∃ w' ∈ s₁.gasWallets, w'.address = w.address ∧ w'.status = .active ∧
            w'.peerId = some peer) ∧
      ∀ w ∈ s.gasWallets, ∀ w' ∈ s'.gasWallets, ∀ peer, w.status = .active →
        w.peerId = some peer → w'.address = w.address → w'.status = .inactive →
        OmittedTwice peer es := by
  have ht := stocked_run hpre
  refine ⟨ht.peerless, fun peer => ?_, fun w hw peer hl r key s₁ hr => ?_, ?_⟩
  · have hnd : (s.gasWallets.filter fun w => decide (w.LiveFor peer)).Nodup :=
      (List.Nodup.of_map _ ht.nodup).filter _
    have hmem : ∀ u ∈ s.gasWallets.filter fun w => decide (w.LiveFor peer),
        u ∈ s.gasWallets ∧ u.LiveFor peer := fun u hu =>
      ⟨(List.mem_filter.mp hu).1, of_decide_eq_true (List.mem_filter.mp hu).2⟩
    generalize (s.gasWallets.filter fun w => decide (w.LiveFor peer)) = live at hnd hmem ⊢
    match live with
    | [] => exact Nat.zero_le _
    | [_] => exact Nat.le_refl _
    | w :: v :: rest =>
        obtain ⟨hw, hwl⟩ := hmem w List.mem_cons_self
        obtain ⟨hv, hvl⟩ := hmem v (List.mem_cons_of_mem _ List.mem_cons_self)
        rw [ht.single w hw v hv peer hwl hvl] at hnd
        exact absurd List.mem_cons_self (List.nodup_cons.mp hnd).1
  · obtain ⟨hkey, hleft⟩ := register_live ht.toTidy hw hl hr
    have hnone : Issued [] emptyCustody := fun w hw => by cases hw
    obtain ⟨keypair, rc, hc, hk, hsec⟩ := issued_run pre stocked_empty hnone hpre w hw
    refine ⟨⟨keypair, rc, hc, hk, ?_⟩, hleft⟩
    exact Option.some.inj (hsec.symm.trans hkey)
  · intro w hw w' hw' peer hact hp ha hi
    have hl : w.LiveFor peer := ⟨by rw [hact]; decide, hp⟩
    rcases to_inactive es ht hes hw hw' hl ha hi with htwice | ⟨hpend, -⟩
    · exact htwice
    · rw [hact] at hpend
      cases hpend

/-! ## One wallet through its life -/

def allAnswered : RegisterReplies := ⟨.ok (), .ok (), .ok (), .ok (), .ok (), 0, 0⟩

/-- A report long after. -/
def lateReport : ReportReplies :=
  ⟨.ok (), fun _ => .ok (), fun _ => 1000000000, fun _ => 1000000000⟩

theorem gas_wallet_history_reclaimed :
    ∃ s s', Runs.run gasStep emptyCustody
        [.create ⟨"a1", "key"⟩ ⟨.ok (), .ok ()⟩, .register "peer" allAnswered] = some s ∧
      Runs.run gasStep s [.report [] lateReport, .report [] lateReport] = some s' ∧
      s.gasWallets = [⟨"a1", some "peer", .active, some 0⟩] ∧
      s'.gasWallets = [⟨"a1", none, .inactive, some 0⟩] ∧
      OmittedTwice "peer" [.report [] lateReport, .report [] lateReport] := by
  obtain ⟨s', hall, hrow'⟩ : ∃ s', Runs.run gasStep emptyCustody
        ([.create ⟨"a1", "key"⟩ ⟨.ok (), .ok ()⟩, .register "peer" allAnswered] ++
          [.report [] lateReport, .report [] lateReport]) = some s' ∧
      s'.gasWallets = [⟨"a1", none, .inactive, some 0⟩] :=
    Option.map_eq_some_iff.mp (by decide +kernel)
  rw [Runs.run_append, Option.bind_eq_some_iff] at hall
  obtain ⟨s, hs, hs'⟩ := hall
  have hrow : s.gasWallets = [⟨"a1", some "peer", .active, some 0⟩] := by
    have : (Runs.run gasStep emptyCustody [.create ⟨"a1", "key"⟩ ⟨.ok (), .ok ()⟩,
        .register "peer" allAnswered]).map Custody.gasWallets
          = some [⟨"a1", some "peer", .active, some 0⟩] := by
      decide +kernel
    rw [hs] at this
    exact Option.some.inj this
  refine ⟨s, s', hs, hs', hrow, hrow', ?_⟩
  refine (gas_wallet_history hs hs').2.2.2 ⟨"a1", some "peer", .active, some 0⟩ ?_
    ⟨"a1", none, .inactive, some 0⟩ ?_ "peer" rfl rfl rfl rfl
  · rw [hrow]
    exact List.mem_cons_self
  · rw [hrow']
    exact List.mem_cons_self

end RelayerExtensions.Funds
