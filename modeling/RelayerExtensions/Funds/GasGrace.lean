import RelayerExtensions.Funds.GasHistory

/-!
# Gas wallets: the grace period

A registration protects its wallet by the time written to `activated_at`, and a
report holds an active wallet back while that time is less than the grace period
ago. But only a registration that marks its wallet writes it. One that finds the
wallet active returns the key and leaves the time as it was, maybe days old, so the
next report that omits the peer makes the wallet pending at once. The time is also
that of the mark, while the registration goes on to top up every wallet before it
returns.

The history here has times, all calls may fail, and two pieces of ghost state: when
the last registration to return a wallet ended, and which wallets a report took out
of active although less than the grace period had passed since. None are taken out
exactly in the histories all of whose reports are `Refreshed` (`grace_kept_iff`).
-/

namespace RelayerExtensions.Funds

open Effect

structure Timed where
  custody : Custody
  clock : Nat
  /-- When the last registration that returned the wallet at this address ended. -/
  returnedAt : String → Option Nat
  /-- The wallets a report has taken out of active too early. -/
  early : List String

/-- A call, and when it ended. -/
inductive TimedCall where
  | create (keypair : Keypair) (r : CreateReplies)
  | register (peer : String) (r : RegisterReplies) (ended : Nat)
  | report (activePeers : List String) (r : ReportReplies) (ended : Nat)

namespace Timed

/-- A registration returned the wallet less than the grace period ago. -/
def Recent (t : Timed) (now : Nat) (address : String) : Prop :=
  ∃ ended ∈ t.returnedAt address, now < ended + gasWalletReclaimGrace

instance (t : Timed) (now : Nat) (address : String) : Decidable (t.Recent now address) :=
  match h : t.returnedAt address with
  | none => .isFalse fun ⟨_, hm, _⟩ => by rw [h] at hm; cases hm
  | some ended => decidable_of_iff (now < ended + gasWalletReclaimGrace)
      ⟨fun hlt => ⟨ended, h, hlt⟩, fun ⟨_, hm, hlt⟩ => Option.some.inj (h.symm.trans hm) ▸ hlt⟩

def afterRegister (t : Timed) (peer : String) (r : RegisterReplies) (ended : Nat) :
    String → Option Nat :=
  match (exec (registerGasWallet r peer) t.custody).1, t.custody.chooseWallet r.pick peer with
  | .ok _, some w => Function.update t.returnedAt w.address (some ended)
  | _, _ => t.returnedAt

/-- Active before the report, returned recently, and not active after it. -/
def TakenEarly (t : Timed) (r : ReportReplies) (after : Custody) (w : GasWallet) : Prop :=
  w.status = .active ∧ t.Recent (r.clock w.address) w.address ∧
    ∀ v ∈ after.gasWallets, v.address = w.address → v.status ≠ .active

instance (t : Timed) (r : ReportReplies) (after : Custody) (w : GasWallet) :
    Decidable (t.TakenEarly r after w) :=
  inferInstanceAs (Decidable (_ ∧ _ ∧ _))

/-- The clock is not behind the last call when a wallet's turn comes, and goes on from there. -/
def Forward (t : Timed) (r : ReportReplies) (ended : Nat) : Prop :=
  t.clock ≤ ended ∧ ∀ w ∈ t.custody.gasWallets,
    t.clock ≤ r.clock w.address ∧ r.clock w.address ≤ r.stamp w.address ∧
      r.stamp w.address ≤ ended

instance (t : Timed) (r : ReportReplies) (ended : Nat) : Decidable (t.Forward r ended) :=
  inferInstanceAs (Decidable (_ ∧ _))

end Timed

/-- One call after the other, on a clock that never goes back. Calls may fail, except that a
wallet is there only if its creation succeeded. -/
def timedStep (t : Timed) : TimedCall → Option Timed
  | .create keypair r =>
      (gasStep t.custody (.create keypair r)).map fun s' => { t with custody := s' }
  | .register peer r ended =>
      if t.clock ≤ r.now ∧ r.now ≤ ended then
        some { t with
          custody := (exec (registerGasWallet r peer) t.custody).2
          clock := ended
          returnedAt := t.afterRegister peer r ended }
      else none
  | .report activePeers r ended =>
      if t.Forward r ended then
        let after := (exec (recordActiveGasWallet r activePeers) t.custody).2
        some { t with
          custody := after
          clock := ended
          early := t.early ++ (t.custody.gasWallets.filter fun w =>
            decide (t.TakenEarly r after w)).map GasWallet.address }
      else none

def timedStart : Timed := ⟨emptyCustody, 0, fun _ => none, []⟩

/-- The wallets whose turn comes in a report. -/
def ReportReplies.turns (r : ReportReplies) (activePeers : List String) (s : Custody) :
    List GasWallet :=
  match r.load with
  | .ok () => r.reached activePeers s.gasWallets
  | .error _ => []

/-- When an active wallet's turn comes in a report that omits its peer, and a registration
returned the wallet less than the grace period ago, then it was also marked active less than the
grace period ago. -/
def Refreshed (t : Timed) : TimedCall → Prop
  | .report activePeers r _ => ∀ w ∈ r.turns activePeers t.custody, w.status = .active →
      ∀ peer ∈ w.peerId, peer ∉ activePeers → t.Recent (r.clock w.address) w.address →
        ∃ since ∈ w.activatedAt, r.clock w.address < since + gasWalletReclaimGrace
  | _ => True

instance (t : Timed) : ∀ c, Decidable (Refreshed t c)
  | .report activePeers r _ => inferInstanceAs (Decidable
      (∀ w ∈ r.turns activePeers t.custody, w.status = .active →
        ∀ peer ∈ w.peerId, peer ∉ activePeers → t.Recent (r.clock w.address) w.address →
          ∃ since ∈ w.activatedAt, r.clock w.address < since + gasWalletReclaimGrace))
  | .create _ _ | .register _ _ _ => .isTrue trivial

/-- The table is in order and no wallet was activated in the future. -/
structure Timely (t : Timed) : Prop where
  stocked : Stocked t.custody
  past : ∀ w ∈ t.custody.gasWallets, ∀ since ∈ w.activatedAt, since ≤ t.clock

variable {t t' : Timed} {c : TimedCall} {s : Custody} {r : ReportReplies}
  {activePeers : List String} {w : GasWallet}

theorem timely_start : Timely timedStart := ⟨stocked_empty, fun w hw => by cases hw⟩

/-! ## One call -/

/-- What a report makes of a row, whether or not it gets to it. -/
def turnRow (r : ReportReplies) (activePeers : List String) (s : Custody) (w : GasWallet) :
    GasWallet :=
  if w ∈ r.turns activePeers s then r.act activePeers w w else w

theorem record_after (hnd : (s.gasWallets.map GasWallet.address).Nodup) :
    (exec (recordActiveGasWallet r activePeers) s).2 =
      ⟨s.gasWallets.map (turnRow r activePeers s), s.secrets⟩ := by
  unfold turnRow ReportReplies.turns
  cases hl : r.load with
  | error msg =>
      have : (exec (recordActiveGasWallet r activePeers) s).2 = s := by
        simp [recordActiveGasWallet, onDb, answered, hl]
      simp [this]
  | ok u =>
      have hrun : exec (recordActiveGasWallet r activePeers) s =
          exec (reportWallets r activePeers s.gasWallets) s := by
        simp [recordActiveGasWallet, onDb, answered, hl, exec_bind]
      rcases hout : exec (reportWallets r activePeers s.gasWallets) s with ⟨res, s'⟩
      rw [hrun, hout]
      obtain ⟨rfl, -⟩ := reportWallets_cases hout
      exact congrArg (Custody.mk · s.secrets) (gasWallets_sweep hnd)

theorem turnRow_cases (w : GasWallet) :
    turnRow r activePeers s w = w ∨ turnRow r activePeers s w = r.act activePeers w w := by
  unfold turnRow
  split
  · exact .inr rfl
  · exact .inl rfl

theorem address_turnRow (w : GasWallet) : (turnRow r activePeers s w).address = w.address := by
  rcases @turnRow_cases s r activePeers w with h | h <;> rw [h]
  exact address_act w w

/-- A report writes no other time than its own. -/
theorem activatedAt_turnRow (w : GasWallet) :
    (turnRow r activePeers s w).activatedAt = w.activatedAt ∨
      (turnRow r activePeers s w).activatedAt = some (r.stamp w.address) := by
  rcases @turnRow_cases s r activePeers w with h | h <;> rw [h]
  · exact .inl rfl
  · rcases act_cases r activePeers w with ⟨-, h, -⟩ | ⟨p, -, hmove⟩
    · exact .inl (by rw [h]; rfl)
    · rcases hmove with ⟨-, -, -, h⟩ | ⟨-, -, -, h⟩ | ⟨-, -, -, h⟩ <;> rw [h]
      · exact .inr rfl
      · exact .inl rfl
      · exact .inl rfl

theorem stocked_turns (h : Stocked s) :
    Stocked ⟨s.gasWallets.map (turnRow r activePeers s), s.secrets⟩ := by
  have hmoved : ∀ w ∈ s.gasWallets, Moved w (turnRow r activePeers s w) := fun w _ => by
    rcases @turnRow_cases s r activePeers w with heq | heq <;> rw [heq]
    · exact .kept
    · exact moved_act r activePeers w
  refine ⟨h.toTidy.moved hmoved rfl, fun w hw => ?_⟩
  obtain ⟨v, hv, rfl⟩ := List.mem_map.mp hw
  rw [address_turnRow]
  exact h.sealed v hv

theorem timely_step (h : Timely t) (hs : timedStep t c = some t') : Timely t' := by
  cases c with
  | create keypair r =>
      obtain ⟨s', hs', rfl⟩ := Option.map_eq_some_iff.mp hs
      refine ⟨stocked_step h.stocked hs', fun w hw since hsince => ?_⟩
      obtain ⟨-, rfl⟩ := gasStep_create hs'
      rcases List.mem_append.mp hw with hw | hw
      · exact h.past w hw since hsince
      · obtain rfl := List.mem_singleton.mp hw
        cases hsince
  | register peer r ended =>
      rw [timedStep] at hs
      split at hs
      · rename_i htime
        cases hs
        rcases hout : exec (registerGasWallet r peer) t.custody with ⟨res, s'⟩
        have hold : ∀ w ∈ t.custody.gasWallets, ∀ since ∈ w.activatedAt, since ≤ ended :=
          fun w hw since hsince =>
            Nat.le_trans (h.past w hw since hsince) (Nat.le_trans htime.1 htime.2)
        rcases registerGasWallet_cases hout with ⟨rfl, -⟩ | ⟨w, hw, -, rfl, -⟩
        · exact ⟨h.stocked, hold⟩
        · refine ⟨stocked_register h.stocked hw, fun v hv since hsince => ?_⟩
          rcases Custody.mem_updateWallet hv with ⟨hv, -⟩ | ⟨u, -, -, rfl⟩
          · exact hold v hv since hsince
          · obtain rfl : r.now = since := Option.some.inj hsince
            exact htime.2
      · cases hs
  | report activePeers r ended =>
      rw [timedStep] at hs
      split at hs
      · rename_i htime
        cases hs
        rw [record_after h.stocked.nodup]
        refine ⟨stocked_turns h.stocked, fun v hv since hsince => ?_⟩
        obtain ⟨u, hu, rfl⟩ := List.mem_map.mp hv
        rcases @activatedAt_turnRow t.custody r activePeers u with heq | heq
        · rw [heq] at hsince
          exact Nat.le_trans (h.past u hu since hsince) htime.1
        · rw [heq] at hsince
          obtain rfl := Option.some.inj hsince
          exact (htime.2 u hu).2.2
      · cases hs

/-! ## Who is taken early -/

/-- On a clock that does not go back the age is what has passed. -/
theorem withinGrace_iff (hpast : ∀ since ∈ w.activatedAt, since ≤ r.clock w.address) :
    r.WithinGrace w ↔
      ∃ since ∈ w.activatedAt, r.clock w.address < since + gasWalletReclaimGrace := by
  unfold ReportReplies.WithinGrace
  cases hs : w.activatedAt with
  | none => simp
  | some since =>
      have hle := hpast since hs
      simp only [Option.bind_some, elapsed, if_pos hle, Option.some.injEq, exists_eq_left',
        Option.mem_def]
      omega

/-- An active wallet leaves that state exactly if its turn comes, its peer is omitted and the
wallet is not held. -/
theorem active_turnRow_iff (hact : w.status = .active) :
    (turnRow r activePeers s w).status = .active ↔
      (w ∈ r.turns activePeers s → ∀ peer ∈ w.peerId, peer ∉ activePeers → r.WithinGrace w) := by
  unfold turnRow
  split
  · rename_i hturn
    simp only [hturn, true_implies]
    cases hp : w.peerId with
    | none => simp [act_peerless hp, hact]
    | some peer =>
        simp only [Option.mem_def, Option.some.injEq, forall_eq']
        by_cases hin : peer ∈ activePeers
        · simp [act_present hp hin, hact, hin]
        · obtain ⟨hheld, hstep, -⟩ := @act_absent r activePeers peer w hp hin
          by_cases hg : r.WithinGrace w
          · simp [hheld hact hg, hact, hg]
          · simp [hstep hact hg, setPending, hin, hg]
  · rename_i hturn
    simp [hact, hturn]

/-- No wallet is taken early in a report exactly if the report is refreshed. -/
theorem taken_early_iff (h : Timely t) {ended : Nat} (htime : t.Forward r ended) :
    (∀ w ∈ t.custody.gasWallets,
        ¬ t.TakenEarly r (exec (recordActiveGasWallet r activePeers) t.custody).2 w) ↔
      Refreshed t (.report activePeers r ended) := by
  rw [record_after h.stocked.nodup]
  -- the row after the report is the one made of the row before it
  have hrow : ∀ w ∈ t.custody.gasWallets, t.TakenEarly r
      ⟨t.custody.gasWallets.map (turnRow r activePeers t.custody), t.custody.secrets⟩ w ↔
        w.status = .active ∧ t.Recent (r.clock w.address) w.address ∧
          (turnRow r activePeers t.custody w).status ≠ .active := by
    intro w hw
    refine and_congr_right fun _ => and_congr_right fun _ => ?_
    constructor
    · exact fun hall => hall _ (List.mem_map_of_mem hw) (address_turnRow w)
    · intro hne v hv hva
      obtain ⟨u, hu, rfl⟩ := List.mem_map.mp hv
      rw [address_turnRow] at hva
      rwa [List.inj_on_of_nodup_map h.stocked.nodup hu hw hva]
  have hturns : ∀ w ∈ r.turns activePeers t.custody, w ∈ t.custody.gasWallets := by
    intro w hw
    unfold ReportReplies.turns at hw
    split at hw
    · exact (reached_isInitial r activePeers _).sublist.subset hw
    · cases hw
  have hgrace : ∀ w ∈ t.custody.gasWallets, r.WithinGrace w ↔
      ∃ since ∈ w.activatedAt, r.clock w.address < since + gasWalletReclaimGrace :=
    fun w hw => withinGrace_iff fun since hs =>
      Nat.le_trans (h.past w hw since hs) (htime.2 w hw).1
  constructor
  · intro hnone w hw hact peer hp hout hrec
    have hw' := hturns w hw
    refine (hgrace w hw').mp ?_
    by_contra hg
    refine hnone w hw' ((hrow w hw').mpr ⟨hact, hrec, fun hkept => ?_⟩)
    exact hg ((active_turnRow_iff hact).mp hkept hw peer hp hout)
  · intro hC w hw hearly
    obtain ⟨hact, hrec, hlost⟩ := (hrow w hw).mp hearly
    refine hlost ((active_turnRow_iff hact).mpr fun hturn peer hp hout => ?_)
    exact (hgrace w hw).mpr (hC w hturn hact peer hp hout hrec)

theorem early_step (h : Timely t ∧ t.early = []) (hs : timedStep t c = some t') :
    Timely t' ∧ t'.early = [] ↔ Refreshed t c := by
  rw [and_iff_right (timely_step h.1 hs)]
  cases c with
  | create keypair r =>
      obtain ⟨s', -, rfl⟩ := Option.map_eq_some_iff.mp hs
      exact ⟨fun _ => trivial, fun _ => h.2⟩
  | register peer r ended =>
      rw [timedStep] at hs
      split at hs
      · cases hs
        exact ⟨fun _ => trivial, fun _ => h.2⟩
      · cases hs
  | report activePeers r ended =>
      rw [timedStep] at hs
      split at hs
      · rename_i htime
        cases hs
        rw [← taken_early_iff h.1 htime]
        simp [h.2, List.filter_eq_nil_iff]
      · cases hs

/--
**When the grace period protects a wallet.** In a history of creations, registrations and
reports, one after the other on a clock that does not go back, no report takes a wallet out of
active less than the grace period after a registration returned it, exactly if at every report
the wallets that were returned that recently and whose peer is omitted were also marked active
that recently.
-/
theorem grace_kept_iff (es : List TimedCall) {t : Timed}
    (hr : Runs.run timedStep timedStart es = some t) :
    Runs.Always timedStep (fun t => t.early = []) timedStart es ↔
      Runs.Meets timedStep Refreshed timedStart es := by
  rw [← Runs.Always.and_invariant (fun _ _ _ => timely_step) es timely_start]
  exact Runs.always_iff_meets (fun _ _ _ => early_step) es ⟨timely_start, rfl⟩ hr

/-! ## A worker that boots twice -/

def created : TimedCall := .create ⟨"a1", "key"⟩ ⟨.ok (), .ok ()⟩

/-- A registration that is answered at once. -/
def registeredAt (now : Nat) : TimedCall :=
  .register "peer" ⟨.ok (), .ok (), .ok (), .ok (), .ok (), 0, now⟩ now

def reportedAt (now : Nat) (activePeers : List String) : TimedCall :=
  .report activePeers ⟨.ok (), fun _ => .ok (), fun _ => now, fun _ => now⟩ now

/-- The worker registers, runs for an hour, and registers again when it is rebooted. The report
one second later does not list it yet, and makes its wallet pending. -/
theorem rebooted_worker_loses_wallet :
    ∃ t, Runs.run timedStep timedStart [created, registeredAt 0, reportedAt 3600000000 ["peer"],
        registeredAt 3600000000, reportedAt 3601000000 []] = some t ∧
      t.early = ["a1"] ∧ t.custody.gasWallets = [⟨"a1", some "peer", .pending, some 0⟩] := by
  obtain ⟨t, ht, hpart⟩ := Option.map_eq_some_iff.mp (show (Runs.run timedStep timedStart
      [created, registeredAt 0, reportedAt 3600000000 ["peer"], registeredAt 3600000000,
        reportedAt 3601000000 []]).map (fun t => (t.early, t.custody.gasWallets))
        = some (["a1"], [⟨"a1", some "peer", .pending, some 0⟩]) by decide +kernel)
  exact ⟨t, ht, (Prod.ext_iff.mp hpart).1, (Prod.ext_iff.mp hpart).2⟩

/-- A worker that registers once is safe from a report a second later. -/
theorem grace_kept_booting :
    ∃ t, Runs.run timedStep timedStart [created, registeredAt 0, reportedAt 1000000 []] = some t ∧
      Runs.Always timedStep (fun t => t.early = []) timedStart
        [created, registeredAt 0, reportedAt 1000000 []] := by
  obtain ⟨t, ht, -⟩ := Option.map_eq_some_iff.mp (show (Runs.run timedStep timedStart
      [created, registeredAt 0, reportedAt 1000000 []]).map (fun t => t.clock) = some 1000000 by
    decide +kernel)
  exact ⟨t, ht, (grace_kept_iff _ ht).mpr (by decide +kernel)⟩

end RelayerExtensions.Funds
