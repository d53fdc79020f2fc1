import RelayerExtensions.Lib.Effect
import RelayerExtensions.Lib.Rows
import RelayerExtensions.Lib.Runs

/-!
# The compliance server

A check of a wallet (`compliance-server/src/main.rs`) looks for an assessment of the wallet in a
table, and asks a risk API for one if there is none or if it has expired. What the API answers is
put into the table, for seven days (`db.rs`, `chainalysis_api.rs`).

The row that is looked for is the one under the address as the request spells it; the row that is
written is the one under the address as the response spells it. Where these differ in letter case,
the next check of the same wallet does not find the row, and asks again.

So every status that is returned comes from an assessment that is at most seven days old. But that
an assessment is not asked for again while it lasts holds exactly if the API gives back, with the
assessments that come to be stored, the addresses as it gets them (`statuses_cached_iff`,
`other_spelling_queried_again`).

Checks come one after the other here, and any call of one may fail. Instants are in microseconds,
which is what the table stores.
-/

namespace RelayerExtensions.Compliance

inductive ComplianceServerError where
  | db (e : String)
  | chainalysis (e : String)
deriving DecidableEq

inductive ComplianceStatus where
  | compliant
  | notCompliant (reason : String)
deriving DecidableEq

/-- Seven days. -/
def defaultExpirationDuration : Nat := 7 * 24 * 60 * 60 * 1_000_000

structure ComplianceEntry where
  address : String
  isCompliant : Bool
  riskLevel : String
  reason : String
  createdAt : Nat
  expiresAt : Nat
deriving DecidableEq

namespace ComplianceEntry

def new (address : String) (isCompliant : Bool) (riskLevel reason : String) (now : Nat) :
    ComplianceEntry :=
  { address := address
    isCompliant := isCompliant
    riskLevel := riskLevel
    reason := reason
    createdAt := now
    expiresAt := now + defaultExpirationDuration }

def complianceStatus (entry : ComplianceEntry) : ComplianceStatus :=
  if entry.isCompliant then .compliant else .notCompliant entry.reason

def isExpired (entry : ComplianceEntry) (now : Nat) : Bool := entry.expiresAt < now

end ComplianceEntry

structure RiskAssessmentResponse where
  address : String
  risk : String
  riskReason : Option String
deriving DecidableEq

def RiskAssessmentResponse.asComplianceEntry (r : RiskAssessmentResponse) (now : Nat) :
    ComplianceEntry :=
  let compliant :=
    match r.risk with
    | "Low" | "Medium" => true
    | "High" | "Severe" => false
    | _ => true
  .new r.address compliant r.risk (r.riskReason.getD "") now

/-! ## A check -/

/-- The table, and what has gone on with the API: who it was asked about, and the assessments that
it gave, with the instants at which they came. -/
structure Store where
  table : List ComplianceEntry
  queried : List String
  fetched : List (RiskAssessmentResponse × Nat)
deriving DecidableEq

/-- A request, the replies to the calls that it makes, and two instants: when it looks into the
table, and when it is done with the API. -/
structure Check where
  walletAddress : String
  pool : Except String Unit
  load : Except String Unit
  lookupAt : Nat
  register : Except String Unit
  assessment : Except String RiskAssessmentResponse
  doneAt : Nat
  upsert : Except String Unit

abbrev Server := Effect ComplianceServerError Store

/-- `load` gives all rows, of which the first one counts. -/
def getComplianceEntry (address : String) (load : Except String Unit) (now : Nat) :
    Server (Option ComplianceEntry) := do
  Effect.ofExcept (load.mapError .db)
  let query ← Effect.look fun s => s.table.filter fun entry => entry.address == address
  match query.head? with
  | some entry => if entry.isExpired now then return none else return some entry
  | none => return none

/-- `INSERT .. ON CONFLICT (address) DO UPDATE` -/
def upsertRows (entry : ComplianceEntry) (table : List ComplianceEntry) : List ComplianceEntry :=
  if entry.address ∈ table.map (·.address) then
    Rows.update (·.address) entry.address
      (fun row => { row with
        isCompliant := entry.isCompliant
        riskLevel := entry.riskLevel
        reason := entry.reason
        createdAt := entry.createdAt
        expiresAt := entry.expiresAt }) table
  else table ++ [entry]

def upsertComplianceEntry (entry : ComplianceEntry) (upsert : Except String Unit) :
    Server Unit := do
  Effect.ofExcept (upsert.mapError .db)
  modify fun s => { s with table := upsertRows entry s.table }

def queryChainalysis (c : Check) : Server ComplianceEntry := do
  modify fun s => { s with queried := s.queried ++ [c.walletAddress] }
  Effect.ofExcept (c.register.mapError .chainalysis)
  let riskAssessment ← Effect.ofExcept (c.assessment.mapError .chainalysis)
  modify fun s => { s with fetched := s.fetched ++ [(riskAssessment, c.doneAt)] }
  return riskAssessment.asComplianceEntry c.doneAt

/-- The entry that a check goes by. -/
def complianceEntry (c : Check) : Server ComplianceEntry := do
  Effect.ofExcept (c.pool.mapError .db)
  match ← getComplianceEntry c.walletAddress c.load c.lookupAt with
  | some entry => return entry
  | none =>
      let entry ← queryChainalysis c
      upsertComplianceEntry entry c.upsert
      return entry

def checkWalletCompliance (c : Check) : Server ComplianceStatus := do
  return (← complianceEntry c).complianceStatus

/-! ## What a check can do -/

def lookup (table : List ComplianceEntry) (address : String) : Option ComplianceEntry :=
  table.find? fun entry => entry.address == address

/-- There is no such row, or it has expired. -/
def Missed (table : List ComplianceEntry) (c : Check) : Prop :=
  ∀ entry ∈ lookup table c.walletAddress, entry.expiresAt < c.lookupAt

/-- The calls that have nothing to tell are answered. -/
structure Check.Answered (c : Check) : Prop where
  pool : c.pool = .ok ()
  load : c.load = .ok ()
  register : c.register = .ok ()
  upsert : c.upsert = .ok ()

inductive Checked (s : Store) (c : Check) : Except ComplianceServerError ComplianceEntry → Store →
    Prop where
  | unread (e : ComplianceServerError) (hfailed : c.pool ≠ .ok () ∨ c.load ≠ .ok ()) :
      Checked s c (.error e) s
  | hit {entry : ComplianceEntry} (hfound : lookup s.table c.walletAddress = some entry)
      (hlasts : c.lookupAt ≤ entry.expiresAt) : Checked s c (.ok entry) s
  | unanswered (e : ComplianceServerError) (hmissed : Missed s.table c)
      (hfailed : c.register = .ok () → ∀ r, c.assessment ≠ .ok r) :
      Checked s c (.error e) { s with queried := s.queried ++ [c.walletAddress] }
  | unsaved {r : RiskAssessmentResponse} (e : ComplianceServerError)
      (hmissed : Missed s.table c) (hfailed : c.upsert ≠ .ok ()) :
      Checked s c (.error e)
        { s with
          queried := s.queried ++ [c.walletAddress]
          fetched := s.fetched ++ [(r, c.doneAt)] }
  | fetched {r : RiskAssessmentResponse} (hmissed : Missed s.table c) (hanswered : c.Answered)
      (hr : c.assessment = .ok r) :
      Checked s c (.ok (r.asComplianceEntry c.doneAt))
        { table := upsertRows (r.asComplianceEntry c.doneAt) s.table
          queried := s.queried ++ [c.walletAddress]
          fetched := s.fetched ++ [(r, c.doneAt)] }

section Checks

variable {s s' : Store} {c : Check} {res : Except ComplianceServerError ComplianceEntry}

theorem getComplianceEntry_cases {address : String} {load : Except String Unit} {now : Nat}
    {res : Except ComplianceServerError (Option ComplianceEntry)}
    (h : Effect.exec (getComplianceEntry address load now) s = (res, s')) :
    s' = s ∧ (load = .ok () → ∃ found, res = .ok found) ∧ ∀ found, res = .ok found →
      load = .ok () ∧
        found = (lookup s.table address).filter fun entry => !entry.isExpired now := by
  unfold getComplianceEntry at h
  rcases Effect.exec_bind_cases h with ⟨e, hload, rfl⟩ | ⟨u, s₁, hload, hlook⟩
  · obtain ⟨rfl, herror⟩ := Effect.exec_ofExcept_inv hload
    refine ⟨rfl, fun hok => ?_, fun found hfound => (by cases hfound)⟩
    rw [hok] at herror
    cases herror
  · obtain ⟨rfl, hok⟩ := Effect.exec_ofExcept_inv hload
    rw [Effect.exec_look_bind, List.head?_filter] at hlook
    have hanswer : res = .ok ((lookup s₁.table address).filter fun entry => !entry.isExpired now) ∧
        s' = s₁ := by
      unfold lookup
      cases hfind : s₁.table.find? fun entry => entry.address == address with
      | none =>
          rw [hfind] at hlook
          cases hlook
          exact ⟨rfl, rfl⟩
      | some entry =>
          rw [hfind] at hlook
          dsimp only at hlook
          rw [Option.filter_some]
          split at hlook
          · next hexpired =>
              cases hlook
              simp [hexpired]
          · next hexpired =>
              cases hlook
              simp [hexpired]
    obtain ⟨rfl, rfl⟩ := hanswer
    refine ⟨rfl, fun _ => ⟨_, rfl⟩, fun found hfound => ?_⟩
    cases hfound
    exact ⟨Effect.mapError_ok.mp hok, rfl⟩

theorem queryChainalysis_cases (h : Effect.exec (queryChainalysis c) s = (res, s')) :
    (∃ e, res = .error e ∧ (c.register = .ok () → ∀ r, c.assessment ≠ .ok r) ∧
      s' = { s with queried := s.queried ++ [c.walletAddress] }) ∨
    ∃ r, c.register = .ok () ∧ c.assessment = .ok r ∧ res = .ok (r.asComplianceEntry c.doneAt) ∧
      s' = { s with
        queried := s.queried ++ [c.walletAddress]
        fetched := s.fetched ++ [(r, c.doneAt)] } := by
  unfold queryChainalysis at h
  rw [Effect.exec_bind_of_ok (Effect.exec_modify _ s)] at h
  rcases Effect.exec_bind_cases h with ⟨e, hregister, rfl⟩ | ⟨u, s₁, hregister, hrest⟩
  · obtain ⟨rfl, herror⟩ := Effect.exec_ofExcept_inv hregister
    refine .inl ⟨e, rfl, fun hok => ?_, rfl⟩
    rw [hok] at herror
    cases herror
  obtain ⟨rfl, hregistered⟩ := Effect.exec_ofExcept_inv hregister
  rcases Effect.exec_bind_cases hrest with ⟨e, hquery, rfl⟩ | ⟨r, s₁, hquery, hlog⟩
  · obtain ⟨rfl, herror⟩ := Effect.exec_ofExcept_inv hquery
    refine .inl ⟨e, rfl, fun _ r hr => ?_, rfl⟩
    rw [hr] at herror
    cases herror
  obtain ⟨rfl, hr⟩ := Effect.exec_ofExcept_inv hquery
  cases hlog
  exact .inr ⟨r, Effect.mapError_ok.mp hregistered, Effect.mapError_ok.mp hr, rfl, rfl⟩

theorem upsertComplianceEntry_cases {entry : ComplianceEntry} {upsert : Except String Unit}
    {res : Except ComplianceServerError Unit}
    (h : Effect.exec (upsertComplianceEntry entry upsert) s = (res, s')) :
    (∃ e, res = .error e ∧ upsert ≠ .ok () ∧ s' = s) ∨
      res = .ok () ∧ upsert = .ok () ∧ s' = { s with table := upsertRows entry s.table } := by
  unfold upsertComplianceEntry at h
  rcases Effect.exec_bind_cases h with ⟨e, hreply, rfl⟩ | ⟨u, s₁, hreply, hrest⟩
  · obtain ⟨rfl, herror⟩ := Effect.exec_ofExcept_inv hreply
    refine .inl ⟨e, rfl, fun hok => ?_, rfl⟩
    rw [hok] at herror
    cases herror
  · obtain ⟨rfl, hok⟩ := Effect.exec_ofExcept_inv hreply
    cases hrest
    exact .inr ⟨rfl, Effect.mapError_ok.mp hok, rfl⟩

/-- **What a check can do.** -/
theorem complianceEntry_cases (h : Effect.exec (complianceEntry c) s = (res, s')) :
    Checked s c res s' := by
  unfold complianceEntry at h
  rcases Effect.exec_bind_cases h with ⟨e, hpool, rfl⟩ | ⟨u, s₁, hpool, hrest⟩
  · obtain ⟨rfl, herror⟩ := Effect.exec_ofExcept_inv hpool
    refine .unread e (.inl fun hok => ?_)
    rw [hok] at herror
    cases herror
  obtain ⟨rfl, hpooled⟩ := Effect.exec_ofExcept_inv hpool
  rcases Effect.exec_bind_cases hrest with ⟨e, hget, rfl⟩ | ⟨found, s₂, hget, hfound⟩
  · obtain ⟨rfl, hload, -⟩ := getComplianceEntry_cases hget
    refine .unread e (.inr fun hok => ?_)
    obtain ⟨found, hfound⟩ := hload hok
    cases hfound
  obtain ⟨rfl, -, hlookup⟩ := getComplianceEntry_cases hget
  obtain ⟨hload, hlookup⟩ := hlookup found rfl
  cases found with
  | some entry =>
      cases hfound
      obtain ⟨hentry, hlasts⟩ := Option.filter_eq_some_iff.mp hlookup.symm
      refine .hit hentry ?_
      simpa [ComplianceEntry.isExpired] using hlasts
  | none =>
      have hmissed : Missed s₂.table c := by
        intro entry hentry
        have hexpired := Option.filter_eq_none_iff.mp hlookup.symm entry hentry
        simpa [ComplianceEntry.isExpired] using hexpired
      rcases Effect.exec_bind_cases hfound with ⟨e, hquery, rfl⟩ | ⟨entry, s₃, hquery, hsave⟩
      · rcases queryChainalysis_cases hquery with ⟨e', he, hfailed, rfl⟩ | ⟨r, -, -, he, -⟩
        · exact .unanswered e hmissed hfailed
        · cases he
      rcases queryChainalysis_cases hquery with ⟨e, he, -⟩ | ⟨r, hregister, hr, he, rfl⟩
      · cases he
      cases he
      rcases Effect.exec_bind_cases hsave with ⟨e, hupsert, rfl⟩ | ⟨u, s₄, hupsert, hreturn⟩
      · rcases upsertComplianceEntry_cases hupsert with ⟨e', he, hfailed, rfl⟩ | ⟨he, -⟩
        · exact .unsaved e hmissed hfailed
        · cases he
      · rcases upsertComplianceEntry_cases hupsert with ⟨e', he, -⟩ | ⟨he, hupserted, rfl⟩
        · cases he
        · cases hreturn
          exact .fetched hmissed ⟨Effect.mapError_ok.mp hpooled, hload, hregister, hupserted⟩ hr

/-- What is returned is the status of that entry. -/
theorem exec_checkWalletCompliance (c : Check) (s : Store) :
    Effect.exec (checkWalletCompliance c) s =
      ((Effect.exec (complianceEntry c) s).1.map ComplianceEntry.complianceStatus,
        (Effect.exec (complianceEntry c) s).2) := by
  rw [← Effect.exec_map, ← bind_pure_comp]
  rfl

end Checks

/-! ## The table -/

section Tables

variable {table : List ComplianceEntry} {entry row : ComplianceEntry} {address : String}

theorem lookup_some (h : lookup table address = some entry) :
    entry ∈ table ∧ entry.address = address := by
  refine ⟨List.mem_of_find?_eq_some h, ?_⟩
  simpa using List.find?_some h

/-- Where the addresses are the same, all of the row is replaced. -/
theorem upsertRows_of_mem (h : entry.address ∈ table.map (·.address)) :
    upsertRows entry table =
      table.map fun row => if row.address = entry.address then entry else row := by
  unfold upsertRows Rows.update
  rw [if_pos h]
  refine List.map_congr_left fun row _ => ?_
  split
  · next heq =>
      cases entry
      cases heq
      rfl
  · rfl

theorem mem_upsertRows (h : row ∈ upsertRows entry table) : row ∈ table ∨ row = entry := by
  by_cases hmem : entry.address ∈ table.map (·.address)
  · rw [upsertRows_of_mem hmem] at h
    obtain ⟨old, hold, heq⟩ := List.mem_map.mp h
    split at heq
    · exact .inr heq.symm
    · exact .inl (heq ▸ hold)
  · unfold upsertRows at h
    rw [if_neg hmem] at h
    exact (List.mem_append.mp h).imp_right List.mem_singleton.mp

theorem lookup_replaced (hne : entry.address ≠ address) (table : List ComplianceEntry) :
    lookup (table.map fun row => if row.address = entry.address then entry else row) address =
      lookup table address := by
  unfold lookup
  induction table with
  | nil => rfl
  | cons row table ih =>
      rw [List.map_cons, List.find?_cons, List.find?_cons, ih]
      by_cases hrow : row.address = entry.address
      · rw [if_pos hrow, beq_false_of_ne hne, beq_false_of_ne (hrow ▸ hne)]
      · rw [if_neg hrow]

theorem lookup_replaced_self (h : entry.address ∈ table.map (·.address)) :
    lookup (table.map fun row => if row.address = entry.address then entry else row)
      entry.address = some entry := by
  unfold lookup
  induction table with
  | nil => cases h
  | cons row table ih =>
      rw [List.map_cons, List.find?_cons]
      by_cases hrow : row.address = entry.address
      · rw [if_pos hrow, beq_self_eq_true]
      · rw [if_neg hrow, beq_false_of_ne hrow]
        refine ih ?_
        exact (List.mem_cons.mp h).resolve_left fun heq => hrow heq.symm

theorem lookup_of_not_mem (h : address ∉ table.map (·.address)) : lookup table address = none := by
  refine List.find?_eq_none.mpr fun row hrow heq => h ?_
  exact List.mem_map.mpr ⟨row, hrow, by simpa using heq⟩

/-- What is found after an upsert. -/
theorem lookup_upsertRows (entry : ComplianceEntry) (table : List ComplianceEntry)
    (address : String) :
    lookup (upsertRows entry table) address =
      if entry.address = address then some entry else lookup table address := by
  by_cases hmem : entry.address ∈ table.map (·.address)
  · rw [upsertRows_of_mem hmem]
    split
    · next heq =>
        subst heq
        exact lookup_replaced_self hmem
    · next hne => exact lookup_replaced hne table
  · have happend : lookup (upsertRows entry table) address =
        (lookup table address).or (lookup [entry] address) := by
      unfold upsertRows lookup
      rw [if_neg hmem, List.find?_append]
    rw [happend]
    split
    · next heq =>
        subst heq
        rw [lookup_of_not_mem hmem]
        simp [lookup]
    · next hne => simp [lookup, hne]

end Tables

/-! ## Histories -/

/-- A check that was answered, when, and by which entry. -/
structure Answer where
  walletAddress : String
  answeredAt : Nat
  entry : ComplianceEntry
deriving DecidableEq

structure Screening where
  store : Store
  clock : Nat
  answers : List Answer
deriving DecidableEq

namespace Screening

def new : Screening := ⟨⟨[], [], []⟩, 0, []⟩

/-- A check, which does not begin before the last one has ended. It ends when it has found an
entry, or with the API. -/
def step (s : Screening) (c : Check) : Option Screening :=
  if s.clock ≤ c.lookupAt ∧ c.lookupAt ≤ c.doneAt then
    let store := (Effect.exec (complianceEntry c) s.store).2
    let now := if store.queried = s.store.queried then c.lookupAt else c.doneAt
    match (Effect.exec (complianceEntry c) s.store).1 with
    | .ok entry => some ⟨store, now, s.answers ++ [⟨c.walletAddress, now, entry⟩]⟩
    | .error _ => some ⟨store, now, s.answers⟩
  else none

/-- The answer to a check comes from an assessment of the wallet, up to letter case, that was
fetched no longer ago than an entry lasts. Any way of folding case will do. -/
def Derived {γ : Type} (foldCase : String → γ) (s : Screening) (a : Answer) : Prop :=
  ∃ r t, (r, t) ∈ s.store.fetched ∧ foldCase r.address = foldCase a.walletAddress ∧
    a.entry = r.asComplianceEntry t ∧ t ≤ a.answeredAt ∧
    a.answeredAt ≤ t + defaultExpirationDuration

/-- Whatever comes next: a check of a wallet that has been answered makes no call to the API, as
long as the entry that the answer came from has not expired. -/
def Quiet (s : Screening) : Prop :=
  ∀ a ∈ s.answers, ∀ c : Check, c.walletAddress = a.walletAddress → s.clock ≤ c.lookupAt →
    a.entry.isExpired c.lookupAt = false →
      (Effect.exec (complianceEntry c) s.store).2.queried = s.store.queried

/-- If an assessment is asked for and given, and all other calls are answered, it is one of the
address as the request spells it. -/
def Spelled (s : Screening) (c : Check) : Prop :=
  Missed s.store.table c → c.Answered → ∀ r, c.assessment = .ok r → r.address = c.walletAddress

/-- The API gives back the address of the request, up to letter case. -/
def SameUpToCase {γ : Type} (foldCase : String → γ) (c : Check) : Prop :=
  ∀ r, c.assessment = .ok r → foldCase r.address = foldCase c.walletAddress

/-- What a step can be. -/
inductive Steps (s : Screening) (c : Check) : Screening → Prop where
  | failed {store : Store} {now : Nat} (hclock : s.clock ≤ now)
      (htable : store.table = s.store.table) (hlog : ∀ x ∈ s.store.fetched, x ∈ store.fetched)
      (hfailed : c.Answered → ∀ r, c.assessment ≠ .ok r) :
      Steps s c ⟨store, now, s.answers⟩
  | hit {entry : ComplianceEntry} (hclock : s.clock ≤ c.lookupAt)
      (hfound : lookup s.store.table c.walletAddress = some entry)
      (hlasts : c.lookupAt ≤ entry.expiresAt) :
      Steps s c ⟨s.store, c.lookupAt, s.answers ++ [⟨c.walletAddress, c.lookupAt, entry⟩]⟩
  | fetched {r : RiskAssessmentResponse} (hclock : s.clock ≤ c.lookupAt)
      (hdone : c.lookupAt ≤ c.doneAt) (hmissed : Missed s.store.table c)
      (hanswered : c.Answered) (hr : c.assessment = .ok r) :
      Steps s c
        { store :=
            { table := upsertRows (r.asComplianceEntry c.doneAt) s.store.table
              queried := s.store.queried ++ [c.walletAddress]
              fetched := s.store.fetched ++ [(r, c.doneAt)] }
          clock := c.doneAt
          answers := s.answers ++ [⟨c.walletAddress, c.doneAt, r.asComplianceEntry c.doneAt⟩] }

section Steps

variable {s s' : Screening} {c : Check} {γ : Type} {foldCase : String → γ}

theorem step_cases (h : s.step c = some s') : Steps s c s' := by
  unfold step at h
  split at h
  · next hguard =>
      obtain ⟨hclock, hdone⟩ := hguard
      have hne : ∀ w : String, ¬ s.store.queried ++ [w] = s.store.queried := by
        intro w hw
        simp at hw
      rcases hexec : Effect.exec (complianceEntry c) s.store with ⟨res, store⟩
      have hchecked := complianceEntry_cases hexec
      rw [hexec] at h
      cases hchecked with
      | unread e hfailed =>
          cases h
          refine .failed ?_ rfl (fun x hx => hx) fun ha => ?_
          · rw [if_pos rfl]
            exact hclock
          · exact absurd hfailed (not_or.mpr ⟨not_not.mpr ha.pool, not_not.mpr ha.load⟩)
      | @hit entry hfound hlasts =>
          dsimp only at h
          rw [if_pos rfl] at h
          cases h
          exact .hit hclock hfound hlasts
      | unanswered e hmissed hfailed =>
          cases h
          refine .failed ?_ rfl (fun x hx => hx) fun ha => hfailed ha.register
          rw [if_neg (hne _)]
          exact Nat.le_trans hclock hdone
      | unsaved e hmissed hfailed =>
          cases h
          refine .failed ?_ rfl (fun x hx => List.mem_append_left _ hx)
            fun ha => absurd ha.upsert hfailed
          rw [if_neg (hne _)]
          exact Nat.le_trans hclock hdone
      | @fetched r hmissed hanswered hr =>
          dsimp only at h
          rw [if_neg (hne _)] at h
          cases h
          exact .fetched hclock hdone hmissed hanswered hr
  · cases h

/-! ## Where a status comes from -/

/-- Every row is an assessment that was fetched, and so is every answer. -/
structure Sourced {γ : Type} (foldCase : String → γ) (s : Screening) : Prop where
  rows : ∀ row ∈ s.store.table, ∃ r t, (r, t) ∈ s.store.fetched ∧
    row = r.asComplianceEntry t ∧ t ≤ s.clock
  answers : ∀ a ∈ s.answers, s.Derived foldCase a

theorem Derived.later {a : Answer} (h : s.Derived foldCase a)
    (hlog : ∀ x ∈ s.store.fetched, x ∈ s'.store.fetched) : s'.Derived foldCase a := by
  obtain ⟨r, t, hmem, hrest⟩ := h
  exact ⟨r, t, hlog _ hmem, hrest⟩

theorem Sourced.step (h : s.Sourced foldCase) (hcase : SameUpToCase foldCase c)
    (hstep : s.step c = some s') : s'.Sourced foldCase := by
  cases step_cases hstep with
  | failed hclock htable hlog hfailed =>
      refine ⟨fun row hrow => ?_, fun a ha => (h.answers a ha).later hlog⟩
      rw [htable] at hrow
      obtain ⟨r, t, hmem, heq, ht⟩ := h.rows row hrow
      exact ⟨r, t, hlog _ hmem, heq, Nat.le_trans ht hclock⟩
  | @hit entry hclock hfound hlasts =>
      refine ⟨fun row hrow => ?_, fun a ha => ?_⟩
      · obtain ⟨r, t, hmem, heq, ht⟩ := h.rows row hrow
        exact ⟨r, t, hmem, heq, Nat.le_trans ht hclock⟩
      · rcases List.mem_append.mp ha with ha | ha
        · exact (h.answers a ha).later fun x hx => hx
        · rw [List.mem_singleton.mp ha]
          obtain ⟨hrow, haddress⟩ := lookup_some hfound
          obtain ⟨r, t, hmem, rfl, ht⟩ := h.rows entry hrow
          refine ⟨r, t, hmem, ?_, rfl, Nat.le_trans ht hclock, hlasts⟩
          exact congrArg foldCase haddress
  | @fetched r hclock hdone hmissed hanswered hr =>
      have hlog : ∀ x ∈ s.store.fetched, x ∈ s.store.fetched ++ [(r, c.doneAt)] := fun x hx =>
        List.mem_append_left _ hx
      have hnew : (r, c.doneAt) ∈ s.store.fetched ++ [(r, c.doneAt)] :=
        List.mem_append_right _ (List.mem_singleton_self _)
      have hpassed : s.clock ≤ c.doneAt := Nat.le_trans hclock hdone
      refine ⟨fun row hrow => ?_, fun a ha => ?_⟩
      · rcases mem_upsertRows hrow with hrow | rfl
        · obtain ⟨r', t, hmem, heq, ht⟩ := h.rows row hrow
          exact ⟨r', t, hlog _ hmem, heq, Nat.le_trans ht hpassed⟩
        · exact ⟨r, c.doneAt, hnew, rfl, Nat.le_refl _⟩
      · rcases List.mem_append.mp ha with ha | ha
        · exact (h.answers a ha).later hlog
        · rw [List.mem_singleton.mp ha]
          exact ⟨r, c.doneAt, hnew, hcase r hr, rfl, Nat.le_refl _, Nat.le_add_right _ _⟩

/-! ## When the API is asked again -/

/-- For every answer that lasts, there is a row that lasts as long. -/
def Lasting (s : Screening) : Prop :=
  ∀ a ∈ s.answers, s.clock ≤ a.entry.expiresAt →
    ∃ row, lookup s.store.table a.walletAddress = some row ∧ a.entry.expiresAt ≤ row.expiresAt

/-- The check that nothing goes wrong with. -/
def smoothCheck (walletAddress : String) (lookupAt : Nat) : Check :=
  { walletAddress := walletAddress
    pool := .ok ()
    load := .ok ()
    lookupAt := lookupAt
    register := .ok ()
    assessment := .ok ⟨walletAddress, "Low", none⟩
    doneAt := lookupAt
    upsert := .ok () }

/-- A check makes no call to the API if it finds a row that lasts, and without a failure only
then. -/
theorem queried_of_row {store : Store} {row : ComplianceEntry}
    (hfound : lookup store.table c.walletAddress = some row) (hlasts : c.lookupAt ≤ row.expiresAt) :
    (Effect.exec (complianceEntry c) store).2.queried = store.queried := by
  have hnot : ¬ Missed store.table c := fun hmissed =>
    Nat.not_lt_of_le hlasts (hmissed row hfound)
  rcases hexec : Effect.exec (complianceEntry c) store with ⟨res, store'⟩
  cases complianceEntry_cases hexec with
  | unread e hfailed | hit hfound hlasts => rfl
  | unanswered e hmissed hfailed | unsaved e hmissed hfailed | fetched hmissed hanswered hr =>
      exact absurd hmissed hnot

theorem row_of_queried {store : Store} {address : String} {now : Nat}
    (h : (Effect.exec (complianceEntry (smoothCheck address now)) store).2.queried =
      store.queried) :
    ∃ row, lookup store.table address = some row ∧ now ≤ row.expiresAt := by
  have hne : ∀ w : String, ¬ store.queried ++ [w] = store.queried := by
    intro w hw
    simp at hw
  rcases hexec : Effect.exec (complianceEntry (smoothCheck address now)) store with ⟨res, store'⟩
  rw [hexec] at h
  cases complianceEntry_cases hexec with
  | unread e hfailed =>
      rcases hfailed with hpool | hload
      · exact absurd rfl hpool
      · exact absurd rfl hload
  | @hit entry hfound hlasts => exact ⟨entry, hfound, hlasts⟩
  | unanswered e hmissed hfailed | unsaved e hmissed hfailed | fetched hmissed hanswered hr =>
      exact absurd h (hne _)

theorem quiet_iff_lasting (s : Screening) : s.Quiet ↔ s.Lasting := by
  constructor
  · intro hquiet a ha hlasts
    have hunexpired : a.entry.isExpired a.entry.expiresAt = false := by
      simp [ComplianceEntry.isExpired]
    exact row_of_queried
      (hquiet a ha (smoothCheck a.walletAddress a.entry.expiresAt) rfl hlasts hunexpired)
  · intro hlasting a ha c hwallet hclock hunexpired
    have hle : c.lookupAt ≤ a.entry.expiresAt := by
      simpa [ComplianceEntry.isExpired] using hunexpired
    obtain ⟨row, hfound, hrow⟩ := hlasting a ha (Nat.le_trans hclock hle)
    rw [← hwallet] at hfound
    exact queried_of_row hfound (Nat.le_trans hle hrow)

/-- No entry lasts longer than one made now. -/
structure Bounded (s : Screening) : Prop where
  rows : ∀ row ∈ s.store.table, row.expiresAt ≤ s.clock + defaultExpirationDuration
  answers : ∀ a ∈ s.answers, a.entry.expiresAt ≤ s.clock + defaultExpirationDuration

theorem Bounded.step (h : s.Bounded) (hstep : s.step c = some s') : s'.Bounded := by
  cases step_cases hstep with
  | failed hclock htable hlog hfailed =>
      refine ⟨fun row hrow => ?_, fun a ha => ?_⟩
      · rw [htable] at hrow
        exact Nat.le_trans (h.rows row hrow) (Nat.add_le_add_right hclock _)
      · exact Nat.le_trans (h.answers a ha) (Nat.add_le_add_right hclock _)
  | hit hclock hfound hlasts =>
      refine ⟨fun row hrow => ?_, fun a ha => ?_⟩
      · exact Nat.le_trans (h.rows row hrow) (Nat.add_le_add_right hclock _)
      · refine Nat.le_trans ?_ (Nat.add_le_add_right hclock _)
        rcases List.mem_append.mp ha with ha | ha
        · exact h.answers a ha
        · rw [List.mem_singleton.mp ha]
          exact h.rows _ (lookup_some hfound).1
  | fetched hclock hdone hmissed hanswered hr =>
      have hpassed := Nat.le_trans hclock hdone
      refine ⟨fun row hrow => ?_, fun a ha => ?_⟩
      · rcases mem_upsertRows hrow with hrow | rfl
        · exact Nat.le_trans (h.rows row hrow) (Nat.add_le_add_right hpassed _)
        · exact Nat.le_refl _
      · rcases List.mem_append.mp ha with ha | ha
        · exact Nat.le_trans (h.answers a ha) (Nat.add_le_add_right hpassed _)
        · rw [List.mem_singleton.mp ha]
          exact Nat.le_refl _

theorem lasting_step_iff (hbounded : s.Bounded) (hlasting : s.Lasting)
    (hstep : s.step c = some s') : s'.Lasting ↔ s.Spelled c := by
  cases step_cases hstep with
  | failed hclock htable hlog hfailed =>
      refine iff_of_true (fun a ha hlasts => ?_) fun _ ha r hr => absurd hr (hfailed ha r)
      rw [htable]
      exact hlasting a ha (Nat.le_trans hclock hlasts)
  | @hit entry hclock hfound hlasts =>
      refine iff_of_true (fun a ha hlasts => ?_) fun hmissed => ?_
      · rcases List.mem_append.mp ha with ha | ha
        · exact hlasting a ha (Nat.le_trans hclock hlasts)
        · rw [List.mem_singleton.mp ha]
          exact ⟨entry, hfound, Nat.le_refl _⟩
      · exact absurd (hmissed entry hfound) (Nat.not_lt_of_le hlasts)
  | @fetched r hclock hdone hmissed hanswered hr =>
      constructor
      · -- the row of the request is as it was before, and that was no good
        intro hafter _ _ r' hr'
        cases hr.symm.trans hr'
        by_contra hother
        have hother : ¬ (r.asComplianceEntry c.doneAt).address = c.walletAddress := hother
        obtain ⟨row, hrow, hle⟩ := hafter
          ⟨c.walletAddress, c.doneAt, r.asComplianceEntry c.doneAt⟩
          (List.mem_append_right _ (List.mem_singleton_self _)) (Nat.le_add_right _ _)
        rw [lookup_upsertRows, if_neg hother] at hrow
        have hexpired := hmissed row hrow
        have hexpires : c.doneAt + defaultExpirationDuration ≤ row.expiresAt := hle
        omega
      · intro hspelled a ha hlasts
        have haddress : (r.asComplianceEntry c.doneAt).address = c.walletAddress :=
          hspelled hmissed hanswered r hr
        show ∃ row, lookup (upsertRows _ _) a.walletAddress = some row ∧ _
        rw [lookup_upsertRows]
        rcases List.mem_append.mp ha with ha | ha
        · split
          · refine ⟨_, rfl, Nat.le_trans (hbounded.answers a ha) ?_⟩
            exact Nat.add_le_add_right (Nat.le_trans hclock hdone) _
          · exact hlasting a ha (Nat.le_trans (Nat.le_trans hclock hdone) hlasts)
        · rw [List.mem_singleton.mp ha, if_pos haddress]
          exact ⟨_, rfl, Nat.le_refl _⟩

/--
**Every status is fresh, and exactly the histories in which the API gives back the addresses as
it gets them need no assessment twice while it lasts.**
-/
theorem statuses_cached_iff {γ : Type} (foldCase : String → γ) (checks : List Check) (s : Screening)
    (hcase : ∀ c ∈ checks, SameUpToCase foldCase c) (hrun : Runs.run step new checks = some s) :
    (∀ a ∈ s.answers, s.Derived foldCase a) ∧
      (Runs.Always step Quiet new checks ↔ Runs.Meets step Spelled new checks) := by
  have hsourced : new.Sourced foldCase :=
    ⟨fun row hrow => (by cases hrow), fun a ha => (by cases ha)⟩
  have hbounded : new.Bounded := ⟨fun row hrow => (by cases hrow), fun a ha => (by cases ha)⟩
  have hlasting : new.Lasting := fun a ha => (by cases ha)
  constructor
  · have hend := Runs.run_preserves_of (fun s c s' hc hs hstep => hs.step hc hstep) checks hcase
      hsourced hrun
    exact hend.answers
  · have hiff := Runs.always_iff_meets (I := fun s => s.Bounded ∧ s.Lasting) (C := Spelled)
      (fun s c s' hs hstep => by
        rw [and_iff_right (hs.1.step hstep)]
        exact lasting_step_iff hs.1 hs.2 hstep) checks ⟨hbounded, hlasting⟩ hrun
    rw [← hiff, Runs.Always.and_invariant (fun s c s' hs hstep => hs.step hstep) checks hbounded]
    exact ⟨Runs.Always.imp fun s => (quiet_iff_lasting s).mp,
      Runs.Always.imp fun s => (quiet_iff_lasting s).mpr⟩

end Steps

/-- A check of a wallet that the API answers with this address. -/
def checkSpelled (walletAddress answer : String) (lookupAt : Nat) : Check :=
  { smoothCheck walletAddress lookupAt with
    assessment := .ok ⟨answer, "High", some "sanctions"⟩
    doneAt := lookupAt + 1 }

def lowerCase (address : String) : List Char := address.toList.map Char.toLower

theorem sameUpToCase_checkSpelled {walletAddress answer : String} {lookupAt : Nat}
    (h : lowerCase answer = lowerCase walletAddress) :
    SameUpToCase lowerCase (checkSpelled walletAddress answer lookupAt) := by
  intro r hr
  cases hr
  exact h

theorem spelled_checkSpelled (s : Screening) (walletAddress : String) (lookupAt : Nat) :
    s.Spelled (checkSpelled walletAddress walletAddress lookupAt) := by
  intro _ _ r hr
  cases hr
  rfl

/-- Two checks of one wallet, the second one while the assessment lasts. -/
def checkedTwice (answer : String) : List Check :=
  [checkSpelled "0xABC" answer 0, checkSpelled "0xABC" answer 5]

theorem sameUpToCase_checkedTwice (answer : String) (h : lowerCase answer = lowerCase "0xABC") :
    ∀ c ∈ checkedTwice answer, SameUpToCase lowerCase c := by
  intro c hc
  rcases List.mem_pair.mp hc with rfl | rfl <;> exact sameUpToCase_checkSpelled h

/-- With the address as it was sent, the second check finds the row. -/
theorem sameSpelling_quiet : ∃ s, Runs.run step new (checkedTwice "0xABC") = some s ∧
    s.store.queried = ["0xABC"] ∧ (∀ a ∈ s.answers, s.Derived lowerCase a) ∧
    Runs.Always step Quiet new (checkedTwice "0xABC") := by
  have hruns : (Runs.run step new (checkedTwice "0xABC")).map (·.store.queried) =
      some ["0xABC"] := by
    decide +kernel
  obtain ⟨s, hs, hqueried⟩ := Option.map_eq_some_iff.mp hruns
  obtain ⟨hderived, hiff⟩ := statuses_cached_iff lowerCase (checkedTwice "0xABC") s
    (sameUpToCase_checkedTwice "0xABC" rfl) hs
  have hspelled : Runs.Meets step Spelled new (checkedTwice "0xABC") :=
    ⟨spelled_checkSpelled _ _ _, fun _ _ => ⟨spelled_checkSpelled _ _ _, fun _ _ => trivial⟩⟩
  exact ⟨s, hs, hqueried, hderived, hiff.mpr hspelled⟩

/-- The row that an answer in lower case leaves. -/
def loweredEntry : ComplianceEntry :=
  RiskAssessmentResponse.asComplianceEntry ⟨"0xabc", "High", some "sanctions"⟩ 1

/-- With the address in lower case, the API is asked again, five microseconds later. -/
theorem other_spelling_queried_again :
    (∀ c ∈ checkedTwice "0xabc", SameUpToCase lowerCase c) ∧
      (Runs.run step new (checkedTwice "0xabc")).map (·.store.queried) =
        some ["0xABC", "0xABC"] ∧
      ¬ Runs.Always step Quiet new (checkedTwice "0xabc") := by
  have htwice : (Runs.run step new (checkedTwice "0xabc")).map (·.store.queried) =
      some ["0xABC", "0xABC"] := by
    decide +kernel
  have hfirst : step new (checkSpelled "0xABC" "0xabc" 0) =
      some ⟨⟨[loweredEntry], ["0xABC"], [(⟨"0xabc", "High", some "sanctions"⟩, 1)]⟩, 1,
        [⟨"0xABC", 1, loweredEntry⟩]⟩ := by
    decide +kernel
  have hnone : lookup [loweredEntry] "0xABC" = none := by decide +kernel
  refine ⟨sameUpToCase_checkedTwice "0xabc" (by decide +kernel), htwice, fun hquiet => ?_⟩
  have hafter := (quiet_iff_lasting _).mp (hquiet.2 _ hfirst).head
  obtain ⟨row, hrow, -⟩ := hafter _ (List.mem_singleton_self _) (Nat.le_add_right _ _)
  exact Option.some_ne_none row (hrow.symm.trans hnone)

end Screening

end RelayerExtensions.Compliance
