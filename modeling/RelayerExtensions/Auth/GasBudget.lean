import Mathlib.Tactic.Linarith
import RelayerExtensions.Auth.RateLimiter
import RelayerExtensions.Lib.Procs

/-!
# The daily gas-sponsorship budget

A user's sponsorship is checked against the budget when a quote is priced, or an order
is assembled without one (`generate_sponsorship_info`), and charged to it when the
bundle settles (`record_settled_match_sponsorship`). In between, the sponsorship of a
quote is in a cache, from which it can be assembled any number of times, by any user,
and every bundle can settle. What is charged is the refund that was promised, at the
price of the day, or nothing if the sponsor could not pay it.

`record_gas_sponsorship` is documented to do nothing once the budget is used up. It
always charges. So the budget is a matter of the schedule: a check speaks for the next
charge to its window and for no later one. The budget is kept in every run in which
sponsored bundles are charged in turn (`budget_kept`), that is, with no other charge to
the window since the check, or as the first charge of a window.

Ghost state: `records` has every charge, with the counter before and after it, and a
promise knows the window its check read and how many charges that had.
-/

namespace RelayerExtensions.Auth

open Redis Procs RedisRateLimiter

/-- A sponsorship that passed its check. -/
structure GasPromise where
  refund : Nat
  /-- Ghost: the window that was checked, and the charges to it by then. -/
  window : RateKey
  charges : Nat
deriving DecidableEq

/-- A bundle and whom it is charged to; without a promise its refund is zero. -/
structure GasBundle where
  user : String
  promise : Option GasPromise
deriving DecidableEq

def GasBundle.refund (b : GasBundle) : Nat := (b.promise.map GasPromise.refund).getD 0

structure GasRecord where
  key : RateKey
  before : ℚ
  value : ℚ
  after : ℚ
deriving DecidableEq

structure GasState where
  now : Nat
  store : RateStore
  /-- The sponsorship of each quote, for whoever assembles it. -/
  quotes : List (Option GasPromise)
  bundles : List GasBundle
  /-- Ghost: the charges so far. -/
  records : List GasRecord

/-- The charges to a window that were not zero. -/
def GasState.charges (s : GasState) (key : RateKey) : Nat :=
  s.records.countP fun r => r.key = key ∧ r.value ≠ 0

inductive GasOp where
  /-- `generate_sponsorship_info`, for a quote or for a bundle -/
  | checkKey (user : String) (firm : Bool) (eligible : Bool) (refund : Nat)
  | checkGet (user : String) (key : RateKey) (firm : Bool) (eligible : Bool) (refund : Nat)
  /-- Assembly of a quote, whose sponsorship is found in the cache or not. -/
  | assemble (user : String) (quote : Nat) (cached : Bool)
  /-- `record_gas_sponsorship` -/
  | recordKey (b : GasBundle) (value : ℚ)
  | recordTtl (key : RateKey) (b : GasBundle) (value : ℚ)
  | recordIncr (key : RateKey) (ttl : Nat) (b : GasBundle) (value : ℚ)
  | recordExpire (key : RateKey) (ttl : Nat)
  /-- The bundle is not one of ours. -/
  | stop

inductive GasCall where
  /-- A quote request. An eligible order is one that is large enough, by a user who did not
  disable sponsorship. -/
  | quote (user : String) (eligible : Bool) (refund : Nat)
  | assembleQuote (user : String) (quote : Nat) (cached : Bool)
  | assembleOrder (user : String) (eligible : Bool) (refund : Nat)
  /-- The settlement of a bundle, whether its refund was paid out, and the price of the asset. -/
  | settle (bundle : Nat) (paid : Bool) (price : ℚ)

section Model

variable (lib : RateLib) (server : AuthServerRateLimiter)

def launchGas (s : GasState) : GasCall → GasOp
  | .quote user eligible refund => .checkKey user false eligible refund
  | .assembleQuote user quote cached => .assemble user quote cached
  | .assembleOrder user eligible refund => .checkKey user true eligible refund
  | .settle bundle paid price =>
      match s.bundles[bundle]? with
      | some b => .recordKey b ((if paid then b.refund else 0 : Nat) * price)
      | none => .stop

/-- The sponsorship goes into the cache with a quote, or out with a bundle. -/
def GasState.promise (s : GasState) (firm : Bool) (b : GasBundle) : GasState :=
  if firm then { s with bundles := s.bundles ++ [b] }
  else { s with quotes := s.quotes ++ [b.promise] }

def nextGas (s : GasState) (op : GasOp) (elapsed : Nat) : GasState × Option GasOp :=
  let limiter := server.gasSponsorshipRateLimiter
  let now := s.now + elapsed
  let s := { s with now := now }
  match op with
  | .checkKey user firm eligible refund =>
      (s, some (.checkGet user (limiter.buildKey lib user now) firm eligible refund))
  | .checkGet user key firm eligible refund =>
      let rateLimited := decide (limiter.maxTokens ≤ (lib.redis.get s.store now key).getD 0)
      (s.promise firm
        ⟨user, if !rateLimited && eligible then some ⟨refund, key, s.charges key⟩ else none⟩, none)
  | .assemble user quote cached =>
      (s.promise true ⟨user, if cached then s.quotes[quote]?.join else none⟩, none)
  | .recordKey b value => (s, some (.recordTtl (limiter.buildKey lib b.user now) b value))
  | .recordTtl key b value => (s, some (.recordIncr key (limiter.getTtlSeconds now) b value))
  | .recordIncr key ttl _ value =>
      ({ s with
          store := (lib.redis.incrByFloat s.store now key value).2
          records := s.records ++
            [⟨key, s.store.counter now key, value,
              (lib.redis.incrByFloat s.store now key value).1⟩] },
        some (.recordExpire key ttl))
  | .recordExpire key ttl =>
      ({ s with store := (lib.redis.expireAt s.store now key (ttl * nanos)).2 }, none)
  | .stop => (s, none)

def gasSystem : System GasState GasOp GasCall Nat := ⟨launchGas, nextGas lib server⟩

/-- **A check is `check_gas_sponsorship`**: an eligible order is sponsored if it passes. -/
theorem check_alone (user : String) (firm eligible : Bool) (refund a b : Nat) (s : GasState) :
    feed (gasSystem lib server) [a, b] s (.checkKey user firm eligible refund) =
      (GasState.promise { s with now := s.now + a + b } firm ⟨user,
        if server.checkGasSponsorship lib user (s.now + a) (s.now + a + b) s.store && eligible
        then
          let key := server.gasSponsorshipRateLimiter.buildKey lib user (s.now + a)
          some ⟨refund, key, s.charges key⟩
        else none⟩, none) := rfl

/-- **A charge is `record_gas_sponsorship`.** -/
theorem record_alone (b : GasBundle) (value : ℚ) (i j k l : Nat) (s : GasState) :
    let r := feed (gasSystem lib server) [i, j, k, l] s (.recordKey b value)
    r.1.store = server.recordGasSponsorship lib b.user value (s.now + i) (s.now + i + j)
      (s.now + i + j + k) (s.now + i + j + k + l) s.store ∧ r.2 = none := ⟨rfl, rfl⟩

end Model

/-! ## The budget -/

/-- A charge to a used-up window changed nothing. -/
def Frozen (limiter : RedisRateLimiter) (s : GasState) : Prop :=
  ∀ r ∈ s.records, limiter.maxTokens ≤ r.before → r.after = r.before

/-- Every window is overdrawn by one of its bundles at most. -/
def Within (limiter : RedisRateLimiter) (s : GasState) : Prop :=
  ∀ key e, s.store key = some e → e.value ≤ limiter.maxTokens ∨
    ∃ r ∈ s.records, r.key = key ∧ e.value ≤ limiter.maxTokens + r.value

structure BudgetKept (limiter : RedisRateLimiter) (s : GasState) : Prop where
  within : Within limiter s
  frozen : Frozen limiter s

/-! ## The schedule -/

/-- A sponsored bundle is charged in turn: to a window without charges, or to the window that was
checked for it, with no charge to that since. -/
def GasOp.InTurn (s : GasState) : GasOp → Prop
  | .recordIncr key _ b _ =>
      ∀ p ∈ b.promise, s.charges key = 0 ∨ key = p.window ∧ s.charges key = p.charges
  | _ => True

def InTurn (w : World GasState GasOp) : Tick GasCall Nat → Prop
  | .advance p _ => ∀ op, w.ops p = some op → op.InTurn w.shared
  | _ => True

instance (s : GasState) (op : GasOp) : Decidable (op.InTurn s) :=
  match op with
  | .recordIncr key _ b _ => inferInstanceAs (Decidable
      (∀ p ∈ b.promise, s.charges key = 0 ∨ key = p.window ∧ s.charges key = p.charges))
  | .checkKey .. | .checkGet .. | .assemble .. | .recordKey .. | .recordTtl .. | .recordExpire ..
  | .stop => .isTrue trivial

instance (w : World GasState GasOp) (e : Tick GasCall Nat) : Decidable (InTurn w e) :=
  match e with
  | .advance p _ => decidableOp w p fun op => op.InTurn w.shared
  | .launch .. | .drop .. => .isTrue trivial

section Runs

variable {lib : RateLib} {server : AuthServerRateLimiter} {s : GasState} {elapsed : Nat}

/-- An action that charges nothing: the charges stay, and what is still there of the numbers. -/
structure ChargesNothing (s s' : GasState) : Prop where
  records : s'.records = s.records
  store : ∀ key e', s'.store key = some e' → ∃ e, s.store key = some e ∧ e'.value = e.value ∧
    (e'.live s'.now = true → e.live s.now = true)

theorem live_of_later {e : Entry} {now later : Nat} (hle : now ≤ later)
    (h : e.live later = true) : e.live now = true := by
  unfold Entry.live at h ⊢
  cases hexpiry : e.expiry with
  | none => rfl
  | some x =>
      rw [hexpiry] at h
      exact decide_eq_true (hle.trans (of_decide_eq_true h))

theorem ChargesNothing.of_store_eq {s' : GasState} (hrecords : s'.records = s.records)
    (hstore : s'.store = s.store) (hnow : s.now ≤ s'.now) : ChargesNothing s s' :=
  ⟨hrecords, fun _ e he => ⟨e, hstore ▸ he, rfl, live_of_later hnow⟩⟩

theorem ChargesNothing.promise (s : GasState) (elapsed : Nat) (firm : Bool) (b : GasBundle) :
    ChargesNothing s (GasState.promise { s with now := s.now + elapsed } firm b) := by
  cases firm with
  | false | true => exact .of_store_eq rfl rfl (Nat.le_add_right ..)

variable (lib server) in
/-- **What an action does**: it charges nothing, or it is the one command that charges. -/
theorem next_cases (op : GasOp) (s : GasState) (elapsed : Nat) :
    ChargesNothing s (nextGas lib server s op elapsed).1 ∨
      ∃ key ttl b value, op = .recordIncr key ttl b value := by
  have hnow : s.now ≤ s.now + elapsed := Nat.le_add_right ..
  cases op with
  | recordIncr key ttl b value => exact .inr ⟨key, ttl, b, value, rfl⟩
  | checkGet => exact .inl (.promise ..)
  | assemble => exact .inl (.promise s elapsed true _)
  | recordExpire key ttl =>
      refine .inl ⟨rfl, fun key' e' he' => ?_⟩
      by_cases hk : key' = key
      · subst hk
        rcases lib.redis.expireAt_self s.store (s.now + elapsed) key' (ttl * nanos) with
          ⟨-, heq⟩ | ⟨-, hgone⟩ | ⟨e, he, -, hnew⟩
        · exact ⟨e', heq ▸ he', rfl, live_of_later hnow⟩
        · cases hgone.symm.trans he'
        · obtain ⟨hstored, hlive⟩ := find_eq_some.mp he
          refine ⟨e, hstored, ?_, fun _ => live_of_later hnow hlive⟩
          exact Option.some.inj (hnew.symm.trans he') ▸ rfl
      · exact ⟨e', (lib.redis.expireAt_of_ne hk).symm.trans he', rfl, live_of_later hnow⟩
  | checkKey | recordKey | recordTtl | stop => exact .inl (.of_store_eq rfl rfl hnow)

/-- Charges are never forgotten. -/
theorem mem_records_next (op : GasOp) {r : GasRecord} (h : r ∈ s.records) :
    r ∈ (nextGas lib server s op elapsed).1.records := by
  rcases next_cases lib server op s elapsed with hnothing | ⟨key, ttl, b, value, rfl⟩
  · rw [hnothing.records]
    exact h
  · exact List.mem_append_left _ h

/-! ### What a check is good for -/

/-- Of the window `n` charges are known, and as long as it has no more it is not used up. -/
structure Open (limiter : RedisRateLimiter) (s : GasState) (key : RateKey) (n : Nat) : Prop where
  known : n ≤ s.charges key
  below : s.charges key = n →
    ∀ e, s.store key = some e → e.live s.now = true → e.value < limiter.maxTokens

theorem Open.counter_lt (hmax : 0 < server.gasSponsorshipRateLimiter.maxTokens) {key : RateKey}
    {n : Nat} (h : Open server.gasSponsorshipRateLimiter s key n) (hn : s.charges key = n) :
    s.store.counter (s.now + elapsed) key < server.gasSponsorshipRateLimiter.maxTokens := by
  cases hfind : s.store.find (s.now + elapsed) key with
  | none =>
      rw [counter_of_none hfind]
      exact hmax
  | some e =>
      rw [counter_of_find hfind]
      obtain ⟨hstored, hlive⟩ := find_eq_some.mp hfind
      exact h.below hn e hstored (live_of_later (Nat.le_add_right ..) hlive)

/-- A check finds its window open. -/
theorem open_of_check {key : RateKey}
    (h : s.store.counter s.now key < server.gasSponsorshipRateLimiter.maxTokens) :
    Open server.gasSponsorshipRateLimiter s key (s.charges key) := by
  refine ⟨le_refl _, fun _ e he hlive => ?_⟩
  rwa [counter_of_find (find_eq_some.mpr ⟨he, hlive⟩)] at h

/-- **A window stays open** until there is another charge to it. -/
theorem Open.next (hmax : 0 < server.gasSponsorshipRateLimiter.maxTokens) {key : RateKey} {n : Nat}
    (h : Open server.gasSponsorshipRateLimiter s key n) (op : GasOp) :
    Open server.gasSponsorshipRateLimiter (nextGas lib server s op elapsed).1 key n := by
  rcases next_cases lib server op s elapsed with hnothing | ⟨charged, ttl, b, value, rfl⟩
  · have hsame : (nextGas lib server s op elapsed).1.charges key = s.charges key := by
      rw [GasState.charges, hnothing.records, GasState.charges]
    refine ⟨hsame ▸ h.known, fun hn e' he' hlive => ?_⟩
    obtain ⟨e, he, hvalue, hearlier⟩ := hnothing.store key e' he'
    rw [hvalue]
    exact h.below (hsame ▸ hn) e he (hearlier hlive)
  · -- one more charge to the window closes it, unless it is zero
    have hcount : (nextGas lib server s (.recordIncr charged ttl b value) elapsed).1.charges
        key = s.charges key + if charged = key ∧ value ≠ 0 then 1 else 0 := by
      simp only [GasState.charges, nextGas, List.countP_append, List.countP_singleton,
        decide_eq_true_eq]
    refine ⟨hcount ▸ Nat.le_add_right_of_le h.known, fun hn e' he' hlive => ?_⟩
    have hzero : ¬ (charged = key ∧ value ≠ 0) := by
      intro hmore
      rw [hcount, if_pos hmore] at hn
      exact absurd h.known (by omega)
    rw [hcount, if_neg hzero, Nat.add_zero] at hn
    by_cases hk : key = charged
    · subst hk
      have hvalue : value = 0 := not_not.mp fun hne => hzero ⟨rfl, hne⟩
      have hentry : s.store.counter (s.now + elapsed) key + value = e'.value :=
        congrArg Entry.value (Option.some.inj ((lib.redis.incrByFloat_self ..).symm.trans he'))
      rw [← hentry, hvalue, add_zero]
      exact h.counter_lt hmax hn
    · exact h.below hn e' ((lib.redis.incrByFloat_of_ne hk).symm.trans he')
        (live_of_later (Nat.le_add_right s.now elapsed) hlive)

/-- A promise that is out, with a quote or with a bundle. -/
def GasState.Promised (s : GasState) (p : GasPromise) : Prop :=
  some p ∈ s.quotes ∨ ∃ b ∈ s.bundles, b.promise = some p

/-- What a charge under way knows: the window of its promise, and that without one it is zero. -/
def GasOp.Backed (limiter : RedisRateLimiter) (s : GasState) : GasOp → Prop
  | .recordKey b value | .recordTtl _ b value | .recordIncr _ _ b value =>
      (∀ p ∈ b.promise, Open limiter s p.window p.charges) ∧ (b.promise = none → value = 0)
  | _ => True

structure InBudget (limiter : RedisRateLimiter) (s : GasState) : Prop where
  fresh : ∀ key, Open limiter s key 0
  promises : ∀ p, s.Promised p → Open limiter s p.window p.charges
  kept : BudgetKept limiter s

theorem GasOp.Backed.next (hmax : 0 < server.gasSponsorshipRateLimiter.maxTokens) {o : GasOp}
    (h : o.Backed server.gasSponsorshipRateLimiter s) (op : GasOp) :
    o.Backed server.gasSponsorshipRateLimiter (nextGas lib server s op elapsed).1 := by
  cases o with
  | recordKey | recordTtl | recordIncr => exact ⟨fun p hp => (h.1 p hp).next hmax op, h.2⟩
  | checkKey | checkGet | assemble | recordExpire | stop => trivial

/-- **What the schedule buys**: a charge in turn is zero, or its window is not used up. -/
theorem affordable (hmax : 0 < server.gasSponsorshipRateLimiter.maxTokens)
    (hfresh : ∀ key, Open server.gasSponsorshipRateLimiter s key 0) {key : RateKey} {ttl : Nat}
    {b : GasBundle} {value : ℚ}
    (hop : (GasOp.recordIncr key ttl b value).Backed server.gasSponsorshipRateLimiter s)
    (hturn : (GasOp.recordIncr key ttl b value).InTurn s) :
    value = 0 ∨
      s.store.counter (s.now + elapsed) key < server.gasSponsorshipRateLimiter.maxTokens := by
  cases hpromise : b.promise with
  | none => exact .inl (hop.2 hpromise)
  | some p =>
      rcases hturn p hpromise with hfirst | ⟨rfl, hnext⟩
      · exact .inr ((hfresh key).counter_lt hmax hfirst)
      · exact .inr ((hop.1 p hpromise).counter_lt hmax hnext)

theorem frozen_next (h : Frozen server.gasSponsorshipRateLimiter s) {op : GasOp}
    (haff : ∀ key ttl b value, op = .recordIncr key ttl b value → value = 0 ∨
      s.store.counter (s.now + elapsed) key < server.gasSponsorshipRateLimiter.maxTokens) :
    Frozen server.gasSponsorshipRateLimiter (nextGas lib server s op elapsed).1 := by
  rcases next_cases lib server op s elapsed with hnothing | ⟨key, ttl, b, value, rfl⟩
  · rw [Frozen, hnothing.records]
    exact h
  · intro r hr hused
    rcases List.mem_append.mp hr with hr | hr
    · exact h r hr hused
    · rw [List.mem_singleton] at hr
      subst hr
      rcases haff key ttl b value rfl with hzero | hlt
      · exact (lib.redis.incrByFloat_value ..).trans (by rw [hzero, add_zero])
      · exact absurd hused (not_le.mpr hlt)

/-- An affordable charge overdraws no window by more than its own bundle. -/
theorem within_next (hmax : 0 < server.gasSponsorshipRateLimiter.maxTokens)
    (h : Within server.gasSponsorshipRateLimiter s) {op : GasOp}
    (haff : ∀ key ttl b value, op = .recordIncr key ttl b value → value = 0 ∨
      s.store.counter (s.now + elapsed) key < server.gasSponsorshipRateLimiter.maxTokens) :
    Within server.gasSponsorshipRateLimiter (nextGas lib server s op elapsed).1 := by
  -- what held of a number still does, with more charges to choose from
  have hkeep : ∀ key e, s.store key = some e →
      e.value ≤ server.gasSponsorshipRateLimiter.maxTokens ∨
      ∃ r ∈ (nextGas lib server s op elapsed).1.records, r.key = key ∧
        e.value ≤ server.gasSponsorshipRateLimiter.maxTokens + r.value := by
    intro key e he
    rcases h key e he with hle | ⟨r, hr, hrest⟩
    · exact .inl hle
    · exact .inr ⟨r, mem_records_next op hr, hrest⟩
  intro key e' he'
  rcases next_cases lib server op s elapsed with hnothing | ⟨charged, ttl, b, value, rfl⟩
  · obtain ⟨e, he, hvalue, -⟩ := hnothing.store key e' he'
    rw [hvalue]
    exact hkeep key e he
  · by_cases hk : key = charged
    · subst hk
      have hvalue : s.store.counter (s.now + elapsed) key + value = e'.value :=
        congrArg Entry.value (Option.some.inj ((lib.redis.incrByFloat_self ..).symm.trans he'))
      rcases haff key ttl b value rfl with hzero | hlt
      · rw [hzero, add_zero] at hvalue
        rw [← hvalue]
        cases hfind : s.store.find (s.now + elapsed) key with
        | none =>
            rw [counter_of_none hfind]
            exact .inl hmax.le
        | some e =>
            rw [counter_of_find hfind]
            exact hkeep key e (find_eq_some.mp hfind).1
      · refine .inr ⟨_, List.mem_append_right _ List.mem_cons_self, rfl, ?_⟩
        show e'.value ≤ server.gasSponsorshipRateLimiter.maxTokens + value
        linarith
    · exact hkeep key e' ((lib.redis.incrByFloat_of_ne hk).symm.trans he')

theorem GasState.Promised.of_promise {firm : Bool} {b : GasBundle} {p : GasPromise}
    (h : (s.promise firm b).Promised p) : s.Promised p ∨ b.promise = some p := by
  cases firm with
  | false =>
      rcases h with hq | hb
      · rcases List.mem_append.mp hq with hq | hq
        · exact .inl (.inl hq)
        · exact .inr (List.mem_singleton.mp hq).symm
      · exact .inl (.inr hb)
  | true =>
      rcases h with hq | ⟨b', hb', hp⟩
      · exact .inl (.inl hq)
      · rcases List.mem_append.mp hb' with hb' | hb'
        · exact .inl (.inr ⟨b', hb', hp⟩)
        · exact .inr (List.mem_singleton.mp hb' ▸ hp)

/-- **A promise is out already, or it has just passed its check.** -/
theorem promised_next {op : GasOp} {p : GasPromise}
    (h : (nextGas lib server s op elapsed).1.Promised p) :
    s.Promised p ∨ Open server.gasSponsorshipRateLimiter
      (nextGas lib server s op elapsed).1 p.window p.charges := by
  cases op with
  | checkKey | recordKey | recordTtl | recordIncr | recordExpire | stop => exact .inl h
  | assemble user quote cached =>
      refine .inl ((GasState.Promised.of_promise h).elim id fun hp => .inl ?_)
      cases cached with
      | false => cases hp
      | true => exact List.mem_of_getElem? (Option.join_eq_some_iff.mp hp)
  | checkGet user key firm eligible refund =>
      refine (GasState.Promised.of_promise h).imp id fun hp => ?_
      obtain ⟨hpass, hp⟩ := Option.ite_none_right_eq_some.mp hp
      have hlt : s.store.counter (s.now + elapsed) key <
          server.gasSponsorshipRateLimiter.maxTokens := by
        have hnot := (Bool.and_eq_true_iff.mp hpass).1
        rwa [Bool.not_eq_true', decide_eq_false_iff_not, not_le, lib.redis.getD_get] at hnot
      have hopen : Open server.gasSponsorshipRateLimiter { s with now := s.now + elapsed } key
          (s.charges key) := open_of_check hlt
      cases hp
      cases firm with
      | false | true => exact ⟨hopen.known, hopen.below⟩

/-- **One action in turn keeps the invariant.** -/
theorem inBudget_next (hmax : 0 < server.gasSponsorshipRateLimiter.maxTokens)
    (h : InBudget server.gasSponsorshipRateLimiter s) {op : GasOp}
    (hop : op.Backed server.gasSponsorshipRateLimiter s) (hturn : op.InTurn s) :
    InBudget server.gasSponsorshipRateLimiter (nextGas lib server s op elapsed).1 := by
  have haff : ∀ key ttl b value, op = .recordIncr key ttl b value → value = 0 ∨
      s.store.counter (s.now + elapsed) key < server.gasSponsorshipRateLimiter.maxTokens := by
    rintro key ttl b value rfl
    exact affordable hmax h.fresh hop hturn
  refine ⟨fun key => (h.fresh key).next hmax op, fun p hp => ?_,
    within_next hmax h.kept.within haff, frozen_next h.kept.frozen haff⟩
  exact (promised_next hp).elim (fun hp => (h.promises p hp).next hmax op) id

/-- What is left to do of a charge has the same bundle and value. -/
theorem backed_next {op op' : GasOp} (hmax : 0 < server.gasSponsorshipRateLimiter.maxTokens)
    (hop : op.Backed server.gasSponsorshipRateLimiter s)
    (h : (nextGas lib server s op elapsed).2 = some op') :
    op'.Backed server.gasSponsorshipRateLimiter (nextGas lib server s op elapsed).1 := by
  have hkept : op.Backed server.gasSponsorshipRateLimiter (nextGas lib server s op elapsed).1 :=
    hop.next hmax op
  cases op with
  | checkGet | assemble | recordExpire | stop => cases h
  | recordKey | recordTtl =>
      cases h
      exact hkept
  | checkKey | recordIncr =>
      cases h
      trivial

theorem backed_launch (h : InBudget server.gasSponsorshipRateLimiter s) (call : GasCall) :
    (launchGas s call).Backed server.gasSponsorshipRateLimiter s := by
  cases call with
  | quote | assembleQuote | assembleOrder => trivial
  | settle bundle paid price =>
      cases hb : s.bundles[bundle]? with
      | none =>
          simp only [launchGas, hb]
          trivial
      | some b =>
          simp only [launchGas, hb]
          refine ⟨fun p hp => h.promises p (.inr ⟨b, List.mem_of_getElem? hb, hp⟩), fun hnone => ?_⟩
          have hrefund : b.refund = 0 := by
            rw [GasBundle.refund, hnone]
            rfl
          simp [hrefund]

/-- A server in front of an empty Redis. -/
def idleGas (now : Nat) : World GasState GasOp := ⟨⟨now, fun _ => none, [], [], []⟩, fun _ => none⟩

theorem inBudget_idle (limiter : RedisRateLimiter) (now : Nat) :
    InBudget limiter (idleGas now).shared where
  fresh _ := ⟨Nat.zero_le _, fun _ e he => absurd he.symm (Option.some_ne_none e)⟩
  promises p hp := by
    rcases hp with hq | ⟨b, hb, -⟩
    · exact absurd hq List.not_mem_nil
    · exact absurd hb List.not_mem_nil
  kept := ⟨fun _ e he => absurd he.symm (Option.some_ne_none e),
    fun _ hr => absurd hr List.not_mem_nil⟩

/--
**The budget is kept in turn.** In every run from an empty Redis in which sponsored bundles are
charged in turn, whatever is quoted, assembled and settled, by whom and at what prices, no window
is overdrawn by more than one bundle, and used-up windows stay as they are.
-/
theorem budget_kept (hmax : 0 < server.gasSponsorshipRateLimiter.maxTokens) {now : Nat}
    {es : List (Tick GasCall Nat)} {w : World GasState GasOp}
    (hr : Runs.run (step (gasSystem lib server)) (idleGas now) es = some w)
    (hm : Runs.Meets (step (gasSystem lib server)) InTurn (idleGas now) es) :
    BudgetKept server.gasSponsorshipRateLimiter w.shared := by
  have hinv : Inv (InBudget server.gasSponsorshipRateLimiter)
      (fun s op => op.Backed server.gasSponsorshipRateLimiter s) w := by
    refine inv_run (C := InTurn) (fun _ call h => backed_launch h call)
      (fun w p op elapsed h ho hturn => ?_) es ?_ hm hr
    · have hop := h.2 p op ho
      exact ⟨inBudget_next hmax h.1 hop (hturn op ho), fun op' h' => backed_next hmax hop h',
        fun q o _ hq => (h.2 q o hq).next hmax op⟩
    · exact ⟨inBudget_idle _ now, fun p op hop => absurd hop.symm (Option.some_ne_none op)⟩
  exact hinv.1.kept

end Runs

/-! ## Three bundles of six dollars each -/

def tenDollars : AuthServerRateLimiter := .new 100 10 10

/-- A quote that refunds six dollars of gas. -/
def quoteRun : List (Tick GasCall Nat) :=
  [.launch 0 (.quote "desk" true 6), .advance 0 0, .advance 0 0]

def assembleRun (quote : Nat) : List (Tick GasCall Nat) :=
  [.launch 0 (.assembleQuote "desk" quote true), .advance 0 0]

def settleRun (bundle : Nat) : List (Tick GasCall Nat) :=
  [.launch 0 (.settle bundle true 1), .advance 0 0, .advance 0 0, .advance 0 0, .advance 0 0]

def gasRun (es : List (Tick GasCall Nat)) : Option (World GasState GasOp) :=
  Runs.run (step (gasSystem RateLib.halfUp tenDollars)) (idleGas 0) es

/-- One quote, assembled and settled three times. -/
def thriceRun : List (Tick GasCall Nat) :=
  quoteRun ++ assembleRun 0 ++ assembleRun 0 ++ assembleRun 0 ++
    settleRun 0 ++ settleRun 1 ++ settleRun 2

/-- The quote is within the budget, and its three bundles cost eighteen dollars of ten. -/
theorem budget_overdrawn :
    ∃ w, gasRun thriceRun = some w ∧
      ¬ BudgetKept tenDollars.gasSponsorshipRateLimiter w.shared := by
  have hrun : (gasRun thriceRun).map
      (fun w => ((w.shared.store ⟨"gas_sponsorship_rate_limitdesk", 0⟩).map Entry.value,
        w.shared.records.map GasRecord.value)) = some (some 18, [6, 6, 6]) := by decide +kernel
  obtain ⟨w, hw, hend⟩ := Option.map_eq_some_iff.mp hrun
  obtain ⟨hstore, hrecords⟩ := Prod.mk.inj hend
  obtain ⟨e, he, hvalue⟩ := Option.map_eq_some_iff.mp hstore
  refine ⟨w, hw, fun h => ?_⟩
  rcases h.within _ e he with hle | ⟨r, hr, -, hle⟩
  · rw [hvalue] at hle
    exact absurd hle (by decide +kernel)
  · have hsix : r.value ∈ w.shared.records.map GasRecord.value := List.mem_map_of_mem hr
    rw [hrecords] at hsix
    have hr6 : r.value = 6 := by simpa using hsix
    rw [hvalue, hr6] at hle
    exact absurd hle (by decide +kernel)

/-- Three quotes, each of them settled before the next is priced, while another user asks for one:
the third comes without a refund, and two bundles overdraw the budget by less than one. -/
def inTurnRun : List (Tick GasCall Nat) :=
  [.launch 1 (.quote "other" true 6), .advance 1 0] ++ quoteRun ++ assembleRun 0 ++ settleRun 0 ++
    quoteRun ++ assembleRun 1 ++ [.advance 1 0] ++ settleRun 1 ++
    quoteRun ++ assembleRun 3 ++ settleRun 2

theorem budget_kept_inTurn :
    ∃ w, gasRun inTurnRun = some w ∧
      w.shared.records.map GasRecord.value = [6, 6, 0] ∧
      BudgetKept tenDollars.gasSponsorshipRateLimiter w.shared := by
  have hrun : (gasRun inTurnRun).map (fun w => w.shared.records.map GasRecord.value) =
      some [6, 6, 0] := by decide +kernel
  obtain ⟨w, hw, hvalues⟩ := Option.map_eq_some_iff.mp hrun
  exact ⟨w, hw, hvalues, budget_kept (by decide +kernel) hw (by decide +kernel)⟩

end RelayerExtensions.Auth
