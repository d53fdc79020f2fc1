import RelayerExtensions.Auth.RateLimiter
import RelayerExtensions.Lib.Runs
import Mathlib.Data.Nat.Cast.Order.Ring
import Mathlib.Tactic.Linarith

/-!
# A user's bundle tokens over one window

Three calls touch a user's bundle counter, and each is implemented in its own way:
`consume_bundle_token` increments and rolls back if that was too much, `add_bundle_token`
reads, subtracts with a floor at zero and writes, and `peek_bundle_rate_limit` compares what
it reads with `≥`, taking a missing key for zero. The limit can differ from call to call, since
it is read from the user's key each time.

Called one after the other, they are the operations on one natural number (`Counts`), however
much time passes between the commands: `consume_counts`, `refund_counts` and `peek_counts` say
which. All there is to say about a history follows from these three.
-/

namespace RelayerExtensions.Auth

open Redis RedisRateLimiter AuthServerRateLimiter

/-- A call, with the limit it is given, if any, and the instants it runs at. -/
inductive BundleCall where
  | consume (maxTokens : Option Nat) (keyAt ttlAt runAt : Nat)
  | refund (keyAt getAt keyAgainAt : Nat)
  | peek (maxTokens : Option Nat) (keyAt getAt : Nat)
deriving DecidableEq

structure BundleHistory where
  store : RateStore
  /-- How many calls took a token. -/
  accepted : Nat
  /-- How many refunds found a token taken. -/
  refunded : Nat
  /-- The limits tokens were asked for with. -/
  limits : List Nat

/-! ## The counter as a natural number -/

/-- The key counts `n` tokens, and does not expire. -/
def Counts (s : RateStore) (key : RateKey) (n : Nat) : Prop :=
  s key = some ⟨n, none⟩ ∨ n = 0 ∧ s key = none

theorem Counts.fresh {s : RateStore} {key : RateKey} {n : Nat} (h : Counts s key n) (now : Nat) :
    s.Fresh now key := by
  intro e he
  rcases h with h | ⟨-, h⟩
  · rw [h] at he
    cases he
    rfl
  · rw [h] at he
    cases he

theorem Counts.counter {s : RateStore} {key : RateKey} {n : Nat} (h : Counts s key n)
    (now : Nat) : s.counter now key = n := by
  rw [(h.fresh now).counter_eq]
  rcases h with h | ⟨rfl, h⟩
  · rw [h]
    rfl
  · rw [h]
    exact Nat.cast_zero.symm

theorem Counts.expiry {s : RateStore} {key : RateKey} {n : Nat} (h : Counts s key n)
    (now : Nat) : (s.find now key).bind Entry.expiry = none := by
  rw [(h.fresh now).find_eq]
  rcases h with h | ⟨-, h⟩
  · rw [h]
    rfl
  · rw [h]
    rfl

/-! ## The three calls -/

theorem consumeToken_eq (lib : RateLib) (limiter : RedisRateLimiter) (user : String)
    (maxTokens : Option Nat) (keyAt ttlAt runAt : Nat) (s : RateStore) :
    consumeToken lib limiter user maxTokens keyAt ttlAt runAt s =
      let r := limiter.incrementConsumed lib user 1 (maxTokens.map Nat.cast) keyAt ttlAt runAt s
      (r.1.isOk, r.2) := by
  rw [consumeToken]
  cases limiter.incrementConsumed lib user 1 (maxTokens.map Nat.cast) keyAt ttlAt runAt s with
  | mk result s' =>
      cases result with
      | ok consumed | error e => rfl

section Calls

variable {lib : RateLib} {server : AuthServerRateLimiter} {user : String} {bundleRateLimit : Nat}
  {s : RateStore} {key : RateKey} {n keyAt : Nat}

theorem limit_eq (hserver : server.bundleRateLimiter = newBundleRateLimiter bundleRateLimit)
    (maxTokens : Option Nat) :
    (maxTokens.map Nat.cast).getD server.bundleRateLimiter.maxTokens =
      ((maxTokens.getD bundleRateLimit : Nat) : ℚ) := by
  rw [hserver]
  cases maxTokens with
  | none | some m => rfl

/-- A token is to be had if fewer than the limit are taken, and then one more is. -/
theorem consume_counts (hserver : server.bundleRateLimiter = newBundleRateLimiter bundleRateLimit)
    (hkey : server.bundleRateLimiter.buildKey lib user keyAt = key) (h : Counts s key n)
    (maxTokens : Option Nat) (ttlAt runAt : Nat) :
    let r := server.consumeBundleToken lib user maxTokens keyAt ttlAt runAt s
    r.1 = decide (n < maxTokens.getD bundleRateLimit) ∧
      Counts r.2 key (if n < maxTokens.getD bundleRateLimit then n + 1 else n) := by
  have hover : ((maxTokens.getD bundleRateLimit : Nat) : ℚ) < (n : ℚ) + 1 ↔
      ¬ n < maxTokens.getD bundleRateLimit := by
    rw [← Nat.cast_succ, Nat.cast_lt]
    omega
  -- the script answers -1 to a call it refuses, which no count is
  have hnot : (n : ℚ) + 1 ≠ -1 := by
    have hpos : (0 : ℚ) ≤ n := Nat.cast_nonneg n
    intro hneg
    linarith
  rw [consumeBundleToken, consumeToken_eq]
  dsimp only
  rw [incrementConsumed_result, incrementConsumed_store, limit_eq hserver, hkey]
  dsimp only
  rw [h.counter runAt]
  by_cases hroom : n < maxTokens.getD bundleRateLimit
  · have hle : ¬ ((maxTokens.getD bundleRateLimit : Nat) : ℚ) < (n : ℚ) + 1 :=
      fun hlt => hover.mp hlt hroom
    refine ⟨?_, .inl ?_⟩
    · rw [if_neg (not_or.mpr ⟨hle, hnot⟩), decide_eq_true hroom]
      rfl
    · rw [incrLimit_self, h.expiry runAt, settled, h.counter runAt, if_neg hle, if_pos hroom,
        Nat.cast_succ]
  · have hlt := hover.mpr hroom
    refine ⟨?_, .inl ?_⟩
    · rw [if_pos (Or.inl hlt), decide_eq_false hroom]
      rfl
    · rw [incrLimit_self, h.expiry runAt, settled, h.counter runAt, if_pos hlt, if_neg hroom]

theorem getConsumed_counts (hkey : server.bundleRateLimiter.buildKey lib user keyAt = key)
    (h : Counts s key n) (getAt : Nat) :
    server.bundleRateLimiter.getConsumed lib user keyAt getAt s = n := by
  rw [getConsumed, hkey, lib.redis.getD_get, h.counter getAt]

/-- A refund takes one off, if there is one. -/
theorem refund_counts {keyAgainAt : Nat}
    (hkey : server.bundleRateLimiter.buildKey lib user keyAt = key)
    (hagain : server.bundleRateLimiter.buildKey lib user keyAgainAt = key) (h : Counts s key n)
    (getAt : Nat) :
    Counts (server.addBundleToken lib user keyAt getAt keyAgainAt s) key (n - 1) := by
  have hfloor : max ((n : ℚ) - 1) 0 = ((n - 1 : Nat) : ℚ) := by
    cases n with
    | zero | succ n => simp
  refine .inl ?_
  rw [addBundleToken, decrementConsumed, getConsumed_counts hkey h, hagain]
  dsimp only
  rw [lib.redis.set_self, hfloor]

/-- The peek is refused if the limit is reached. -/
theorem peek_counts (hserver : server.bundleRateLimiter = newBundleRateLimiter bundleRateLimit)
    (hkey : server.bundleRateLimiter.buildKey lib user keyAt = key) (h : Counts s key n)
    (maxTokens : Option Nat) (getAt : Nat) :
    server.peekBundleRateLimit lib user maxTokens keyAt getAt s = .error .rateLimit ↔
      maxTokens.getD bundleRateLimit ≤ n := by
  have hcheck : server.checkBundleRateLimit lib user maxTokens keyAt getAt s =
      decide (maxTokens.getD bundleRateLimit ≤ n) := by
    have hcounter : (lib.redis.get s getAt key).getD 0 = n := by
      rw [lib.redis.getD_get, h.counter getAt]
    rw [checkBundleRateLimit, rateLimitExceeded, hkey, limit_eq hserver, hcounter]
    simp
  rw [peekBundleRateLimit, hcheck]
  by_cases hle : maxTokens.getD bundleRateLimit ≤ n
  · rw [decide_eq_true hle]
    exact ⟨fun _ => hle, fun _ => rfl⟩
  · rw [decide_eq_false hle]
    exact ⟨fun hok => (by cases hok), fun h => absurd h hle⟩

end Calls

/-! ## Histories -/

section Histories

variable (lib : RateLib) (server : AuthServerRateLimiter) (bundleRateLimit : Nat) (user : String)
  (key : RateKey)

/-- The history after one more call. A peek changes nothing. -/
def BundleHistory.call (h : BundleHistory) : BundleCall → BundleHistory
  | .consume maxTokens keyAt ttlAt runAt =>
      let r := server.consumeBundleToken lib user maxTokens keyAt ttlAt runAt h.store
      { h with
        store := r.2
        accepted := if r.1 then h.accepted + 1 else h.accepted
        limits := maxTokens.getD bundleRateLimit :: h.limits }
  | .refund keyAt getAt keyAgainAt =>
      let found := server.bundleRateLimiter.getConsumed lib user keyAt getAt h.store
      { h with
        store := server.addBundleToken lib user keyAt getAt keyAgainAt h.store
        refunded := if 0 < found then h.refunded + 1 else h.refunded }
  | .peek _ _ _ => h

/-- The call finds the clock in the window of that key, each time it builds one. -/
def BundleCall.InWindow : BundleCall → Prop
  | .consume _ keyAt _ _ => server.bundleRateLimiter.buildKey lib user keyAt = key
  | .refund keyAt _ keyAgainAt =>
      server.bundleRateLimiter.buildKey lib user keyAt = key ∧
        server.bundleRateLimiter.buildKey lib user keyAgainAt = key
  | .peek _ keyAt _ => server.bundleRateLimiter.buildKey lib user keyAt = key

instance : DecidablePred (BundleCall.InWindow lib server user key)
  | .consume .. => inferInstanceAs (Decidable (_ = _))
  | .refund .. => inferInstanceAs (Decidable (_ ∧ _))
  | .peek .. => inferInstanceAs (Decidable (_ = _))

/-- What the tokens of a window come to, at any moment between two calls. -/
structure Tallied (h : BundleHistory) : Prop where
  /-- The count is what was taken without what was refunded, and within the limits. -/
  count : ∃ n : Nat, (∀ now, h.store.counter now key = n) ∧
    (n : ℤ) = h.accepted - h.refunded ∧ n ≤ h.limits.foldr max 0
  /-- A call that gets no token changes no count. -/
  rejected : ∀ maxTokens keyAt ttlAt runAt now,
    server.bundleRateLimiter.buildKey lib user keyAt = key →
    (server.consumeBundleToken lib user maxTokens keyAt ttlAt runAt h.store).1 = false →
    (server.consumeBundleToken lib user maxTokens keyAt ttlAt runAt h.store).2.counter now key =
      h.store.counter now key
  /-- A peek is refused exactly if a token with that limit would be. -/
  peek : ∀ maxTokens keyAt getAt keyAt' ttlAt runAt,
    server.bundleRateLimiter.buildKey lib user keyAt = key →
    server.bundleRateLimiter.buildKey lib user keyAt' = key →
    (server.peekBundleRateLimit lib user maxTokens keyAt getAt h.store = .error .rateLimit ↔
      (server.consumeBundleToken lib user maxTokens keyAt' ttlAt runAt h.store).1 = false)

variable {lib server bundleRateLimit user key}

/-- The counter and the tallies agree. -/
def Agrees (key : RateKey) (h : BundleHistory) : Prop :=
  ∃ n, Counts h.store key n ∧ n + h.refunded = h.accepted ∧ n ≤ h.limits.foldr max 0

theorem Agrees.tallied (hserver : server.bundleRateLimiter = newBundleRateLimiter bundleRateLimit)
    {h : BundleHistory} (ha : Agrees key h) : Tallied lib server user key h := by
  obtain ⟨n, hcounts, hsum, hle⟩ := ha
  refine ⟨⟨n, hcounts.counter, by omega, hle⟩, ?_, ?_⟩
  · intro maxTokens keyAt ttlAt runAt now hkey hno
    obtain ⟨hresult, hafter⟩ := consume_counts hserver hkey hcounts maxTokens ttlAt runAt
    rw [hno] at hresult
    rw [if_neg (of_decide_eq_false hresult.symm)] at hafter
    rw [hafter.counter now, hcounts.counter now]
  · intro maxTokens keyAt getAt keyAt' ttlAt runAt hkey hkey'
    rw [peek_counts hserver hkey hcounts,
      (consume_counts hserver hkey' hcounts maxTokens ttlAt runAt).1, decide_eq_false_iff_not,
      not_lt]

/-- One call keeps the counter and the tallies together. -/
theorem agrees_call (hserver : server.bundleRateLimiter = newBundleRateLimiter bundleRateLimit)
    {h : BundleHistory} {call : BundleCall} (hcall : call.InWindow lib server user key)
    (ha : Agrees key h) : Agrees key (h.call lib server bundleRateLimit user call) := by
  obtain ⟨n, hcounts, hsum, hle⟩ := ha
  cases call with
  | consume maxTokens keyAt ttlAt runAt =>
      obtain ⟨hresult, hafter⟩ := consume_counts hserver hcall hcounts maxTokens ttlAt runAt
      refine ⟨_, hafter, ?_, ?_⟩
      · simp only [BundleHistory.call, hresult, decide_eq_true_eq]
        split
        · omega
        · exact hsum
      · simp only [BundleHistory.call, List.foldr_cons]
        split <;> omega
  | refund keyAt getAt keyAgainAt =>
      refine ⟨n - 1, refund_counts hcall.1 hcall.2 hcounts getAt, ?_, ?_⟩
      · simp only [BundleHistory.call, getConsumed_counts hcall.1 hcounts, Nat.cast_pos]
        split <;> omega
      · exact (Nat.sub_le n 1).trans hle
  | peek maxTokens keyAt getAt => exact ⟨n, hcounts, hsum, hle⟩

/--
**Over any history of a window the tokens tally**: a call that gets none changes no count, the
count is what was taken without the refunds that found something, within the largest limit asked
with, and a peek is refused exactly if a token would be.
-/
theorem bundle_history_tallied
    (hserver : server.bundleRateLimiter = newBundleRateLimiter bundleRateLimit) {s : RateStore}
    (hnew : s key = none) {calls : List BundleCall}
    (hwindow : ∀ call ∈ calls, call.InWindow lib server user key) :
    Tallied lib server user key
      (calls.foldl (BundleHistory.call lib server bundleRateLimit user) ⟨s, 0, 0, []⟩) := by
  have hstart : Agrees key ⟨s, 0, 0, []⟩ := ⟨0, .inr ⟨rfl, hnew⟩, rfl, Nat.le_refl 0⟩
  refine Agrees.tallied hserver (Runs.run_preserves_of ?_ calls hwindow hstart
    (Runs.run_total (BundleHistory.call lib server bundleRateLimit user) calls _))
  intro h call h' hcall ha hstep
  cases hstep
  exact agrees_call hserver hcall ha

/-- At most three bundles a minute, unless the key says otherwise. -/
def threeBundles : AuthServerRateLimiter := .new 100 3 10

/-- The second call finds the limit of its key reached, and the second refund nothing. -/
def deskCalls : List BundleCall :=
  [.consume (some 1) 0 0 0, .consume (some 1) 5 5 6, .peek none 6 6, .refund 7 7 8,
    .refund 9 9 9, .consume none 10 10 10]

def deskHistory : BundleHistory :=
  deskCalls.foldl (BundleHistory.call RateLib.halfUp threeBundles 3 "desk")
    ⟨fun _ => none, 0, 0, []⟩

theorem deskHistory_tallied :
    (deskHistory.accepted = 2 ∧ deskHistory.refunded = 1 ∧ deskHistory.limits = [3, 1, 1]) ∧
      Tallied RateLib.halfUp threeBundles "desk" ⟨"bundle_rate_limitdesk", 0⟩ deskHistory :=
  ⟨by decide +kernel, bundle_history_tallied rfl rfl (by decide +kernel)⟩

end Histories

end RelayerExtensions.Auth
