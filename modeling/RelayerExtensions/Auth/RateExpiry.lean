import RelayerExtensions.Auth.RateUpdates

/-!
# Do rate-limit keys expire?

Each window has a key of its own, and nothing deletes a key but its expiry. The three
operations treat it differently. `increment_consumed_no_check` sets it, two refill
intervals ahead. The script of `increment_consumed` means to set it "on first touch",
but compares a string with a number, so it never does: it keeps an expiry that is there
and leaves a new key without one. `decrement_consumed` writes with `SET`, which drops
the expiry.

Operations follow one another here; overlapping ones are `Auth.RateUpdates`. Ghost
state: when each key was last written.
-/

namespace RelayerExtensions.Auth

open Redis RedisRateLimiter

/-- An operation, and the time that passes before each of its readings and commands. An
operation with three of them is followed by the fourth delay. -/
structure RateOperation where
  call : RateCall
  a : Nat
  b : Nat
  c : Nat
  d : Nat

structure ExpiryState where
  now : Nat
  store : RateStore
  /-- Ghost: when a key was last written. -/
  touched : RateKey → Option Nat

section Model

variable (lib : RateLib) (limiter : RedisRateLimiter)

/-- The key an operation writes, and when it gives its last command. -/
def RateOperation.written (op : RateOperation) (now : Nat) : RateKey × Nat :=
  match op.call with
  | .incrementConsumed user _ _ =>
      (limiter.buildKey lib user (now + op.a), now + op.a + op.b + op.c)
  | .incrementConsumedNoCheck user _ =>
      (limiter.buildKey lib user (now + op.a), now + op.a + op.b + op.c + op.d)
  | .decrementConsumed user _ =>
      (limiter.buildKey lib user (now + op.a + op.b + op.c), now + op.a + op.b + op.c + op.d)

def operate (s : ExpiryState) (op : RateOperation) : ExpiryState :=
  { now := s.now + op.a + op.b + op.c + op.d
    store := op.call.code lib limiter s.now op.a op.b op.c op.d s.store
    touched := Function.update s.touched (op.written lib limiter s.now).1
      (some (op.written lib limiter s.now).2) }

/-- Every key that is there expires, at most two refill intervals after it was last written. -/
def Expiring (s : ExpiryState) : Prop :=
  ∀ key e, s.store.find s.now key = some e → ∃ x t, e.expiry = some x ∧
    s.touched key = some t ∧ t ≤ s.now ∧ x ≤ t + 2 * limiter.refillInterval

/-- The operation sets the expiry, or finds its key in the store and keeps the expiry. -/
def KeepsExpiry (s : ExpiryState) (op : RateOperation) : Prop :=
  match op.call with
  | .incrementConsumed user _ _ =>
      (s.store.find (s.now + op.a + op.b + op.c)
        (limiter.buildKey lib user (s.now + op.a))).isSome = true
  | .incrementConsumedNoCheck .. => True
  | .decrementConsumed .. => False

def freshRedis (now : Nat) : ExpiryState := ⟨now, fun _ => none, fun _ => none⟩

end Model

variable {lib : RateLib} {limiter : RedisRateLimiter}

/-- What is there later was there before, unless it was written. -/
theorem find_of_later {s s' : RateStore} {now now' : Nat} {key : RateKey} {e : Entry}
    (hsame : s' key = s key) (hle : now ≤ now') (h : s'.find now' key = some e) :
    s.find now key = some e := by
  obtain ⟨he, hlive⟩ := find_eq_some.mp h
  refine find_eq_some.mpr ⟨hsame ▸ he, ?_⟩
  rw [Entry.live] at hlive ⊢
  cases hx : e.expiry with
  | none => rfl
  | some x =>
      rw [hx] at hlive
      have hx' := of_decide_eq_true hlive
      exact decide_eq_true (by omega)

theorem RateOperation.written_le (op : RateOperation) (lib : RateLib) (limiter : RedisRateLimiter)
    (now : Nat) :
    (op.written lib limiter now).2 ≤ now + op.a + op.b + op.c + op.d := by
  rw [RateOperation.written]
  cases op.call with
  | incrementConsumed => exact Nat.le_add_right ..
  | incrementConsumedNoCheck | decrementConsumed => exact le_refl _

/-- The key an operation does not write keeps what `Expiring` says of it. -/
theorem code_of_ne {op : RateOperation} {now : Nat} {key : RateKey} {s : RateStore}
    (h : key ≠ (op.written lib limiter now).1) :
    op.call.code lib limiter now op.a op.b op.c op.d s key = s key := by
  rw [RateOperation.written] at h
  cases hcall : op.call with
  | incrementConsumed user amount maxTokens =>
      rw [hcall] at h
      rw [RateCall.code, incrementConsumed_store]
      exact incrLimit_of_ne lib h
  | incrementConsumedNoCheck user amount =>
      rw [hcall] at h
      rw [RateCall.code, incrementConsumedNoCheck]
      dsimp only
      rw [lib.redis.expireAt_of_ne h]
      exact lib.redis.incrByFloat_of_ne h
  | decrementConsumed user amount =>
      rw [hcall] at h
      exact lib.redis.set_of_ne h

/-- So only the written key decides. -/
theorem expiring_operate_iff {s : ExpiryState} (h : Expiring limiter s) (op : RateOperation) :
    Expiring limiter (operate lib limiter s op) ↔
      ∀ e, (operate lib limiter s op).store.find (s.now + op.a + op.b + op.c + op.d)
          (op.written lib limiter s.now).1 = some e →
        ∃ x, e.expiry = some x ∧
          x ≤ (op.written lib limiter s.now).2 + 2 * limiter.refillInterval := by
  have hpast := op.written_le lib limiter s.now
  constructor
  · intro h' e he
    obtain ⟨x, t, hx, ht, -, hle⟩ := h' _ e he
    rw [show (operate lib limiter s op).touched _ = _ from Function.update_self ..] at ht
    exact ⟨x, hx, Option.some.inj ht ▸ hle⟩
  · intro h' key e he
    by_cases hkey : key = (op.written lib limiter s.now).1
    · subst hkey
      obtain ⟨x, hx, hle⟩ := h' e he
      exact ⟨x, _, hx, Function.update_self .., hpast, hle⟩
    · have hnow : s.now ≤ (operate lib limiter s op).now := by
        show s.now ≤ s.now + op.a + op.b + op.c + op.d
        omega
      have hold : s.store.find s.now key = some e := find_of_later (code_of_ne hkey) hnow he
      obtain ⟨x, t, hx, ht, htn, hle⟩ := h key e hold
      exact ⟨x, t, hx, (Function.update_of_ne hkey ..).trans ht, le_trans htn hnow, hle⟩

/-- The expiry computed now is at most two intervals ahead. -/
theorem RedisRateLimiter.ttl_le (limiter : RedisRateLimiter) (now : Nat) :
    limiter.getTtlSeconds now * nanos ≤ now + 2 * limiter.refillInterval :=
  Nat.div_mul_le_self ..

/-- The script's key is under the expiry it was under, if any. -/
theorem increment_entry (lib : RateLib) (limiter : RedisRateLimiter) (user : String) (amount : ℚ)
    (maxTokens : Option ℚ) (now a b c d : Nat) (s : RateStore) :
    ∃ v, (RateCall.incrementConsumed user amount maxTokens).code lib limiter now a b c d s
        (limiter.buildKey lib user (now + a)) =
      some ⟨v, (s.find (now + a + b + c) (limiter.buildKey lib user (now + a))).bind
        Entry.expiry⟩ := by
  refine ⟨settled s (limiter.buildKey lib user (now + a)) (maxTokens.getD limiter.maxTokens)
    amount (now + a + b + c), ?_⟩
  rw [RateCall.code, incrementConsumed_store, incrLimit_self]

/-- After the pipeline its key is gone, or under the expiry just computed. -/
theorem noCheck_entry {user : String} {amount : ℚ} {now a b c d : Nat} {s : RateStore} {e : Entry}
    (he : Store.find
      ((RateCall.incrementConsumedNoCheck user amount).code lib limiter now a b c d s)
      (now + a + b + c + d) (limiter.buildKey lib user (now + a)) = some e) :
    e.expiry = some (limiter.getTtlSeconds (now + a + b) * nanos) := by
  obtain ⟨hentry, hlive⟩ := find_eq_some.mp he
  rw [RateCall.code, incrementConsumedNoCheck] at hentry
  dsimp only at hentry
  rcases lib.redis.expireAt_self
    (lib.redis.incrByFloat s (now + a + b + c) (limiter.buildKey lib user (now + a)) amount).2
    (now + a + b + c + d) (limiter.buildKey lib user (now + a))
    (limiter.getTtlSeconds (now + a + b) * nanos) with ⟨hnone, heq⟩ | ⟨-, hgone⟩ | ⟨e₀, -, -, hnew⟩
  · -- it expired between the two commands
    rw [heq] at hentry
    rw [find_eq_some.mpr ⟨hentry, hlive⟩] at hnone
    cases hnone
  · rw [hgone] at hentry
    cases hentry
  · rw [hnew, Option.some.injEq] at hentry
    rw [← hentry]

/-- **One operation.** -/
theorem expiring_step {s : ExpiryState} (h : Expiring limiter s) (op : RateOperation) :
    Expiring limiter (operate lib limiter s op) ↔ KeepsExpiry lib limiter s op := by
  rw [expiring_operate_iff h]
  obtain ⟨call, a, b, c, d⟩ := op
  cases call with
  | incrementConsumed user amount maxTokens =>
      obtain ⟨v, hself⟩ := increment_entry lib limiter user amount maxTokens s.now a b c d
        s.store
      show _ ↔ (s.store.find (s.now + a + b + c)
        (limiter.buildKey lib user (s.now + a))).isSome = true
      cases hfind : s.store.find (s.now + a + b + c)
        (limiter.buildKey lib user (s.now + a)) with
      | none =>
          -- a new key, and nobody gives it an expiry
          rw [hfind] at hself
          refine ⟨fun h' => ?_, fun hkeeps => nomatch hkeeps⟩
          obtain ⟨x, hx, -⟩ := h' _ (find_eq_some.mpr ⟨hself, Entry.live_of_no_expiry rfl⟩)
          cases hx
      | some e₀ =>
          rw [hfind] at hself
          refine ⟨fun _ => rfl, fun _ e he => ?_⟩
          obtain ⟨x, t, hx, -, htn, hle⟩ := h _ e₀ (find_of_later rfl (by omega) hfind)
          have heq := Option.some.inj ((find_eq_some.mp he).1.symm.trans hself)
          refine ⟨x, heq ▸ hx, ?_⟩
          show x ≤ s.now + a + b + c + 2 * limiter.refillInterval
          omega
  | incrementConsumedNoCheck user amount =>
      refine ⟨fun _ => trivial, fun _ e he => ⟨_, noCheck_entry he, ?_⟩⟩
      have httl := limiter.ttl_le (s.now + a + b)
      show limiter.getTtlSeconds (s.now + a + b) * nanos ≤
        s.now + a + b + c + d + 2 * limiter.refillInterval
      omega
  | decrementConsumed user amount =>
      refine ⟨fun h' => ?_, fun hkeeps => nomatch hkeeps⟩
      obtain ⟨x, hx, -⟩ := h' _ (find_eq_some.mpr
        ⟨lib.redis.set_self .., Entry.live_of_no_expiry rfl⟩)
      cases hx

/--
**When keys expire.** From an empty Redis, every key present expires in time in every state
of a run exactly if each operation of it records without a check, or is an
`increment_consumed` that finds its key; a single `decrement_consumed` is too many.
-/
theorem expiring_iff (lib : RateLib) (limiter : RedisRateLimiter) (now : Nat)
    (ops : List RateOperation) :
    Runs.Always (fun s op => some (operate lib limiter s op)) (Expiring limiter)
        (freshRedis now) ops ↔
      Runs.Meets (fun s op => some (operate lib limiter s op)) (KeepsExpiry lib limiter)
        (freshRedis now) ops := by
  refine Runs.always_iff_meets (fun s op s' h hs => ?_) ops (fun key e he => ?_)
    (Runs.run_total _ ops _)
  · rw [← Option.some.inj hs]
    exact expiring_step h op
  · cases he

/-- One token taken, and the key is there for good. -/
theorem first_touch_never_expires :
    ∃ ops, ¬ Runs.Always (fun s op => some (operate RateLib.halfUp tenBundles s op))
      (Expiring tenBundles) (freshRedis 0) ops := by
  refine ⟨[⟨.incrementConsumed "desk" 1 none, 0, 0, 0, 0⟩], fun h => ?_⟩
  have hafter := (h.2 _ rfl : Expiring tenBundles _)
  obtain ⟨x, -, hx, -⟩ := hafter firstWindow ⟨1, none⟩ (by decide +kernel)
  cases hx

end RelayerExtensions.Auth
