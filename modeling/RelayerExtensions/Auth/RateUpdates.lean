import Mathlib.Algebra.BigOperators.Group.List.Basic
import Mathlib.Tactic.Linarith
import RelayerExtensions.Auth.RateLimiter
import RelayerExtensions.Lib.Procs

/-!
# Concurrent updates of a rate-limit counter

The writers of `Auth.RateLimiter`, cut at every clock reading and every command, and
the question whether a counter accounts for all of them.

The script and `INCRBYFLOAT` are one command each and cannot lose anything.
`decrement_consumed` is two: it reads under one key and writes under another, built
later, so it can write back a number that is no longer there, into a window it did not
read. Ghost state: `log` has every update in the order in which it took effect, with
the window it read and the window it wrote.

`Undisturbed` says when a write is harmless: a decrement finds the window and the
number it has read, and nothing reaches Redis so late that its key has expired. Under
it the counters are the log, replayed (`no_update_lost`).
-/

namespace RelayerExtensions.Auth

open Redis Procs RedisRateLimiter

/-- An update as its caller means it. -/
inductive Change where
  | incr (amount : ℚ)
  | decr (amount : ℚ)
deriving DecidableEq

def Change.apply (v : ℚ) : Change → ℚ
  | .incr amount => v + amount
  | .decr amount => max (v - amount) 0

/-- A counter that starts at zero, after these updates. -/
def replay (changes : List Change) : ℚ := changes.foldl Change.apply 0

/-- An update that took effect: the window it read, and the one it wrote. -/
structure RateUpdate where
  readIn : RateKey
  key : RateKey
  change : Change
deriving DecidableEq

structure RateState where
  now : Nat
  store : RateStore
  /-- Ghost: the updates so far. -/
  log : List RateUpdate

/-- The updates of one window, in the order in which they took effect. -/
def RateState.updates (s : RateState) (key : RateKey) : List Change :=
  (s.log.filter fun u => u.key = key).map RateUpdate.change

def RateState.write (s : RateState) (store : RateStore) (u : RateUpdate) : RateState :=
  { s with store := store, log := s.log ++ [u] }

/-- Where a call stands: what it will do next. -/
inductive RateOp where
  /-- `increment_consumed` -/
  | incrementKey (user : String) (amount limit : ℚ)
  | incrementTtl (key : RateKey) (amount limit : ℚ)
  | incrementRun (key : RateKey) (ttl : Nat) (amount limit : ℚ)
  /-- `increment_consumed_no_check` -/
  | noCheckKey (user : String) (amount : ℚ)
  | noCheckTtl (key : RateKey) (amount : ℚ)
  | noCheckIncr (key : RateKey) (ttl : Nat) (amount : ℚ)
  | noCheckExpire (key : RateKey) (ttl : Nat)
  /-- `decrement_consumed` -/
  | decrementKey (user : String) (amount : ℚ)
  | decrementGet (user : String) (key : RateKey) (amount : ℚ)
  | decrementKeyAgain (user : String) (readIn : RateKey) (consumed amount : ℚ)
  | decrementSet (readIn key : RateKey) (consumed amount : ℚ)
deriving DecidableEq

inductive RateCall where
  | incrementConsumed (user : String) (amount : ℚ) (maxTokens : Option ℚ)
  | incrementConsumedNoCheck (user : String) (amount : ℚ)
  | decrementConsumed (user : String) (amount : ℚ)

section Model

variable (lib : RateLib) (limiter : RedisRateLimiter)

def launchRate (_ : RateState) : RateCall → RateOp
  | .incrementConsumed user amount maxTokens =>
      .incrementKey user amount (maxTokens.getD limiter.maxTokens)
  | .incrementConsumedNoCheck user amount => .noCheckKey user amount
  | .decrementConsumed user amount => .decrementKey user amount

/-- One action, `elapsed` after the last one of anybody. -/
def nextRate (s : RateState) (op : RateOp) (elapsed : Nat) : RateState × Option RateOp :=
  let now := s.now + elapsed
  let s := { s with now := now }
  match op with
  | .incrementKey user amount limit =>
      (s, some (.incrementTtl (limiter.buildKey lib user now) amount limit))
  | .incrementTtl key amount limit =>
      (s, some (.incrementRun key (limiter.getTtlSeconds now) amount limit))
  | .incrementRun key ttl amount limit =>
      let store := (incrLimit lib key limit ttl amount now s.store).2
      -- a rejected increment has been rolled back
      (if limit < s.store.counter now key + amount then { s with store := store }
        else s.write store ⟨key, key, .incr amount⟩, none)
  | .noCheckKey user amount => (s, some (.noCheckTtl (limiter.buildKey lib user now) amount))
  | .noCheckTtl key amount => (s, some (.noCheckIncr key (limiter.getTtlSeconds now) amount))
  | .noCheckIncr key ttl amount =>
      (s.write (lib.redis.incrByFloat s.store now key amount).2 ⟨key, key, .incr amount⟩,
        some (.noCheckExpire key ttl))
  | .noCheckExpire key ttl =>
      ({ s with store := (lib.redis.expireAt s.store now key (ttl * nanos)).2 }, none)
  | .decrementKey user amount =>
      (s, some (.decrementGet user (limiter.buildKey lib user now) amount))
  | .decrementGet user key amount =>
      (s, some (.decrementKeyAgain user key ((lib.redis.get s.store now key).getD 0) amount))
  | .decrementKeyAgain user readIn consumed amount =>
      (s, some (.decrementSet readIn (limiter.buildKey lib user now) consumed amount))
  | .decrementSet readIn key consumed amount =>
      (s.write (lib.redis.set s.store key (max (consumed - amount) 0))
        ⟨readIn, key, .decr amount⟩, none)

def rateSystem : System RateState RateOp RateCall Nat :=
  ⟨launchRate limiter, nextRate lib limiter⟩

/-- The call as `Auth.RateLimiter` has it, its readings and commands so long after one
another. -/
def RateCall.code (now : Nat) (a b c d : Nat) (s : RateStore) : RateCall → RateStore
  | .incrementConsumed user amount maxTokens =>
      (limiter.incrementConsumed lib user amount maxTokens (now + a) (now + a + b)
        (now + a + b + c) s).2
  | .incrementConsumedNoCheck user amount =>
      (limiter.incrementConsumedNoCheck lib user amount (now + a) (now + a + b)
        (now + a + b + c) (now + a + b + c + d) s).2
  | .decrementConsumed user amount =>
      (limiter.decrementConsumed lib user amount (now + a) (now + a + b) (now + a + b + c) s).2

/-- **The pieces put together are the functions.** -/
theorem rate_alone (call : RateCall) (a b c d : Nat) (s : RateState) :
    let r := feed (rateSystem lib limiter) [a, b, c, d] s (launchRate limiter s call)
    r.1.store = call.code lib limiter s.now a b c d s.store ∧ r.2 = none := by
  cases call with
  | incrementConsumed user amount maxTokens =>
      refine ⟨?_, rfl⟩
      rw [RateCall.code, incrementConsumed_store]
      simp only [feed, rateSystem, launchRate, nextRate]
      split <;> rfl
  | incrementConsumedNoCheck user amount | decrementConsumed user amount => exact ⟨rfl, rfl⟩

end Model

/-! ## Accounting -/

/-- No update is lost, and none lands in a window other than the one it read. -/
structure NoUpdateLost (s : RateState) : Prop where
  counters : ∀ key e, s.store key = some e →
    ∃ order : List Change, order.Perm (s.updates key) ∧ e.value = replay order
  windows : ∀ u ∈ s.log, u.key = u.readIn

/-- The command an operation is about to give finds what it relies on. -/
def RateOp.Undisturbed (s : RateState) (elapsed : Nat) : RateOp → Prop
  | .incrementRun key _ _ _ | .noCheckIncr key _ _ => s.store.Fresh (s.now + elapsed) key
  | .noCheckExpire _ ttl => s.now + elapsed < ttl * nanos
  | .decrementSet readIn key consumed _ =>
      key = readIn ∧ s.store.Fresh (s.now + elapsed) key ∧
        consumed = s.store.counter (s.now + elapsed) key
  | _ => True

def Undisturbed (w : World RateState RateOp) : Tick RateCall Nat → Prop
  | .advance p elapsed => ∀ op, w.ops p = some op → op.Undisturbed w.shared elapsed
  | _ => True

instance (s : RateState) (elapsed : Nat) (op : RateOp) : Decidable (op.Undisturbed s elapsed) :=
  match op with
  | .incrementRun key _ _ _ | .noCheckIncr key _ _ =>
      inferInstanceAs (Decidable (s.store.Fresh (s.now + elapsed) key))
  | .noCheckExpire _ ttl => inferInstanceAs (Decidable (s.now + elapsed < ttl * nanos))
  | .decrementSet readIn key consumed _ =>
      inferInstanceAs (Decidable (key = readIn ∧ s.store.Fresh (s.now + elapsed) key ∧
        consumed = s.store.counter (s.now + elapsed) key))
  | .incrementKey .. | .incrementTtl .. | .noCheckKey .. | .noCheckTtl .. | .decrementKey ..
  | .decrementGet .. | .decrementKeyAgain .. => .isTrue trivial

instance (w : World RateState RateOp) (e : Tick RateCall Nat) : Decidable (Undisturbed w e) :=
  match e with
  | .advance p elapsed => decidableOp w p fun op => op.Undisturbed w.shared elapsed
  | .launch .. | .drop .. => .isTrue trivial

/-- The number stored under a key, zero if there is none. -/
def RateState.value (s : RateState) (key : RateKey) : ℚ := ((s.store key).map Entry.value).getD 0

/-- The counters are the log, replayed. -/
structure Accounted (s : RateState) : Prop where
  values : ∀ key, s.value key = replay (s.updates key)
  windows : ∀ u ∈ s.log, u.key = u.readIn

theorem replay_append (changes : List Change) (c : Change) :
    replay (changes ++ [c]) = c.apply (replay changes) := by
  rw [replay, List.foldl_append]
  rfl

theorem updates_write_self (s : RateState) (store : RateStore) (u : RateUpdate) :
    (s.write store u).updates u.key = s.updates u.key ++ [u.change] := by
  simp [RateState.updates, RateState.write]

variable {s : RateState}

theorem updates_write_of_ne {store : RateStore} {u : RateUpdate} {key : RateKey}
    (h : key ≠ u.key) : (s.write store u).updates key = s.updates key := by
  simp [RateState.updates, RateState.write, h.symm]

theorem value_of_eq {key : RateKey} {e : Entry} (h : s.store key = some e) :
    s.value key = e.value := by
  rw [RateState.value, h]
  rfl

theorem Accounted.noUpdateLost (h : Accounted s) : NoUpdateLost s := by
  refine ⟨fun key e he => ⟨s.updates key, List.Perm.refl _, ?_⟩, h.windows⟩
  rw [← h.values key, value_of_eq he]

/-- A write that does to the stored number what the log says. -/
theorem Accounted.write (h : Accounted s) {store : RateStore} {key : RateKey} {c : Change}
    {e : Entry} (hself : store key = some e) (hval : e.value = c.apply (s.value key))
    (hothers : ∀ key', key' ≠ key → store key' = s.store key') :
    Accounted (s.write store ⟨key, key, c⟩) := by
  refine ⟨fun key' => ?_, fun u hu => ?_⟩
  · by_cases hk : key' = key
    · subst hk
      rw [updates_write_self s store ⟨key', key', c⟩, replay_append, ← h.values key', ← hval]
      exact value_of_eq hself
    · rw [updates_write_of_ne hk, ← h.values key']
      exact congrArg (fun o => (o.map Entry.value).getD 0) (hothers key' hk)
  · rcases List.mem_append.mp hu with hu | hu
    · exact h.windows u hu
    · rw [List.mem_singleton.mp hu]

/-- A command that changes no number. -/
theorem Accounted.keep (h : Accounted s) {store : RateStore} {now : Nat}
    (hval : ∀ key, ((store key).map Entry.value).getD 0 = s.value key) :
    Accounted { s with now := now, store := store } :=
  ⟨fun key => (hval key).trans (h.values key), h.windows⟩

theorem Accounted.tick (h : Accounted s) (now : Nat) :
    Accounted { s with now := now } := ⟨h.values, h.windows⟩

section Runs

variable {lib : RateLib} {limiter : RedisRateLimiter}

/-- **One action.** -/
theorem accounted_next {s : RateState} {op : RateOp} {elapsed : Nat} (h : Accounted s)
    (hC : op.Undisturbed s elapsed) : Accounted (nextRate lib limiter s op elapsed).1 := by
  have ht := h.tick (s.now + elapsed)
  cases op with
  | incrementKey | incrementTtl | noCheckKey | noCheckTtl | decrementKey | decrementGet
  | decrementKeyAgain => exact ht
  | incrementRun key ttl amount limit =>
      have hval : s.store.counter (s.now + elapsed) key = s.value key := hC.counter_eq
      have hself := incrLimit_self lib key limit ttl amount (s.now + elapsed) s.store
      rw [settled] at hself
      simp only [nextRate]
      split
      · -- rolled back: the number is the one that was there
        rename_i hover
        rw [if_pos hover] at hself
        refine h.keep fun key' => ?_
        by_cases hk : key' = key
        · subst hk
          rw [hself]
          exact hval
        · rw [incrLimit_of_ne lib hk]
          rfl
      · rename_i hunder
        rw [if_neg hunder] at hself
        refine ht.write hself ?_ fun key' hk => incrLimit_of_ne lib hk
        exact congrArg (· + amount) hval
  | noCheckIncr key ttl amount =>
      have hval : s.store.counter (s.now + elapsed) key = s.value key := hC.counter_eq
      refine ht.write (lib.redis.incrByFloat_self ..) ?_ fun key' hk =>
        lib.redis.incrByFloat_of_ne hk
      exact congrArg (· + amount) hval
  | noCheckExpire key ttl =>
      refine h.keep fun key' => ?_
      by_cases hk : key' = key
      · subst hk
        rcases lib.redis.expireAt_self s.store (s.now + elapsed) key' (ttl * nanos) with
          ⟨-, he⟩ | ⟨hlate, -⟩ | ⟨e, he, -, hnew⟩
        · rw [he]
          rfl
        · exact absurd hC (not_lt.mpr hlate)
        · rw [hnew]
          exact (value_of_eq (find_eq_some.mp he).1).symm
      · rw [lib.redis.expireAt_of_ne hk]
        rfl
  | decrementSet readIn key consumed amount =>
      obtain ⟨rfl, hfresh, rfl⟩ := hC
      have hval : s.store.counter (s.now + elapsed) key = s.value key := hfresh.counter_eq
      refine ht.write (lib.redis.set_self ..) ?_ fun key' hk => lib.redis.set_of_ne hk
      exact congrArg (fun v => max (v - amount) 0) hval

/-- A server in front of an empty Redis. -/
def idleRate (now : Nat) : World RateState RateOp := ⟨⟨now, fun _ => none, []⟩, fun _ => none⟩

/--
**No update is lost**, in every state of every run whose writes were undisturbed: each
counter is what its updates make of it in some order, and every update is in the window
it read.
-/
theorem no_update_lost {now : Nat} {es : List (Tick RateCall Nat)} {w : World RateState RateOp}
    (hm : Runs.Meets (step (rateSystem lib limiter)) Undisturbed (idleRate now) es)
    (hr : Runs.run (step (rateSystem lib limiter)) (idleRate now) es = some w) :
    NoUpdateLost w.shared := by
  have hinit : Inv Accounted (fun _ _ => True) (idleRate now) :=
    ⟨⟨fun _ => rfl, fun u hu => nomatch hu⟩, fun _ _ _ => trivial⟩
  have hrun := inv_run (fun _ _ _ => trivial) (fun w p op elapsed hI ho hC => ?_) es hinit hm hr
  · exact hrun.1.noUpdateLost
  · exact ⟨accounted_next hI.1 (hC op ho), fun _ _ => trivial, fun _ _ _ _ => trivial⟩

end Runs

/-! ## A refund and an order -/

/-- What an update adds, if it does not saturate. -/
def Change.signed : Change → ℚ
  | .incr amount => amount
  | .decr amount => -amount

theorem Change.add_signed_le (v : ℚ) (c : Change) : v + c.signed ≤ c.apply v := by
  cases c with
  | incr amount => exact le_refl _
  | decr amount => exact (sub_eq_add_neg v amount) ▸ le_max_left ..

theorem add_sum_le_foldl (changes : List Change) (v : ℚ) :
    v + (changes.map Change.signed).sum ≤ changes.foldl Change.apply v := by
  induction changes generalizing v with
  | nil => simp
  | cons c changes ih =>
      have hstep := Change.add_signed_le v c
      have hrest := ih (c.apply v)
      rw [List.map_cons, List.sum_cons, List.foldl_cons]
      linarith

/-- Whatever the order, a counter is at least its increments less its decrements. -/
theorem sum_le_replay {order changes : List Change} (h : order.Perm changes) :
    (changes.map Change.signed).sum ≤ replay order := by
  rw [← (h.map Change.signed).sum_eq]
  have hle := add_sum_le_foldl order 0
  rwa [zero_add] at hle

/-- Ten bundles a minute. -/
def tenBundles : RedisRateLimiter := AuthServerRateLimiter.newBundleRateLimiter 10

/-- A token for a bundle, taken by the process `p`. -/
def takeToken (p : Pid) : List (Tick RateCall Nat) :=
  [.launch p (.incrementConsumed "desk" 1 none), .advance p 0, .advance p 0, .advance p 0]

/-- The window of the first half minute. -/
def firstWindow : RateKey := ⟨"bundle_rate_limitdesk", 0⟩

def refundRun (between elapsed : Nat) (es : List (Tick RateCall Nat)) :
    Option (World RateState RateOp) :=
  Runs.run (step (rateSystem RateLib.halfUp tenBundles)) (idleRate between)
    (takeToken 0 ++ [.launch 1 (.decrementConsumed "desk" 1), .advance 1 0, .advance 1 0] ++ es ++
      [.advance 1 elapsed, .advance 1 0])

/--
**A refund overlaps another request**: it writes back the number it has read, and the
token taken in between is forgotten. **A refund overlaps the turn of the window**: it
starts the new window from the old one's number.
-/
theorem refund_overwrites :
    (∃ w, refundRun 0 0 (takeToken 2) = some w ∧ ¬ NoUpdateLost w.shared) ∧
      ∃ w, refundRun 0 oneMinute [] = some w ∧ ¬ NoUpdateLost w.shared := by
  constructor
  · have hrun : (refundRun 0 0 (takeToken 2)).map
        (fun w => (w.shared.store firstWindow, w.shared.updates firstWindow)) =
          some (some ⟨0, none⟩, [.incr 1, .incr 1, .decr 1]) := by decide +kernel
    obtain ⟨w, hw, hend⟩ := Option.map_eq_some_iff.mp hrun
    obtain ⟨hstore, hupdates⟩ := Prod.mk.inj hend
    refine ⟨w, hw, fun h => ?_⟩
    obtain ⟨order, hperm, hvalue⟩ := h.counters firstWindow _ hstore
    rw [hupdates] at hperm
    have hle := sum_le_replay hperm
    rw [← hvalue] at hle
    -- one token is out, and none is counted
    exact absurd hle (by decide +kernel)
  · have hrun : (refundRun 0 oneMinute []).map
        (fun w => w.shared.log.map fun u => (u.readIn, u.key)) =
        some [(firstWindow, firstWindow), (firstWindow, ⟨"bundle_rate_limitdesk", 60⟩)] := by
      decide +kernel
    obtain ⟨w, hw, hend⟩ := Option.map_eq_some_iff.mp hrun
    refine ⟨w, hw, fun h => ?_⟩
    have hmem : (firstWindow, ⟨"bundle_rate_limitdesk", 60⟩) ∈
        w.shared.log.map fun u => (u.readIn, u.key) := by
      rw [hend]
      simp
    obtain ⟨u, hu, hpair⟩ := List.mem_map.mp hmem
    obtain ⟨hread, hkey⟩ := Prod.mk.inj hpair
    have hwindow := h.windows u hu
    rw [hread, hkey] at hwindow
    exact absurd hwindow (by decide)

/-- A refund that nothing overlaps. -/
theorem no_update_lost_orderly : ∃ w, refundRun 0 0 [] = some w ∧ NoUpdateLost w.shared := by
  have hsome : (refundRun 0 0 []).isSome = true := by decide +kernel
  obtain ⟨w, hw⟩ := Option.isSome_iff_exists.mp hsome
  exact ⟨w, hw, no_update_lost (by decide +kernel) hw⟩

end RelayerExtensions.Auth
