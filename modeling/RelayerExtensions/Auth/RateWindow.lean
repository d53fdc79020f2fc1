import Mathlib.Tactic.Linarith
import RelayerExtensions.Auth.RateLimiter

/-!
# Where the windows of the rate limiter lie

`round_to_nearest_refill` is documented to round the current time down, which would make
the aligned interval `[k * T, (k + 1) * T)` one window. It calls `duration_round`, which
rounds to the nearest multiple: the window turns in the middle of the interval, and a
user has a fresh counter in each half (`buildKey_eq_iff`).

A schedule is a list of calls in the order in which their scripts reach Redis. Along it
the counter of a window is the number of calls the window accepted, so a window never
accepts more than the limit (`accepted_le`); whether an aligned interval does depends on
how many windows its calls are in (`aligned_iff`).
-/

namespace RelayerExtensions.Auth

open Redis RedisRateLimiter

/-- The instant is in the first half of its aligned interval. -/
def FirstHalf (T t : Nat) : Prop := 2 * (t % T) < T

instance (T t : Nat) : Decidable (FirstHalf T t) := inferInstanceAs (Decidable (_ < _))

section Rounding

variable {lib : RateLib} {T t : Nat}

/-- The multiple of the interval an instant is rounded to. -/
theorem round_eq (hc : lib.Nearest) (hT : 0 < T) :
    lib.durationRound t T = (if FirstHalf T t then t / T else t / T + 1) * T := by
  obtain ⟨⟨c, hr⟩, hup, hdown⟩ := hc t T hT
  rw [hr, Nat.mul_comm T c] at hup hdown ⊢
  have hdiv : t / T * T + t % T = t := Nat.div_add_mod' t T
  have hmod := Nat.mod_lt t hT
  congr 1
  -- compare the multiples, not the quotients
  have lt_of_mul {a b : Nat} (h : a * T < b * T) : a < b := Nat.lt_of_mul_lt_mul_right h
  by_cases hhalf : FirstHalf T t
  · rw [if_pos hhalf]
    rw [FirstHalf] at hhalf
    have h₁ : c < t / T + 1 := lt_of_mul (by rw [Nat.add_mul]; omega)
    have h₂ : t / T < c + 1 := lt_of_mul (by rw [Nat.add_mul]; omega)
    omega
  · rw [if_neg hhalf]
    rw [FirstHalf] at hhalf
    have h₁ : c < t / T + 2 := lt_of_mul (by rw [Nat.add_mul]; omega)
    have h₂ : t / T < c := lt_of_mul (by omega)
    omega

variable {limiter : RedisRateLimiter}

/-- **Two instants of one aligned interval have one key exactly if they are in the same half
of it.** -/
theorem buildKey_eq_iff (hc : lib.Nearest) (hpos : 0 < limiter.refillInterval)
    (hsec : nanos ∣ limiter.refillInterval) (user : String) {t u : Nat}
    (haligned : t / limiter.refillInterval = u / limiter.refillInterval) :
    limiter.buildKey lib user t = limiter.buildKey lib user u ↔
      (FirstHalf limiter.refillInterval t ↔ FirstHalf limiter.refillInterval u) := by
  obtain ⟨m, hm⟩ := hsec
  have hmpos : 0 < m := by
    rcases Nat.eq_zero_or_pos m with rfl | h
    · omega
    · exact h
  -- the second in the key, as a multiple of the interval's length in seconds
  have hsecond : ∀ q, q * limiter.refillInterval / nanos = q * m := fun q => by
    rw [hm, Nat.mul_left_comm, Nat.mul_div_cancel_left _ (by decide)]
  have hne : ∀ q, (q + 1) * m ≠ q * m := fun q => by
    rw [Nat.add_mul]
    omega
  rw [buildKey, buildKey, RateKey.mk.injEq, roundToNearestRefill, roundToNearestRefill,
    round_eq hc hpos, round_eq hc hpos, hsecond, hsecond, haligned]
  by_cases ht : FirstHalf limiter.refillInterval t <;>
    by_cases hu : FirstHalf limiter.refillInterval u
  · simp [ht, hu]
  · simp [ht, hu, (hne _).symm]
  · simp [ht, hu, hne]
  · simp [ht, hu]

/-- No aligned interval is one window: its first instant and its last have different keys. -/
theorem buildKey_turns (hc : lib.Nearest) (hpos : 0 < limiter.refillInterval)
    (hsec : nanos ∣ limiter.refillInterval) (user : String) (k : Nat) :
    ∃ t u, t / limiter.refillInterval = k ∧ u / limiter.refillInterval = k ∧
      limiter.buildKey lib user t ≠ limiter.buildKey lib user u := by
  have hlong : nanos ≤ limiter.refillInterval := Nat.le_of_dvd hpos hsec
  have hnanos : nanos = 1000000000 := rfl
  have hlast : limiter.refillInterval - 1 < limiter.refillInterval := by omega
  have ht : (k * limiter.refillInterval) / limiter.refillInterval = k :=
    Nat.mul_div_cancel k hpos
  have hu : (k * limiter.refillInterval + (limiter.refillInterval - 1)) /
      limiter.refillInterval = k := by
    rw [Nat.mul_comm, Nat.mul_add_div hpos, Nat.div_eq_of_lt hlast, Nat.add_zero]
  refine ⟨_, _, ht, hu, fun heq => ?_⟩
  have hhalves := (buildKey_eq_iff hc hpos hsec user (ht.trans hu.symm)).mp heq
  rw [FirstHalf, FirstHalf, Nat.mul_mod_left, Nat.mul_comm k, Nat.mul_add_mod,
    Nat.mod_eq_of_lt hlast] at hhalves
  have hcontra := hhalves.mp (by omega)
  omega

end Rounding

/-! ## Schedules -/

/-- A call of `increment_consumed`: when it builds the key, computes the expiry and runs the
script. -/
structure Attempt where
  keyAt : Nat
  ttlAt : Nat
  runAt : Nat
deriving DecidableEq

section Schedule

variable (lib : RateLib) (limiter : RedisRateLimiter) (user : String) (maxTokens : Option ℚ)

/-- The calls of a schedule, one token each, and whether they succeeded. -/
def serve : RateStore → List Attempt → List (Attempt × Bool)
  | _, [] => []
  | s, a :: as =>
      let r := limiter.incrementConsumed lib user 1 maxTokens a.keyAt a.ttlAt a.runAt s
      (a, r.1.isOk) :: serve r.2 as

/-- How many calls satisfying `p` succeeded. -/
def successes (s : RateStore) (as : List Attempt) (p : Attempt → Bool) : Nat :=
  (serve lib limiter user maxTokens s as).countP fun r => r.2 && p r.1

/-- What the rounding is documented to give: in each aligned interval the calls share one
window, and no more of them succeed than the limit allows. -/
structure Aligned (s : RateStore) (as : List Attempt) : Prop where
  keys : ∀ a ∈ as, ∀ b ∈ as,
    a.keyAt / limiter.refillInterval = b.keyAt / limiter.refillInterval →
      limiter.buildKey lib user a.keyAt = limiter.buildKey lib user b.keyAt
  bounded : ∀ k, (successes lib limiter user maxTokens s as
    fun a => a.keyAt / limiter.refillInterval = k : ℚ) ≤ maxTokens.getD limiter.maxTokens

/-- A user's counters as `increment_consumed` leaves them. -/
def Plain (s : RateStore) : Prop :=
  ∀ t e, s (limiter.buildKey lib user t) = some e → e.expiry = none ∧ 0 ≤ e.value

variable {lib limiter user maxTokens} {s : RateStore}

theorem Plain.fresh (h : Plain lib limiter user s) (now t : Nat) :
    s.Fresh now (limiter.buildKey lib user t) :=
  fun e he => Entry.live_of_no_expiry (h t e he).1

/-- The counter does not depend on when one looks. -/
theorem Plain.counter_eq (h : Plain lib limiter user s) (now now' t : Nat) :
    s.counter now (limiter.buildKey lib user t) =
      s.counter now' (limiter.buildKey lib user t) := by
  rw [(h.fresh now t).counter_eq, (h.fresh now' t).counter_eq]

theorem Plain.counter_nonneg (h : Plain lib limiter user s) (now t : Nat) :
    0 ≤ s.counter now (limiter.buildKey lib user t) := by
  rw [(h.fresh now t).counter_eq]
  cases hs : s (limiter.buildKey lib user t) with
  | none => exact le_refl _
  | some e => exact (h t e hs).2

theorem successes_cons (s : RateStore) (a : Attempt) (as : List Attempt) (p : Attempt → Bool) :
    successes lib limiter user maxTokens s (a :: as) p =
      let r := limiter.incrementConsumed lib user 1 maxTokens a.keyAt a.ttlAt a.runAt s
      successes lib limiter user maxTokens r.2 as p + if r.1.isOk && p a then 1 else 0 := by
  rw [successes, serve, List.countP_cons]
  rfl

variable (maxTokens) in
/-- What one call does: it succeeds if there is room, and then counts. -/
theorem increment_spec (h : Plain lib limiter user s) (a : Attempt) :
    let key := limiter.buildKey lib user a.keyAt
    let limit := maxTokens.getD limiter.maxTokens
    let r := limiter.incrementConsumed lib user 1 maxTokens a.keyAt a.ttlAt a.runAt s
    Plain lib limiter user r.2 ∧ (∀ key', key' ≠ key → r.2 key' = s key') ∧
      (r.1.isOk = true ∧ s.counter a.runAt key + 1 ≤ limit ∧
          r.2.counter a.runAt key = s.counter a.runAt key + 1 ∨
        r.1.isOk = false ∧ r.2.counter a.runAt key = s.counter a.runAt key) := by
  intro key limit r
  have hcount : 0 ≤ s.counter a.runAt key := h.counter_nonneg a.runAt a.keyAt
  have hstore : r.2 = (incrLimit lib key limit (limiter.getTtlSeconds a.ttlAt) 1 a.runAt s).2 :=
    incrementConsumed_store ..
  have hexpiry : (s.find a.runAt key).bind Entry.expiry = none := by
    rw [(h.fresh a.runAt a.keyAt).find_eq]
    cases hs : s key with
    | none => rfl
    | some e => exact (h a.keyAt e hs).1
  have hself : r.2 key = some ⟨settled s key limit 1 a.runAt, none⟩ := by
    rw [hstore, incrLimit_self, hexpiry]
  have hothers : ∀ key', key' ≠ key → r.2 key' = s key' := fun key' hk => by
    rw [hstore, incrLimit_of_ne lib hk]
  have hcounter : r.2.counter a.runAt key = settled s key limit 1 a.runAt :=
    counter_of_find (find_eq_some.mpr ⟨hself, Entry.live_of_no_expiry rfl⟩)
  have hresult := incrementConsumed_result lib limiter user 1 maxTokens a.keyAt a.ttlAt a.runAt s
  rw [settled] at hself hcounter
  refine ⟨fun t e he => ?_, hothers, ?_⟩
  · by_cases hk : limiter.buildKey lib user t = key
    · rw [hk, hself, Option.some.injEq] at he
      subst he
      refine ⟨rfl, ?_⟩
      dsimp only
      split
      · exact hcount
      · linarith
    · rw [hothers _ hk] at he
      exact h t e he
  · have hnot : ¬ s.counter a.runAt key + 1 = -1 := fun hneg => by linarith
    by_cases hover : limit < s.counter a.runAt key + 1
    · rw [if_pos hover] at hcounter
      refine .inr ⟨?_, hcounter⟩
      rw [hresult, if_pos (Or.inl hover)]
      rfl
    · rw [if_neg hover] at hcounter
      refine .inl ⟨?_, not_lt.mp hover, hcounter⟩
      rw [hresult, if_neg (not_or.mpr ⟨hover, hnot⟩)]
      rfl

variable (maxTokens) in
/-- The counter of one window and the calls it accepts never come to more than the limit. -/
theorem counter_add_successes_le (as : List Attempt) (h : Plain lib limiter user s) (now t : Nat)
    (hroom : s.counter now (limiter.buildKey lib user t) ≤
      maxTokens.getD limiter.maxTokens) :
    s.counter now (limiter.buildKey lib user t) +
        (successes lib limiter user maxTokens s as fun a =>
          limiter.buildKey lib user a.keyAt = limiter.buildKey lib user t : ℚ) ≤
      maxTokens.getD limiter.maxTokens := by
  induction as generalizing s with
  | nil => simpa [successes, serve] using hroom
  | cons a as ih =>
      obtain ⟨hplain, hothers, hcases⟩ := increment_spec maxTokens h a
      rw [successes_cons]
      dsimp only
      by_cases hkey : limiter.buildKey lib user a.keyAt = limiter.buildKey lib user t
      · rw [hkey] at hcases
        rw [h.counter_eq now a.runAt] at hroom ⊢
        rcases hcases with ⟨hok, hle, hcount⟩ | ⟨hok, hcount⟩
        · -- accepted: the counter took what the call adds
          have hrest := ih hplain
          rw [hplain.counter_eq now a.runAt, hcount] at hrest
          have hle' := hrest hle
          simp only [hok, hkey, decide_true, Bool.and_true, if_true, Nat.cast_add, Nat.cast_one]
          linarith
        · have hrest := ih hplain
          rw [hplain.counter_eq now a.runAt, hcount] at hrest
          simpa [hok] using hrest hroom
      · -- another window's call
        have hsame : ∀ now, Store.counter _ now (limiter.buildKey lib user t) =
            s.counter now (limiter.buildKey lib user t) := fun now => by
          rw [(hplain.fresh now t).counter_eq, (h.fresh now t).counter_eq, hothers _ (Ne.symm hkey)]
        have hrest := ih hplain
        rw [hsame] at hrest
        simpa [hkey] using hrest hroom

/-- **A window accepts at most the limit.** -/
theorem accepted_le (as : List Attempt) (hnew : ∀ t, s (limiter.buildKey lib user t) = none)
    (hlimit : 0 ≤ maxTokens.getD limiter.maxTokens) (t : Nat) :
    (successes lib limiter user maxTokens s as fun a =>
        limiter.buildKey lib user a.keyAt = limiter.buildKey lib user t : ℚ) ≤
      maxTokens.getD limiter.maxTokens := by
  have hplain : Plain lib limiter user s := fun t e he =>
    absurd ((hnew t).symm.trans he).symm (Option.some_ne_none e)
  have hzero : s.counter 0 (limiter.buildKey lib user t) = 0 := by
    rw [(hplain.fresh 0 t).counter_eq, hnew]
    rfl
  have hle := counter_add_successes_le maxTokens as hplain 0 t
  rw [hzero, zero_add] at hle
  exact hle hlimit

theorem mem_of_mem_serve {as : List Attempt} {r : Attempt × Bool}
    (h : r ∈ serve lib limiter user maxTokens s as) : r.1 ∈ as := by
  induction as generalizing s with
  | nil => exact absurd h (List.not_mem_nil)
  | cons a as ih =>
      rcases List.mem_cons.mp h with rfl | h
      · exact List.mem_cons_self
      · exact List.mem_cons_of_mem _ (ih h)

/-- More calls are counted by a weaker condition. -/
theorem successes_mono {as : List Attempt} {p q : Attempt → Bool}
    (hpq : ∀ a ∈ as, p a = true → q a = true) :
    successes lib limiter user maxTokens s as p ≤
      successes lib limiter user maxTokens s as q := by
  refine List.countP_mono_left fun r hr hp => ?_
  rw [Bool.and_eq_true] at hp ⊢
  exact ⟨hp.1, hpq r.1 (mem_of_mem_serve hr) hp.2⟩

/-- With one key to an aligned interval, the interval accepts at most the limit. -/
theorem successes_aligned_le {as : List Attempt}
    (hnew : ∀ t, s (limiter.buildKey lib user t) = none)
    (hlimit : 0 ≤ maxTokens.getD limiter.maxTokens) (hkeys : ∀ a ∈ as, ∀ b ∈ as,
      a.keyAt / limiter.refillInterval = b.keyAt / limiter.refillInterval →
        limiter.buildKey lib user a.keyAt = limiter.buildKey lib user b.keyAt) (k : Nat) :
    (successes lib limiter user maxTokens s as
      fun a => a.keyAt / limiter.refillInterval = k : ℚ) ≤ maxTokens.getD limiter.maxTokens := by
  by_cases hany : ∃ b ∈ as, b.keyAt / limiter.refillInterval = k
  · obtain ⟨b, hb, rfl⟩ := hany
    refine le_trans (Nat.cast_le.mpr (successes_mono fun a ha hp => ?_))
      (accepted_le as hnew hlimit b.keyAt)
    exact decide_eq_true (hkeys a ha b hb (of_decide_eq_true hp))
  · have hnone : successes lib limiter user maxTokens s as
        (fun a => a.keyAt / limiter.refillInterval = k) ≤
          successes lib limiter user maxTokens s as fun _ => false :=
      successes_mono fun a ha hp => absurd ⟨a, ha, of_decide_eq_true hp⟩ hany
    have hzero : successes lib limiter user maxTokens s as (fun _ => false) = 0 := by
      simp [successes]
    rw [hzero, Nat.le_zero] at hnone
    rw [hnone]
    exact_mod_cast hlimit

/--
**When the documented windows are the real ones.** For a limiter of whole seconds and a user
without counters, the calls of a schedule share one window in each aligned interval, and stay
within the limit there, exactly if in each interval they all come in the same half. No
interval is one window as a whole.
-/
theorem aligned_iff (hc : lib.Nearest) (hpos : 0 < limiter.refillInterval)
    (hsec : nanos ∣ limiter.refillInterval) (hlimit : 0 ≤ maxTokens.getD limiter.maxTokens)
    (hnew : ∀ t, s (limiter.buildKey lib user t) = none) (as : List Attempt) :
    (Aligned lib limiter user maxTokens s as ↔
      ∀ a ∈ as, ∀ b ∈ as,
        a.keyAt / limiter.refillInterval = b.keyAt / limiter.refillInterval →
          (FirstHalf limiter.refillInterval a.keyAt ↔
            FirstHalf limiter.refillInterval b.keyAt)) ∧
      ∀ k, ∃ t u, t / limiter.refillInterval = k ∧ u / limiter.refillInterval = k ∧
        limiter.buildKey lib user t ≠ limiter.buildKey lib user u := by
  constructor
  · constructor
    · intro h a ha b hb hab
      exact (buildKey_eq_iff hc hpos hsec user hab).mp (h.keys a ha b hb hab)
    · intro h
      have hkeys : ∀ a ∈ as, ∀ b ∈ as,
          a.keyAt / limiter.refillInterval = b.keyAt / limiter.refillInterval →
            limiter.buildKey lib user a.keyAt = limiter.buildKey lib user b.keyAt :=
        fun a ha b hb hab => (buildKey_eq_iff hc hpos hsec user hab).mpr (h a ha b hb hab)
      exact ⟨hkeys, successes_aligned_le hnew hlimit hkeys⟩
  · exact buildKey_turns hc hpos hsec user

end Schedule

/-! ## One quote a minute -/

/-- A limiter that gives out one quote a minute. -/
def oneQuote : RedisRateLimiter := AuthServerRateLimiter.newQuoteRateLimiter 1

/-- Both of two calls half a minute apart succeed, within one minute of the clock. -/
theorem two_quotes_in_a_minute :
    ¬ Aligned RateLib.halfUp oneQuote "desk" none (fun _ => none)
      [⟨0, 0, 0⟩, ⟨30 * nanos, 30 * nanos, 30 * nanos⟩] := by
  intro h
  have hbound := h.bounded 0
  have htwo : successes RateLib.halfUp oneQuote "desk" none (fun _ => none)
      [⟨0, 0, 0⟩, ⟨30 * nanos, 30 * nanos, 30 * nanos⟩]
        (fun a => a.keyAt / oneQuote.refillInterval = 0) = 2 := by decide +kernel
  rw [htwo] at hbound
  exact absurd hbound (by decide +kernel)

/-- Of two calls in the first half of a minute one is turned away, as documented. -/
theorem aligned_iff_first_half :
    Aligned RateLib.halfUp oneQuote "desk" none (fun _ => none)
      [⟨0, 0, 0⟩, ⟨29 * nanos, 29 * nanos, 29 * nanos⟩] :=
  (aligned_iff RateLib.halfUp_nearest (by decide) (by decide) (by decide +kernel)
    (fun _ => rfl) _).1.mpr (by decide)

end RelayerExtensions.Auth
