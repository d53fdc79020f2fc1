import RelayerExtensions.Lib.Runs
import RelayerExtensions.Funds.FireblocksLimiter

/-!
# The Fireblocks rate limiter: calls that interleave

`acquire` first waits until the deadline has passed and then for a token. `on_429` counts, reads
the clock and pushes the deadline under a lock; a background task looks at the bucket at every
tick and then adds a token unless it was full (`fireblocks_rate_limiter.rs`). Here these go on at
the same time, one atomic action after the other, and in any order: `rate_limited` is only one
way to call them.

The bucket keeps what it promises. It never holds more tokens than its capacity, and no more
calls return than there were tokens at the start and ticks since (`limiter_bounds`).

The cooldown does not. A call looks at the deadline before it waits for a token and not again
when it has got one, so a call that queues when a 429 comes in goes through as soon as the bucket
is refilled (`queued_call_ignores_cooldown`). Every call waits out every deadline where none stands
between its last look and its return while a deadline is set (`acquire_waits`).

Calls run to their end here. One that is dropped while it waits would give a permit that was kept
for it back to the bucket, which may be full by then.
-/

namespace RelayerExtensions.Funds

open History (Each each_concat each_nil)
open FireblocksLimiter

/-- What a call does next. -/
inductive CallPoint where
  /-- `acquire` reads the deadline, -/
  | look
  /-- and compares it with the clock. -/
  | compare (deadline : Option Nat)
  | sleep (deadline : Nat)
  /-- It asks for a token, -/
  | ask
  /-- and waits for one. -/
  | wait
  /-- `on_429` counts, -/
  | count
  /-- reads the clock, -/
  | stamp (n : UInt32)
  /-- and pushes the deadline. -/
  | push (newUntil : Nat)
deriving DecidableEq

inductive Entry where
  /-- The call has read the deadline. -/
  | looked (p : Nat)
  /-- A 429 has left this deadline. -/
  | cooled (deadline : Nat)
  /-- `acquire` has returned. -/
  | returned (p now : Nat)
  /-- The refill task has ticked. -/
  | ticked
deriving DecidableEq

/-- The limiter, the calls under way, and what has happened. -/
structure LimiterWorld (lib : SemaphoreLib) where
  limiter : FireblocksLimiter lib
  calls : Nat → Option CallPoint
  /-- The refill task has found room in the bucket and has not yet added the token. -/
  refilling : Bool
  clock : Nat
  trace : List Entry

inductive LimiterAction where
  | acquire (p : Nat)
  | on429 (p : Nat)
  | onSuccess
  | tick
  | addPermit
  /-- The call performs its next action. -/
  | advance (p : Nat)
deriving DecidableEq

variable {lib : SemaphoreLib}

namespace LimiterWorld

def new (lib : SemaphoreLib) (burstCapacity now : Nat) : LimiterWorld lib :=
  { limiter := .new burstCapacity
    calls := fun _ => none
    refilling := false
    clock := now
    trace := [] }

def put (w : LimiterWorld lib) (p : Nat) (c : Option CallPoint) : LimiterWorld lib :=
  { w with calls := Function.update w.calls p c }

def log (w : LimiterWorld lib) (e : Entry) : LimiterWorld lib := { w with trace := w.trace ++ [e] }

def setPermits (w : LimiterWorld lib) (permits : lib.Sem) : LimiterWorld lib :=
  { w with limiter := { w.limiter with permits := permits } }

/-- A new call, under a name that is free. -/
def start (w : LimiterWorld lib) (p : Nat) (c : CallPoint) : Option (LimiterWorld lib) :=
  match w.calls p with
  | none => some (w.put p (some c))
  | some _ => none

def advance (w : LimiterWorld lib) (p : Nat) : CallPoint → Option (LimiterWorld lib)
  | .look => some ((w.put p (some (.compare w.limiter.cooldownUntil))).log (.looked p))
  | .compare none => some (w.put p (some .ask))
  | .compare (some deadline) =>
      if w.clock < deadline then some (w.put p (some (.sleep deadline)))
      else some (w.put p (some .ask))
  | .sleep deadline => if w.clock < deadline then none else some (w.put p (some .look))
  | .ask =>
      match lib.acquire w.limiter.permits p with
      | (permits, true) => some (((w.setPermits permits).put p none).log (.returned p w.clock))
      | (permits, false) => some ((w.setPermits permits).put p (some .wait))
  | .wait =>
      match lib.resume w.limiter.permits p with
      | some permits => some (((w.setPermits permits).put p none).log (.returned p w.clock))
      | none => none
  | .count =>
      let n := w.limiter.consecutive429s + 1
      some (put { w with limiter := { w.limiter with consecutive429s := n } } p (some (.stamp n)))
  | .stamp n => some (w.put p (some (.push (w.clock + fromSecs (cooldownSecs n)))))
  | .push newUntil =>
      some ((put { w with limiter := w.limiter.pushCooldown newUntil } p none).log
        (.cooled (latest w.limiter.cooldownUntil newUntil)))

def act (w : LimiterWorld lib) : LimiterAction → Option (LimiterWorld lib)
  | .acquire p => w.start p .look
  | .on429 p => w.start p .count
  | .onSuccess => some { w with limiter := w.limiter.onSuccess }
  | .tick =>
      if w.refilling then none
      else some (log { w with
        refilling := decide (lib.available w.limiter.permits < w.limiter.capacity) } .ticked)
  | .addPermit =>
      if w.refilling then
        some { w.setPermits (lib.addPermit w.limiter.permits) with refilling := false }
      else none
  | .advance p =>
      match w.calls p with
      | none => none
      | some c => w.advance p c

/-- An action at some instant, not before the last one. -/
def step (w : LimiterWorld lib) (e : Nat × LimiterAction) : Option (LimiterWorld lib) :=
  if e.1 < w.clock then none else act { w with clock := e.1 } e.2

inductive Acts (w : LimiterWorld lib) : LimiterAction → LimiterWorld lib → Prop where
  | started (a : LimiterAction) (p : Nat) (c : CallPoint) (hc : c = .look ∨ c = .count)
      (hp : w.calls p = none) :
      Acts w a (w.put p (some c))
  | succeeded : Acts w .onSuccess { w with limiter := w.limiter.onSuccess }
  | ticked (hidle : w.refilling = false) :
      Acts w .tick (log { w with
        refilling := decide (lib.available w.limiter.permits < w.limiter.capacity) } .ticked)
  | refilled (hroom : w.refilling = true) :
      Acts w .addPermit { w.setPermits (lib.addPermit w.limiter.permits) with refilling := false }
  | looked {p : Nat} (hp : w.calls p = some .look) :
      Acts w (.advance p) ((w.put p (some (.compare w.limiter.cooldownUntil))).log (.looked p))
  | passed {p : Nat} {deadline : Option Nat} (hp : w.calls p = some (.compare deadline))
      (hpast : ∀ d, deadline = some d → d ≤ w.clock) : Acts w (.advance p) (w.put p (some .ask))
  | slept {p deadline : Nat} (hp : w.calls p = some (.compare (some deadline))) :
      Acts w (.advance p) (w.put p (some (.sleep deadline)))
  | woke {p deadline : Nat} (hp : w.calls p = some (.sleep deadline)) :
      Acts w (.advance p) (w.put p (some .look))
  | took {p : Nat} {permits : lib.Sem} (hp : w.calls p = some .ask)
      (hpermit : lib.acquire w.limiter.permits p = (permits, true)) :
      Acts w (.advance p) (((w.setPermits permits).put p none).log (.returned p w.clock))
  | queued {p : Nat} {permits : lib.Sem} (hp : w.calls p = some .ask)
      (hnone : lib.acquire w.limiter.permits p = (permits, false)) :
      Acts w (.advance p) ((w.setPermits permits).put p (some .wait))
  | resumed {p : Nat} {permits : lib.Sem} (hp : w.calls p = some .wait)
      (hpermit : lib.resume w.limiter.permits p = some permits) :
      Acts w (.advance p) (((w.setPermits permits).put p none).log (.returned p w.clock))
  | counted {p : Nat} (hp : w.calls p = some .count) :
      Acts w (.advance p) (put { w with limiter :=
        { w.limiter with consecutive429s := w.limiter.consecutive429s + 1 } } p
          (some (.stamp (w.limiter.consecutive429s + 1))))
  | stamped {p : Nat} {n : UInt32} (hp : w.calls p = some (.stamp n)) :
      Acts w (.advance p) (w.put p (some (.push (w.clock + fromSecs (cooldownSecs n)))))
  | pushed {p newUntil : Nat} (hp : w.calls p = some (.push newUntil)) :
      Acts w (.advance p) ((put { w with limiter := w.limiter.pushCooldown newUntil } p none).log
        (.cooled (latest w.limiter.cooldownUntil newUntil)))

section Cases

variable {w w' : LimiterWorld lib} {p : Nat}

theorem start_acts {a : LimiterAction} {c : CallPoint} (hc : c = .look ∨ c = .count)
    (h : w.start p c = some w') : Acts w a w' := by
  unfold start at h
  split at h
  · next hp =>
      cases h
      exact .started a p c hc hp
  · cases h

theorem advance_acts {c : CallPoint} (hp : w.calls p = some c) (h : w.advance p c = some w') :
    Acts w (.advance p) w' := by
  cases c with
  | look =>
      cases h
      exact .looked hp
  | compare deadline =>
      cases deadline with
      | none =>
          cases h
          exact .passed hp fun d hd => (by cases hd)
      | some deadline =>
          rw [advance] at h
          split at h
          · cases h
            exact .slept hp
          · next hpast =>
              cases h
              refine .passed hp fun d hd => ?_
              cases hd
              exact Nat.le_of_not_lt hpast
  | sleep deadline =>
      rw [advance] at h
      split at h
      · cases h
      · cases h
        exact .woke hp
  | ask =>
      rw [advance] at h
      split at h
      · next hpermit =>
          cases h
          exact .took hp hpermit
      · next hnone =>
          cases h
          exact .queued hp hnone
  | wait =>
      rw [advance] at h
      split at h
      · next hpermit =>
          cases h
          exact .resumed hp hpermit
      -- without a permit of its own the call stays in the queue
      · cases h
  | count =>
      cases h
      exact .counted hp
  | stamp n =>
      cases h
      exact .stamped hp
  | push newUntil =>
      cases h
      exact .pushed hp

/-- **What a step can be**: time passes, and then something is done. -/
theorem step_cases {e : Nat × LimiterAction} (h : w.step e = some w') :
    w.clock ≤ e.1 ∧ Acts { w with clock := e.1 } e.2 w' := by
  obtain ⟨now, a⟩ := e
  unfold step at h
  split at h
  · cases h
  · next hclock =>
      refine ⟨Nat.le_of_not_lt hclock, ?_⟩
      cases a with
      | acquire p => exact start_acts (.inl rfl) h
      | on429 p => exact start_acts (.inr rfl) h
      | onSuccess =>
          cases h
          exact .succeeded
      | tick =>
          rw [act] at h
          split at h
          · cases h
          · next hidle =>
              cases h
              exact .ticked (Bool.eq_false_iff.mpr hidle)
      | addPermit =>
          rw [act] at h
          split at h
          · next hroom =>
              cases h
              exact .refilled hroom
          · cases h
      | advance p =>
          rw [act] at h
          split at h
          · cases h
          · next hp => exact advance_acts hp h

end Cases

/-- With nothing in between, the three actions of `on_429` are the whole function. -/
theorem run_on429_alone (w : LimiterWorld lib) {p : Nat} (hp : w.calls p = none) :
    (Runs.run step w ((w.clock, .on429 p) :: List.replicate 3 (w.clock, .advance p))).map
      (·.limiter) = some (w.limiter.on429 w.clock) := by
  simp [Runs.run, step, act, start, put, log, advance, hp, on429, pushCooldown]

end LimiterWorld

/-! ## The bucket -/

def Entry.isReturned : Entry → Bool
  | .returned _ _ => true
  | _ => false

def Entry.isTicked : Entry → Bool
  | .ticked => true
  | _ => false

/-- How many calls of `acquire` have returned. -/
def returns (trace : List Entry) : Nat := trace.countP Entry.isReturned

def ticks (trace : List Entry) : Nat := trace.countP Entry.isTicked

/-- The deadline has not moved back. -/
def NotBefore (deadline deadline' : Option Nat) : Prop :=
  ∀ t, deadline = some t → ∃ t', deadline' = some t' ∧ t ≤ t'

theorem NotBefore.refl (deadline : Option Nat) : NotBefore deadline deadline := fun t ht =>
  ⟨t, ht, Nat.le_refl t⟩

theorem NotBefore.trans {d₁ d₂ d₃ : Option Nat} (h₁ : NotBefore d₁ d₂) (h₂ : NotBefore d₂ d₃) :
    NotBefore d₁ d₃ := by
  intro t ht
  obtain ⟨t₂, ht₂, hle₂⟩ := h₁ t ht
  obtain ⟨t₃, ht₃, hle₃⟩ := h₂ t₂ ht₂
  exact ⟨t₃, ht₃, Nat.le_trans hle₂ hle₃⟩

theorem notBefore_latest (deadline : Option Nat) (t : Nat) :
    NotBefore deadline (some (latest deadline t)) := by
  intro t' ht'
  refine ⟨_, rfl, ?_⟩
  rw [ht']
  exact Nat.le_max_left _ _

theorem returns_concat (trace : List Entry) (e : Entry) :
    returns (trace ++ [e]) = returns trace + e.isReturned.toNat := by
  unfold returns
  rw [List.countP_append, List.countP_singleton]
  cases e.isReturned <;> rfl

theorem ticks_concat (trace : List Entry) (e : Entry) :
    ticks (trace ++ [e]) = ticks trace + e.isTicked.toNat := by
  unfold ticks
  rw [List.countP_append, List.countP_singleton]
  cases e.isTicked <;> rfl

namespace LimiterWorld

variable {w w' : LimiterWorld lib} {a : LimiterAction} {burstCapacity : Nat}

/-- The token that the refill task is about to add counts as if it were there. -/
structure Bucketed (burstCapacity : Nat) (w : LimiterWorld lib) : Prop where
  capacity : w.limiter.capacity = burstCapacity
  room : lib.available w.limiter.permits + w.refilling.toNat ≤ burstCapacity
  counted : lib.stock w.limiter.permits + w.refilling.toNat + returns w.trace ≤
    burstCapacity + ticks w.trace

theorem bucketed_new (burstCapacity now : Nat) :
    (new lib burstCapacity now).Bucketed burstCapacity :=
  ⟨rfl, Nat.le_of_eq (lib.available_new burstCapacity),
    Nat.le_of_eq (lib.stock_new burstCapacity)⟩

theorem Bucketed.take (h : w.Bucketed burstCapacity) {permits : lib.Sem} (p : Nat)
    (havailable : lib.available permits ≤ lib.available w.limiter.permits)
    (hstock : lib.stock w.limiter.permits = lib.stock permits + 1) :
    (((w.setPermits permits).put p none).log (.returned p w.clock)).Bucketed burstCapacity := by
  obtain ⟨hcapacity, hroom, hcounted⟩ := h
  refine ⟨hcapacity, ?_, ?_⟩
  · show lib.available permits + w.refilling.toNat ≤ burstCapacity
    omega
  · show lib.stock permits + w.refilling.toNat + returns (w.trace ++ [.returned p w.clock]) ≤
      burstCapacity + ticks (w.trace ++ [.returned p w.clock])
    rw [returns_concat, ticks_concat]
    simp only [Entry.isReturned, Entry.isTicked, Bool.toNat_true, Bool.toNat_false]
    omega

theorem Bucketed.logged (h : w.Bucketed burstCapacity) (e : Entry) (hr : e.isReturned = false) :
    (w.log e).Bucketed burstCapacity := by
  obtain ⟨hcapacity, hroom, hcounted⟩ := h
  refine ⟨hcapacity, hroom, ?_⟩
  show lib.stock w.limiter.permits + w.refilling.toNat + returns (w.trace ++ [e]) ≤
    burstCapacity + ticks (w.trace ++ [e])
  rw [returns_concat, ticks_concat, hr, Bool.toNat_false]
  omega

theorem Bucketed.kept (h : w.Bucketed burstCapacity) {v : LimiterWorld lib}
    (hpermits : v.limiter.permits = w.limiter.permits)
    (hcapacity : v.limiter.capacity = w.limiter.capacity) (hrefilling : v.refilling = w.refilling)
    (htrace : v.trace = w.trace) : v.Bucketed burstCapacity := by
  refine ⟨hcapacity.trans h.capacity, ?_, ?_⟩
  · rw [hpermits, hrefilling]
    exact h.room
  · rw [hpermits, hrefilling, htrace]
    exact h.counted

/-- The refill task finds room for a token before it adds one. -/
theorem Bucketed.tick (h : w.Bucketed burstCapacity) (hidle : w.refilling = false) :
    (log { w with
      refilling := decide (lib.available w.limiter.permits < w.limiter.capacity) } .ticked).Bucketed
        burstCapacity := by
  obtain ⟨hcapacity, hroom, hcounted⟩ := h
  rw [hidle, Bool.toNat_false] at hroom hcounted
  have hfound : lib.available w.limiter.permits +
      (decide (lib.available w.limiter.permits < w.limiter.capacity)).toNat ≤ burstCapacity := by
    by_cases hlt : lib.available w.limiter.permits < w.limiter.capacity
    · rw [decide_eq_true hlt, Bool.toNat_true]
      omega
    · rw [decide_eq_false hlt, Bool.toNat_false]
      exact hroom
  refine ⟨hcapacity, hfound, ?_⟩
  show lib.stock w.limiter.permits +
      (decide (lib.available w.limiter.permits < w.limiter.capacity)).toNat +
        returns (w.trace ++ [.ticked]) ≤ burstCapacity + ticks (w.trace ++ [.ticked])
  have hone := Bool.toNat_le (decide (lib.available w.limiter.permits < w.limiter.capacity))
  rw [returns_concat, ticks_concat]
  simp only [Entry.isReturned, Entry.isTicked, Bool.toNat_true, Bool.toNat_false]
  omega

/-- And adds the one it has found room for. -/
theorem Bucketed.refill (h : w.Bucketed burstCapacity) (hroom : w.refilling = true) :
    Bucketed burstCapacity
      { w.setPermits (lib.addPermit w.limiter.permits) with refilling := false } := by
  obtain ⟨hcapacity, havailable, hcounted⟩ := h
  rw [hroom, Bool.toNat_true] at havailable hcounted
  have hle := lib.available_addPermit_le w.limiter.permits
  refine ⟨hcapacity, ?_, ?_⟩
  · show lib.available (lib.addPermit w.limiter.permits) + 0 ≤ burstCapacity
    omega
  · show lib.stock (lib.addPermit w.limiter.permits) + 0 + returns w.trace ≤
      burstCapacity + ticks w.trace
    rw [lib.stock_addPermit]
    omega

theorem Bucketed.acts (h : w.Bucketed burstCapacity) (ha : Acts w a w') :
    w'.Bucketed burstCapacity := by
  cases ha with
  | ticked hidle => exact h.tick hidle
  | refilled hroom => exact h.refill hroom
  | looked hp =>
      refine Bucketed.logged ?_ _ rfl
      exact h.kept rfl rfl rfl rfl
  | took hp hpermit =>
      obtain ⟨havailable, hstock⟩ := lib.acquire_taken hpermit
      exact h.take _ (by omega) hstock
  | @queued p permits hp hnone =>
      obtain ⟨havailable, hstock⟩ := lib.acquire_queued hnone
      refine ⟨h.capacity, ?_, ?_⟩
      · show lib.available permits + w.refilling.toNat ≤ burstCapacity
        rw [havailable]
        exact h.room
      · show lib.stock permits + w.refilling.toNat + returns w.trace ≤ burstCapacity + ticks w.trace
        rw [hstock]
        exact h.counted
  | resumed hp hpermit =>
      obtain ⟨havailable, hstock⟩ := lib.resume_some hpermit
      exact h.take _ (Nat.le_of_eq havailable) hstock
  | pushed hp =>
      refine Bucketed.logged ?_ _ rfl
      exact h.kept (permits_pushCooldown ..) (capacity_pushCooldown ..) rfl rfl
  | _ => exact h.kept rfl rfl rfl rfl

theorem notBefore_acts (ha : Acts w a w') :
    NotBefore w.limiter.cooldownUntil w'.limiter.cooldownUntil := by
  cases ha with
  | @pushed p newUntil hp =>
      show NotBefore _ (w.limiter.pushCooldown newUntil).cooldownUntil
      rw [pushCooldown_cooldownUntil]
      exact notBefore_latest _ _
  | _ => exact .refl _

/--
**The bounds of the limiter**, at any time. The tokens in the bucket are within its capacity, the
calls that have returned within that and the ticks so far, and the deadline never moves back.
-/
theorem limiter_bounds (burstCapacity now : Nat) (events : List (Nat × LimiterAction))
    (w : LimiterWorld lib) (hrun : Runs.run step (new lib burstCapacity now) events = some w) :
    lib.available w.limiter.permits ≤ burstCapacity ∧
      returns w.trace ≤ burstCapacity + ticks w.trace ∧
      ∀ more w', Runs.run step w more = some w' →
        NotBefore w.limiter.cooldownUntil w'.limiter.cooldownUntil := by
  have hbucket : w.Bucketed burstCapacity := by
    refine Runs.run_preserves (fun s e s' hs hstep => ?_) events
      (bucketed_new burstCapacity now) hrun
    have hticked : Bucketed burstCapacity { s with clock := e.1 } :=
      ⟨hs.capacity, hs.room, hs.counted⟩
    exact hticked.acts (step_cases hstep).2
  have hroom := hbucket.room
  have hcounted := hbucket.counted
  refine ⟨by omega, by omega, fun more w' hmore => ?_⟩
  refine Runs.run_preserves (I := fun v => NotBefore w.limiter.cooldownUntil
    v.limiter.cooldownUntil) (fun s e s' hs hstep => ?_) more (.refl _) hmore
  have hlater := notBefore_acts (step_cases hstep).2
  exact hs.trans hlater

/-- Two calls and one token: the second call queues, and gets the token of the next tick. -/
def oneToken : List (Nat × LimiterAction) :=
  [(0, .acquire 0), (0, .advance 0), (0, .advance 0), (0, .advance 0),
   (1, .acquire 1), (1, .advance 1), (1, .advance 1), (1, .advance 1),
   (2, .tick), (2, .addPermit), (3, .advance 1)]

theorem limiter_bounds_oneToken : ∃ w, Runs.run step (new .fair 1 0) oneToken = some w ∧
    Semaphore.Lib.fair.available w.limiter.permits ≤ 1 ∧ returns w.trace ≤ 1 + ticks w.trace := by
  have hruns : (Runs.run step (new .fair 1 0) oneToken).isSome = true := by decide +kernel
  obtain ⟨w, hw⟩ := Option.isSome_iff_exists.mp hruns
  obtain ⟨hroom, hreturns, -⟩ := limiter_bounds 1 0 oneToken w hw
  exact ⟨w, hw, hroom, hreturns⟩

/-! ## The cooldown -/

end LimiterWorld

/-- The deadline that a 429 has left. -/
def Entry.deadline : Entry → Option Nat
  | .cooled deadline => some deadline
  | _ => none

def deadlines (trace : List Entry) : List Nat := trace.filterMap Entry.deadline

/-- A call that returns has waited out every deadline. -/
def WaitsOut (before : List Entry) : Entry → Prop
  | .returned _ now => ∀ deadline ∈ deadlines before, deadline ≤ now
  | _ => True

instance decidableWaitsOut (before : List Entry) : ∀ e, Decidable (WaitsOut before e)
  | .returned _ _ => inferInstanceAs (Decidable (∀ _ ∈ _, _))
  | .looked _ | .cooled _ | .ticked => .isTrue trivial

/-- The call has looked at the deadline and may return without looking again. -/
def CallPoint.hasLooked : CallPoint → Bool
  | .compare _ | .ask | .wait => true
  | .look | .sleep _ | .count | .stamp _ | .push _ => false

/-- Where a deadline is about to be set, no call stands between its last look and its return. -/
def PushesAlone (w : LimiterWorld lib) : Nat × LimiterAction → Prop
  | (_, .advance p) => ∀ newUntil, w.calls p = some (.push newUntil) →
      ∀ q, (w.calls q).any CallPoint.hasLooked = false
  | _ => True

/-- What a call has seen of the deadlines. -/
def CallPoint.Informed (trace : List Entry) (clock : Nat) : CallPoint → Prop
  | .compare deadline => ∀ d ∈ deadlines trace, ∃ d', deadline = some d' ∧ d ≤ d'
  | .ask | .wait => ∀ d ∈ deadlines trace, d ≤ clock
  | _ => True

section Traces

variable {trace : List Entry} {c : CallPoint} {clock : Nat}

theorem deadlines_concat (trace : List Entry) (e : Entry) :
    deadlines (trace ++ [e]) = deadlines trace ++ e.deadline.toList := by
  unfold deadlines
  rw [List.filterMap_append]
  cases h : e.deadline with
  | none => rw [List.filterMap_cons_none h, List.filterMap_nil, Option.toList_none]
  | some d => rw [List.filterMap_cons_some h, List.filterMap_nil, Option.toList_some]

theorem deadlines_concat_none {e : Entry} (he : e.deadline = none) (trace : List Entry) :
    deadlines (trace ++ [e]) = deadlines trace := by
  rw [deadlines_concat, he, Option.toList_none, List.append_nil]

theorem CallPoint.informed_of_not_hasLooked (h : c.hasLooked = false) (trace : List Entry)
    (clock : Nat) : c.Informed trace clock := by
  cases c with
  | compare | ask | wait => cases h
  | look | sleep | count | stamp | push => trivial

theorem CallPoint.Informed.later {clock' : Nat} (h : c.Informed trace clock)
    (hle : clock ≤ clock') : c.Informed trace clock' := by
  cases c with
  | ask | wait => exact fun d hd => Nat.le_trans (h d hd) hle
  | compare => exact h
  | look | sleep | count | stamp | push => trivial

theorem CallPoint.Informed.congr {trace' : List Entry} (h : c.Informed trace clock)
    (heq : deadlines trace' = deadlines trace) : c.Informed trace' clock := by
  cases c with
  | compare | ask | wait => exact fun d hd => h d (heq ▸ hd)
  | look | sleep | count | stamp | push => trivial

end Traces

namespace LimiterWorld

variable {w w' : LimiterWorld lib} {a : LimiterAction}

/-- The deadline is the latest of those that were set, the calls know it or are yet to look, and
all that have returned have waited. -/
structure Watched (w : LimiterWorld lib) : Prop where
  current : ∀ d ∈ deadlines w.trace, ∃ d', w.limiter.cooldownUntil = some d' ∧ d ≤ d'
  calls : ∀ p c, w.calls p = some c → c.Informed w.trace w.clock
  waited : Each WaitsOut w.trace

theorem watched_new (burstCapacity now : Nat) : (new lib burstCapacity now).Watched :=
  ⟨fun d hd => (by cases hd), fun p c hc => (by cases hc), each_nil _⟩

/-- Who is under way once the call `p` has moved on. -/
theorem calls_put_cases {p q : Nat} {c : Option CallPoint} {c' : CallPoint}
    (h : (w.put p c).calls q = some c') :
    (q = p ∧ c = some c') ∨ (q ≠ p ∧ w.calls q = some c') := by
  have h : Function.update w.calls p c q = some c' := h
  by_cases hqp : q = p
  · rw [hqp, Function.update_self] at h
    exact .inl ⟨hqp, h⟩
  · rw [Function.update_of_ne hqp] at h
    exact .inr ⟨hqp, h⟩

/-- A call moves on, knowing what it has to, or ends. -/
theorem Watched.moved (h : w.Watched) {p : Nat} {c : Option CallPoint}
    (hc : ∀ c' ∈ c, c'.Informed w.trace w.clock) : (w.put p c).Watched := by
  refine ⟨h.current, fun q c' hq => ?_, h.waited⟩
  rcases calls_put_cases hq with ⟨-, hc'⟩ | ⟨-, hq⟩
  · exact hc c' hc'
  · exact h.calls q c' hq

theorem Watched.unaware (h : w.Watched) (p : Nat) {c : CallPoint} (hc : c.hasLooked = false) :
    (w.put p (some c)).Watched := by
  refine h.moved fun c' hc' => ?_
  cases hc'
  exact CallPoint.informed_of_not_hasLooked hc ..

/-- Something that sets no deadline is on record. -/
theorem Watched.logged (h : w.Watched) {e : Entry} (he : e.deadline = none)
    (hwaits : WaitsOut w.trace e) : (w.log e).Watched := by
  have hsame := deadlines_concat_none he w.trace
  refine ⟨fun d hd => h.current d (hsame ▸ hd), fun p c hc => ?_, ?_⟩
  · exact (h.calls p c hc).congr hsame
  · exact (each_concat ..).mpr ⟨h.waited, hwaits⟩

theorem Watched.setPermits (h : w.Watched) (permits : lib.Sem) :
    (w.setPermits permits).Watched := ⟨h.current, h.calls, h.waited⟩

/-- A call returns with a token, after all deadlines. -/
theorem Watched.take (h : w.Watched) (permits : lib.Sem) (p : Nat)
    (hpast : ∀ d ∈ deadlines w.trace, d ≤ w.clock) :
    (((w.setPermits permits).put p none).log (.returned p w.clock)).Watched := by
  refine Watched.logged ?_ rfl hpast
  exact (h.setPermits permits).moved fun c hc => (by cases hc)

/-- A deadline has been set: it is the latest now, and every call will see it. -/
theorem Watched.push (h : w.Watched) (p newUntil : Nat)
    (hnone : ∀ q, (w.calls q).any CallPoint.hasLooked = false) :
    ((LimiterWorld.put { w with limiter := w.limiter.pushCooldown newUntil } p none).log
      (.cooled (latest w.limiter.cooldownUntil newUntil))).Watched := by
  have hdeadline := pushCooldown_cooldownUntil w.limiter newUntil
  refine ⟨fun d hd => ?_, fun q c hq => ?_, (each_concat ..).mpr ⟨h.waited, trivial⟩⟩
  · refine ⟨_, hdeadline, ?_⟩
    rcases List.mem_append.mp (deadlines_concat .. ▸ hd) with hd | hd
    · obtain ⟨d', hd', hle⟩ := h.current d hd
      obtain ⟨d'', hd'', hle'⟩ := notBefore_latest w.limiter.cooldownUntil newUntil d' hd'
      cases hd''
      exact Nat.le_trans hle hle'
    · exact Nat.le_of_eq (List.mem_singleton.mp hd)
  · rcases calls_put_cases (w := { w with limiter := w.limiter.pushCooldown newUntil }) hq with
      ⟨-, hc⟩ | ⟨-, hq⟩
    · cases hc
    · have hc := hnone q
      rw [hq] at hc
      exact CallPoint.informed_of_not_hasLooked hc ..

theorem Watched.acts (h : w.Watched) (ha : Acts w a w') (hcalm : PushesAlone w (w.clock, a)) :
    w'.Watched := by
  cases ha with
  | started a p c hc hp =>
      rcases hc with rfl | rfl <;> exact h.unaware p rfl
  | succeeded | refilled hroom => exact ⟨h.current, h.calls, h.waited⟩
  | ticked hidle =>
      refine Watched.logged ?_ rfl trivial
      exact ⟨h.current, h.calls, h.waited⟩
  | @looked p hp =>
      refine Watched.logged ?_ rfl trivial
      refine h.moved fun c hc => ?_
      cases hc
      exact h.current
  | @passed p deadline hp hpast =>
      -- the deadlines are not after the one it saw, which has passed
      refine h.moved fun c hc => ?_
      cases hc
      intro d hd
      obtain ⟨d', hd', hle⟩ := h.calls p _ hp d hd
      exact Nat.le_trans hle (hpast d' hd')
  | slept hp | woke hp | stamped hp => exact h.unaware _ rfl
  | @took p permits hp hpermit | @resumed p permits hp hpermit =>
      exact h.take permits p (h.calls p _ hp)
  | @queued p permits hp hnone =>
      have hask : CallPoint.ask.Informed w.trace w.clock := h.calls p _ hp
      refine (h.setPermits permits).moved fun c hc => ?_
      cases hc
      exact hask
  | counted hp =>
      refine Watched.unaware ?_ _ rfl
      exact ⟨h.current, h.calls, h.waited⟩
  | @pushed p newUntil hp => exact h.push p newUntil (hcalm newUntil hp)

/--
**Calls wait out the deadlines.** In every run in which no call stands between its last look and
its return while a deadline is set, no call of `acquire` returns before a deadline that an earlier
`on_429` has set.
-/
theorem acquire_waits (burstCapacity now : Nat) (events : List (Nat × LimiterAction))
    (w : LimiterWorld lib) (hm : Runs.Meets step PushesAlone (new lib burstCapacity now) events)
    (hrun : Runs.run step (new lib burstCapacity now) events = some w) : Each WaitsOut w.trace := by
  refine (Runs.run_invariant (fun s e s' hs hcalm hstep => ?_) events
    (watched_new burstCapacity now) hm hrun).waited
  obtain ⟨hclock, hacts⟩ := step_cases hstep
  have hlater : Watched { s with clock := e.1 } :=
    ⟨hs.current, fun p c hc => (hs.calls p c hc).later hclock, hs.waited⟩
  refine hlater.acts hacts ?_
  obtain ⟨now, a⟩ := e
  cases a with
  | advance p => exact hcalm
  | acquire | on429 | onSuccess | tick | addPermit => trivial

/-- A call that comes after a 429 sleeps until the deadline, and on, as a second 429 comes in while
it sleeps. -/
def rejectedThenAcquired : List (Nat × LimiterAction) :=
  [(0, .on429 0), (0, .advance 0), (0, .advance 0), (0, .advance 0),
   (5, .acquire 1), (5, .advance 1), (5, .advance 1),
   (10, .on429 2), (10, .advance 2), (10, .advance 2), (10, .advance 2),
   (1_000_000_000, .advance 1), (1_000_000_000, .advance 1), (1_000_000_000, .advance 1),
   (2_000_000_010, .advance 1), (2_000_000_010, .advance 1), (2_000_000_010, .advance 1),
   (2_000_000_011, .advance 1)]

theorem rejectedThenAcquired_waits :
    ∃ w, Runs.run step (new .fair 1 0) rejectedThenAcquired = some w ∧
      returns w.trace = 1 ∧ Each WaitsOut w.trace := by
  have hruns : (Runs.run step (new .fair 1 0) rejectedThenAcquired).map (returns ·.trace) =
      some 1 := by
    decide +kernel
  obtain ⟨w, hw, hreturns⟩ := Option.map_eq_some_iff.mp hruns
  have hcalm : Runs.Meets step PushesAlone (new .fair 1 0) rejectedThenAcquired := by
    have hfirst : fromSecs (cooldownSecs 1) = 1_000_000_000 := by decide
    have hsecond : fromSecs (cooldownSecs 2) = 2_000_000_000 := by decide
    -- the first deadline is set with no call under way, the second while one sleeps
    have hpushed : ∀ q, (if q = 0 then some (CallPoint.push 1_000_000_000) else none).any
        CallPoint.hasLooked = false := by
      intro q
      split <;> rfl
    have hasleep : ∀ q, (if q = 2 then some (CallPoint.push 2_000_000_010)
        else if q = 1 then some (.sleep 1_000_000_000) else none).any
          CallPoint.hasLooked = false := by
      intro q
      split
      · rfl
      · split <;> rfl
    simpa [rejectedThenAcquired, Runs.Meets, PushesAlone, step, act, start, advance, put, log, new,
      FireblocksLimiter.new, pushCooldown, hfirst, hsecond, Function.update_apply]
      using And.intro hpushed hasleep
  exact ⟨w, hw, hreturns, acquire_waits 1 0 rejectedThenAcquired w hcalm hw⟩

/-- Two calls and one token, and a 429 for the first while the second waits for a token. -/
def rejectedWhileQueued : List (Nat × LimiterAction) :=
  [(0, .acquire 0), (0, .advance 0), (0, .advance 0), (0, .advance 0),
   (1, .acquire 1), (1, .advance 1), (1, .advance 1), (1, .advance 1),
   (10, .on429 2), (10, .advance 2), (10, .advance 2), (10, .advance 2),
   (50_000_000, .tick), (50_000_000, .addPermit), (50_000_000, .advance 1)]

/--
The second call returns with the token of the next tick, a twentieth of a second later, with the
deadline a second away.
-/
theorem queued_call_ignores_cooldown :
    ∃ w, Runs.run step (new .fair 1 0) rejectedWhileQueued = some w ∧
      w.trace = [.looked 0, .returned 0 0, .looked 1, .cooled 1_000_000_010, .ticked,
        .returned 1 50_000_000] ∧ ¬ Each WaitsOut w.trace := by
  have hruns : (Runs.run step (new .fair 1 0) rejectedWhileQueued).map (·.trace) =
      some [.looked 0, .returned 0 0, .looked 1, .cooled 1_000_000_010, .ticked,
        .returned 1 50_000_000] := by
    decide +kernel
  obtain ⟨w, hw, htrace⟩ := Option.map_eq_some_iff.mp hruns
  refine ⟨w, hw, htrace, ?_⟩
  rw [htrace]
  decide +kernel

end LimiterWorld

end RelayerExtensions.Funds
