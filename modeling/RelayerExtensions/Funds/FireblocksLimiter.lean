import Mathlib.Algebra.Group.Nat.Defs
import Mathlib.Data.List.Induction
import RelayerExtensions.Lib.History
import RelayerExtensions.Lib.Semaphore

/-!
# The Fireblocks rate limiter: the cooldown

`FireblocksLimiter` (`funds-manager-server/src/custody_client/fireblocks_rate_limiter.rs`) holds
back the calls to an API that answers with 429 if there are too many. It has a bucket of tokens,
which is a semaphore, and a deadline before which no call is let through. A 429 pushes the
deadline forward, by a time that doubles with each 429 in a row.

The documentation gives these times as 1, 2, 4, 8 and 16 seconds, "capped at 30s". But the shift
that doubles them is clamped as well, to four: the sixth 429 in a row, and every one after it,
adds the sixteen seconds of the fifth. So the ceiling is never reached, and the backoff is the
documented one exactly as long as no six calls in a row are rejected
(`backoff_documented_iff`, `sixth_rejection_stays_at_sixteen`).

This module is about reports that come one after the other. Instants are in nanoseconds.
-/

namespace RelayerExtensions.Funds

open History (Each each_concat each_nil)

def initialCooldownSecs : UInt64 := 1

def maxCooldownSecs : UInt64 := 30

/-- `Duration::from_secs` -/
def fromSecs (secs : UInt64) : Nat := secs.toNat * 1_000_000_000

/-- The semaphores of `tokio`; who waits for a token is named by a number. -/
abbrev SemaphoreLib := Semaphore.Lib Nat

structure FireblocksLimiter (lib : SemaphoreLib) where
  permits : lib.Sem
  capacity : Nat
  cooldownUntil : Option Nat
  consecutive429s : UInt32

variable {lib : SemaphoreLib}

namespace FireblocksLimiter

def new (burstCapacity : Nat) : FireblocksLimiter lib :=
  { permits := lib.new burstCapacity
    capacity := burstCapacity
    cooldownUntil := none
    consecutive429s := 0 }

/-- How long the `n`-th 429 in a row holds back the traffic. -/
def cooldownSecs (n : UInt32) : UInt64 :=
  let shift := (min n 5 - 1).toUInt64
  min (initialCooldownSecs <<< shift) maxCooldownSecs

/-- The end of `on_429`, under the lock. -/
def pushCooldown (l : FireblocksLimiter lib) (newUntil : Nat) : FireblocksLimiter lib :=
  if l.cooldownUntil.all (· < newUntil) then { l with cooldownUntil := some newUntil } else l

def on429 (l : FireblocksLimiter lib) (now : Nat) : FireblocksLimiter lib :=
  let n := l.consecutive429s + 1
  pushCooldown { l with consecutive429s := n } (now + fromSecs (cooldownSecs n))

def onSuccess (l : FireblocksLimiter lib) : FireblocksLimiter lib := { l with consecutive429s := 0 }

/-- The later of a deadline, if there is one, and an instant. -/
def latest (deadline : Option Nat) (t : Nat) : Nat := max (deadline.getD 0) t

theorem pushCooldown_cooldownUntil (l : FireblocksLimiter lib) (newUntil : Nat) :
    (l.pushCooldown newUntil).cooldownUntil = some (latest l.cooldownUntil newUntil) := by
  unfold pushCooldown latest
  cases hd : l.cooldownUntil with
  | none => simp
  | some existing =>
      by_cases hlt : existing < newUntil
      · simp [hlt, Nat.le_of_lt hlt]
      · simp [hlt, hd, Nat.le_of_not_lt hlt]

theorem permits_pushCooldown (l : FireblocksLimiter lib) (newUntil : Nat) :
    (l.pushCooldown newUntil).permits = l.permits := by
  unfold pushCooldown
  split <;> rfl

theorem capacity_pushCooldown (l : FireblocksLimiter lib) (newUntil : Nat) :
    (l.pushCooldown newUntil).capacity = l.capacity := by
  unfold pushCooldown
  split <;> rfl

theorem consecutive429s_pushCooldown (l : FireblocksLimiter lib) (newUntil : Nat) :
    (l.pushCooldown newUntil).consecutive429s = l.consecutive429s := by
  unfold pushCooldown
  split <;> rfl

end FireblocksLimiter

/-! ## Reports, one after the other -/

inductive Report where
  | rejected (now : Nat)
  | succeeded
deriving DecidableEq

namespace Report

def isRejected : Report → Bool
  | .rejected _ => true
  | .succeeded => false

def time : Report → Option Nat
  | .rejected now => some now
  | .succeeded => none

end Report

open FireblocksLimiter

def FireblocksLimiter.report (l : FireblocksLimiter lib) : Report → FireblocksLimiter lib
  | .rejected now => l.on429 now
  | .succeeded => l.onSuccess

/-- A limiter after some reports. -/
def reported (lib : SemaphoreLib) (burstCapacity : Nat) (history : List Report) :
    FireblocksLimiter lib :=
  history.foldl FireblocksLimiter.report (.new burstCapacity)

/-- The number of rejections since the last success. -/
def streak (history : List Report) : Nat :=
  (history.reverse.takeWhile Report.isRejected).length

/-- `n` in a row, as the module documentation has it. -/
def documentedSecs (n : Nat) : Nat := min (2 ^ (n - 1)) maxCooldownSecs.toNat

/-- The report leaves the documented deadline. -/
def DocumentedReport (lib : SemaphoreLib) (burstCapacity : Nat) (before : List Report) :
    Report → Prop
  | .rejected now =>
      (reported lib burstCapacity (before ++ [.rejected now])).cooldownUntil =
        some (latest (reported lib burstCapacity before).cooldownUntil
          (now + documentedSecs (streak (before ++ [.rejected now])) * 1_000_000_000))
  | .succeeded => True

/-- The report is not the sixth rejection in a row. -/
def FewRejected (before : List Report) (r : Report) : Prop :=
  r.isRejected = true → streak (before ++ [r]) ≤ 5

instance decidableFewRejected (before : List Report) (r : Report) :
    Decidable (FewRejected before r) :=
  inferInstanceAs (Decidable (_ → _))

section Backoff

variable {burstCapacity now : Nat} {history : List Report} {r : Report}

theorem reported_concat (lib : SemaphoreLib) (burstCapacity : Nat) (history : List Report)
    (r : Report) :
    reported lib burstCapacity (history ++ [r]) =
      (reported lib burstCapacity history).report r := by
  unfold reported
  rw [List.foldl_concat]

theorem streak_rejected (history : List Report) (now : Nat) :
    streak (history ++ [.rejected now]) = streak history + 1 := by
  unfold streak
  rw [List.reverse_concat]
  rfl

theorem streak_succeeded (history : List Report) : streak (history ++ [.succeeded]) = 0 := by
  unfold streak
  rw [List.reverse_concat]
  rfl

/-- The counter is the streak, as far as it can count. -/
theorem consecutive429s_eq (burstCapacity : Nat) (history : List Report) :
    (reported lib burstCapacity history).consecutive429s = UInt32.ofNat (streak history) := by
  induction history using List.reverseRecOn with
  | nil => rfl
  | append_singleton history r ih =>
      rw [reported_concat]
      cases r with
      | rejected now =>
          rw [streak_rejected, UInt32.ofNat_add, ← ih]
          exact consecutive429s_pushCooldown ..
      | succeeded =>
          rw [streak_succeeded]
          rfl

/-- What a rejection leaves. -/
theorem cooldownUntil_rejected (burstCapacity : Nat) (history : List Report) (now : Nat) :
    (reported lib burstCapacity (history ++ [.rejected now])).cooldownUntil =
      some (latest (reported lib burstCapacity history).cooldownUntil
        (now + fromSecs (cooldownSecs (UInt32.ofNat (streak (history ++ [.rejected now])))))) := by
  rw [reported_concat, streak_rejected, UInt32.ofNat_add, ← consecutive429s_eq burstCapacity]
  exact pushCooldown_cooldownUntil ..

/-- The first five times are the documented ones. -/
theorem cooldownSecs_of_le {n : Nat} (hpos : 0 < n) (hle : n ≤ 5) :
    (cooldownSecs (UInt32.ofNat n)).toNat = documentedSecs n := by
  have hall : ∀ n < 6, 0 < n →
      (cooldownSecs (UInt32.ofNat n)).toNat = documentedSecs n := by decide +kernel
  exact hall n (Nat.lt_succ_of_le hle) hpos

/-- From the fifth on, the time is that of the fifth. -/
theorem cooldownSecs_of_ge {n : UInt32} (h : 5 ≤ n) : cooldownSecs n = 16 := by
  have hmin : min n 5 = 5 := by
    by_cases hle : n ≤ 5
    · rw [UInt32.le_antisymm hle h]
      rfl
    · exact if_neg hle
  unfold cooldownSecs
  rw [hmin]
  rfl

theorem documentedSecs_le {n : Nat} (hle : n ≤ 5) : documentedSecs n ≤ 16 := by
  have hpow : 2 ^ (n - 1) ≤ 2 ^ 4 := Nat.pow_le_pow_right (by decide) (by omega)
  exact Nat.le_trans (Nat.min_le_left _ _) hpow

theorem streak_le (h : Each FewRejected history) : streak history ≤ 5 := by
  rcases List.eq_nil_or_concat history with rfl | ⟨history, r, rfl⟩
  · exact Nat.zero_le _
  · rw [List.concat_eq_append] at h ⊢
    cases r with
    | rejected now => exact (each_concat.mp h).2 rfl
    | succeeded =>
        rw [streak_succeeded]
        exact Nat.zero_le _

/-- The deadline is at most sixteen seconds away. -/
theorem cooldownUntil_le (h : Each FewRejected history)
    (hclock : ∀ t ∈ history.filterMap Report.time, t ≤ now) {deadline : Nat}
    (hd : (reported lib burstCapacity history).cooldownUntil = some deadline) :
    deadline ≤ now + 16 * 1_000_000_000 := by
  induction history using List.reverseRecOn generalizing deadline with
  | nil => cases hd
  | append_singleton history r ih =>
      obtain ⟨hhistory, hr⟩ := each_concat.mp h
      rw [List.filterMap_append, List.forall_mem_append] at hclock
      have hold := @ih hhistory hclock.1
      cases r with
      | succeeded =>
          rw [reported_concat] at hd
          exact hold hd
      | rejected t =>
          have ht : t ≤ now := hclock.2 t (List.mem_singleton_self t)
          have hpos : 0 < streak (history ++ [.rejected t]) := by
            rw [streak_rejected]
            exact Nat.succ_pos _
          have hsecs := cooldownSecs_of_le hpos (hr rfl)
          have hsixteen := documentedSecs_le (hr rfl)
          rw [cooldownUntil_rejected] at hd
          have heq := Option.some.inj hd
          unfold latest fromSecs at heq
          cases hprev : (reported lib burstCapacity history).cooldownUntil with
          | none =>
              rw [hprev, Option.getD_none] at heq
              omega
          | some earlier =>
              have hearlier := hold hprev
              rw [hprev, Option.getD_some] at heq
              omega

/-- One report, after reports that were few enough. -/
theorem documentedReport_iff (h : Each FewRejected history)
    (hclock : ∀ t ∈ history.filterMap Report.time, ∀ now ∈ r.time, t ≤ now) :
    DocumentedReport lib burstCapacity history r ↔ FewRejected history r := by
  cases r with
  | succeeded => exact ⟨fun _ hr => (by cases hr), fun _ => trivial⟩
  | rejected now =>
      have hnow : ∀ t ∈ history.filterMap Report.time, t ≤ now := fun t ht =>
        hclock t ht now rfl
      unfold DocumentedReport FewRejected
      dsimp only
      rw [cooldownUntil_rejected, Option.some.injEq, streak_rejected]
      constructor
      · -- the sixth in a row: sixteen seconds, where it should be thirty
        intro hsame _
        by_contra hmore
        have hsix : streak history + 1 = 6 := by
          have := streak_le h
          omega
        rw [hsix] at hsame
        have hsecs : fromSecs (cooldownSecs (UInt32.ofNat 6)) = 16 * 1_000_000_000 := by
          rw [cooldownSecs_of_ge (by decide)]
          rfl
        have hdocumented : documentedSecs 6 = 30 := by decide +kernel
        rw [hsecs, hdocumented] at hsame
        unfold latest at hsame
        cases hprev : (reported lib burstCapacity history).cooldownUntil with
        | none =>
            rw [hprev, Option.getD_none] at hsame
            omega
        | some earlier =>
            have hearlier := cooldownUntil_le h hnow hprev
            rw [hprev, Option.getD_some] at hsame
            omega
      · intro hfew
        rw [fromSecs, cooldownSecs_of_le (Nat.succ_pos _) (hfew rfl)]

/--
**The backoff is the documented one exactly as long as no six calls in a row are rejected.** The
clock does not go back.
-/
theorem backoff_documented_iff (burstCapacity : Nat) (history : List Report)
    (hclock : (history.filterMap Report.time).Pairwise (· ≤ ·)) :
    Each (DocumentedReport lib burstCapacity) history ↔ Each FewRejected history := by
  induction history using List.reverseRecOn with
  | nil => exact iff_of_true (each_nil _) (each_nil _)
  | append_singleton history r ih =>
      rw [List.filterMap_append, List.pairwise_append] at hclock
      obtain ⟨hhistory, -, hlast⟩ := hclock
      have hr : ∀ t ∈ history.filterMap Report.time, ∀ now ∈ r.time, t ≤ now := by
        intro t ht now hnow
        refine hlast t ht now ?_
        rw [List.filterMap_cons_some hnow]
        exact List.mem_cons_self
      rw [each_concat, each_concat, ih hhistory]
      exact and_congr_right fun hfew => documentedReport_iff hfew hr

/-- Five rejections, a success, and one more rejection. -/
def fiveInARow : List Report :=
  [.rejected 0, .rejected 1, .rejected 2, .rejected 3, .rejected 4, .succeeded, .rejected 5]

theorem fiveInARow_documented : Each (DocumentedReport .fair 30) fiveInARow :=
  (backoff_documented_iff 30 fiveInARow (by decide)).mpr (by decide +kernel)

/-- Six rejections in a row: the deadline is sixteen seconds away, and should be thirty. -/
theorem sixth_rejection_stays_at_sixteen :
    (reported .fair 30 (List.replicate 6 (.rejected 0))).cooldownUntil = some (16 * 1_000_000_000) ∧
      documentedSecs (streak (List.replicate 6 (.rejected 0))) = 30 ∧
      ¬ Each (DocumentedReport .fair 30) (List.replicate 6 (.rejected 0)) := by
  refine ⟨by decide +kernel, by decide +kernel, fun hall => ?_⟩
  have hlast := hall (List.replicate 5 (.rejected 0)) (.rejected 0) [] rfl
  unfold DocumentedReport at hlast
  have hwrong : (reported .fair 30 (List.replicate 6 (.rejected 0))).cooldownUntil ≠
      some (latest (reported .fair 30 (List.replicate 5 (.rejected 0))).cooldownUntil
        (0 + documentedSecs (streak (List.replicate 6 (.rejected 0))) * 1_000_000_000)) := by
    decide +kernel
  exact hwrong hlast

end Backoff

end RelayerExtensions.Funds
