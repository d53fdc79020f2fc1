import RelayerExtensions.Prices.RetryBudget

/-!
# How many attempts a reconnection reports

When `exhaust_retries` gets a connection again, it logs how many attempts it took: the number of
retry timestamps, less the number of them when it was called. But every retry first drops the
timestamps that are a minute old, those of earlier calls and its own alike. So the number is right
exactly if none has been dropped since the call began (`reports_exact_iff`). After a longer time
without trouble the first retry drops all that were there, and the difference is below zero
(`later_reconnect_underflows`).
-/

namespace RelayerExtensions.Prices

open Window (recent)

/-- What the log line says, and how many calls of `retry_connection` there were. -/
structure AttemptsReport where
  /-- `retry_timestamps.len() - attempts_before_loop`, if it can be subtracted. -/
  attempts : Option Nat
  calls : Nat
deriving DecidableEq

/-- A stream with the locals of `exhaust_retries`, as of its last call. -/
structure Metered where
  stream : Stream
  attemptsBeforeLoop : Nat
  /-- The calls of `retry_connection` so far. -/
  calls : Nat
  /-- The timestamps that were there when the call began, and those of its retries. -/
  counted : List Nat
  clock : Nat
  reports : List AttemptsReport

def Phase.isRetrying : Phase → Bool
  | .retrying _ => true
  | _ => false

def Phase.isManaging : Phase → Bool
  | .managing _ => true
  | _ => false

namespace Metered

variable {ν : Type} (api : Api ν) (config : ExchangeConnectionsConfig)

def spawned (pair : PairInfo) : Metered := ⟨.spawned pair, 0, 0, [], 0, []⟩

def attempts (m : Metered) (s : Stream) : Option Nat :=
  if m.attemptsBeforeLoop ≤ s.retryTimestamps.length then
    some (s.retryTimestamps.length - m.attemptsBeforeLoop)
  else none

/-- After a retry, which may have given a connection. -/
def retried (m : Metered) (s : Stream) (now : Nat) : Metered :=
  { m with
    stream := s
    calls := m.calls + 1
    counted := m.counted ++ [now]
    clock := now
    reports :=
      if s.phase.isManaging then m.reports ++ [⟨m.attempts s, m.calls + 1⟩] else m.reports }

/-- After anything else, which may have been the beginning of a call. -/
def moved (m : Metered) (s : Stream) : Metered :=
  if s.phase.isRetrying then
    { m with
      stream := s
      attemptsBeforeLoop := s.retryTimestamps.length
      calls := 0
      counted := s.retryTimestamps }
  else { m with stream := s }

/-- A step of the stream; retries do not go back in time. -/
def step (m : Metered) (ev : TaskEvent ν) : Option Metered :=
  match ev.retryTime with
  | some now =>
      if now < m.clock then none
      else (m.stream.step api config ev).map fun s => m.retried s now
  | none => (m.stream.step api config ev).map m.moved

/-- The report is right. -/
def Exact (m : Metered) : Prop := ∀ report ∈ m.reports, report.attempts = some report.calls

/-- If this is a retry that gives a connection, no timestamp that counts is a minute old. -/
def Undropped (m : Metered) (ev : TaskEvent ν) : Prop :=
  ∀ now ∈ ev.retryTime, (m.stream.step api config ev).any (·.phase.isManaging) = true →
    ∀ t ∈ m.counted, now - t < maxConnRetryWindow

instance decidableUndropped (m : Metered) (ev : TaskEvent ν) :
    Decidable (m.Undropped api config ev) :=
  inferInstanceAs (Decidable (∀ _ ∈ _, _))

variable {api config} {m m' : Metered} {ev : TaskEvent ν}

/-- What counts is what there was and the calls, and what is left of it is what is recent. -/
structure Counted (m : Metered) : Prop where
  length : m.counted.length = m.attemptsBeforeLoop + m.calls
  kept : ∀ t, m.clock ≤ t →
    recent maxConnRetryWindow t m.stream.retryTimestamps = recent maxConnRetryWindow t m.counted

theorem spawned_counted (pair : PairInfo) : (spawned pair).Counted := ⟨rfl, fun _ _ => rfl⟩

/-- A retry leaves the timestamps of the last minute. -/
theorem Counted.retryTimestamps_eq (h : m.Counted) {s : Stream} {now : Nat}
    (hev : ev.retryTime = some now) (hclock : m.clock ≤ now)
    (hstep : m.stream.step api config ev = some s) :
    s.retryTimestamps = recent maxConnRetryWindow now (m.counted ++ [now]) := by
  cases Stream.step_cases hstep with
  | unitPrice hp | connect hp => cases hev
  | @retry prevErr now' r hp =>
      cases hev
      obtain ⟨_, _, heq⟩ := Stream.exhaustRetries_eq prevErr now r
      rw [heq, Window.recent_append, Window.recent_self (by decide), ← h.kept now hclock]
      rfl
  | cancelled hp hc => cases hev
  | manage hp hm =>
      cases ev with
      | retry now' r => cases hm
      | _ => cases hev

/-- The window holds everything that counts exactly if the difference is the number of calls. -/
theorem Counted.attempts_eq_iff (h : m.Counted) {s : Stream} {now : Nat}
    (hs : s.retryTimestamps = recent maxConnRetryWindow now (m.counted ++ [now])) :
    m.attempts s = some (m.calls + 1) ↔ ∀ t ∈ m.counted, now - t < maxConnRetryWindow := by
  have hall : s.retryTimestamps.length = (m.counted ++ [now]).length ↔
      ∀ t ∈ m.counted, now - t < maxConnRetryWindow := by
    have hnow : now - now < maxConnRetryWindow := by
      rw [Nat.sub_self]
      decide
    rw [hs, Window.length_recent_eq_iff, List.forall_mem_append, List.forall_mem_singleton]
    exact and_iff_left hnow
  rw [← hall, List.length_append, List.length_singleton, h.length]
  unfold attempts
  split
  · next hle =>
      rw [Option.some.injEq]
      omega
  · next hlt =>
      refine iff_of_false (fun h => ?_) fun heq => hlt ?_
      · cases h
      · omega

/-- What a step can be. -/
theorem step_cases (h : m.step api config ev = some m') :
    (∃ now s, ev.retryTime = some now ∧ m.clock ≤ now ∧
      m.stream.step api config ev = some s ∧ m' = m.retried s now) ∨
    ∃ s, ev.retryTime = none ∧ m.stream.step api config ev = some s ∧ m' = m.moved s := by
  unfold step at h
  split at h
  · next now hnow =>
      split at h
      · cases h
      · next hclock =>
          obtain ⟨s, hs, rfl⟩ := Option.map_eq_some_iff.mp h
          exact .inl ⟨now, s, hnow, Nat.le_of_not_lt hclock, hs, rfl⟩
  · next hnone =>
      obtain ⟨s, hs, rfl⟩ := Option.map_eq_some_iff.mp h
      exact .inr ⟨s, hnone, hs, rfl⟩

theorem Counted.step (h : m.Counted) (hstep : m.step api config ev = some m') : m'.Counted := by
  rcases step_cases hstep with ⟨now, s, hnow, hclock, hs, rfl⟩ | ⟨s, hnone, hs, rfl⟩
  · constructor
    · show (m.counted ++ [now]).length = m.attemptsBeforeLoop + (m.calls + 1)
      rw [List.length_append, List.length_singleton, h.length, Nat.add_assoc]
    · intro t ht
      have ht : now ≤ t := ht
      show recent _ t s.retryTimestamps = recent _ t (m.counted ++ [now])
      rw [h.retryTimestamps_eq hnow hclock hs, Window.recent_recent ht]
  · unfold moved
    split
    · exact ⟨rfl, fun t _ => rfl⟩
    · refine ⟨h.length, fun t ht => ?_⟩
      show recent _ t s.retryTimestamps = _
      rw [(Stream.step_of_not_retry hs hnone).1]
      exact h.kept t ht

/-- A report that a step makes is right exactly if nothing was dropped. -/
theorem exact_step_iff (h : m.Counted) (hstep : m.step api config ev = some m') :
    m'.Exact ↔ m.Exact ∧ m.Undropped api config ev := by
  rcases step_cases hstep with ⟨now, s, hnow, hclock, hs, rfl⟩ | ⟨s, hnone, hs, rfl⟩
  · have hundropped : m.Undropped api config ev ↔
        (s.phase.isManaging = true → ∀ t ∈ m.counted, now - t < maxConnRetryWindow) := by
      unfold Undropped
      rw [hnow, hs]
      simp
    rw [hundropped, ← h.attempts_eq_iff (h.retryTimestamps_eq hnow hclock hs)]
    unfold Exact retried
    dsimp only
    split
    · next hmanaging =>
        rw [List.forall_mem_append, List.forall_mem_singleton]
        exact and_congr_right fun _ => ⟨fun heq _ => heq, fun heq => heq hmanaging⟩
    · next hno => exact (and_iff_left fun hyes => absurd hyes hno).symm
  · have hreports : (m.moved s).reports = m.reports := by
      unfold moved
      split <;> rfl
    have hundropped : m.Undropped api config ev := by
      intro now hnow
      rw [hnone] at hnow
      cases hnow
    unfold Exact
    rw [hreports]
    exact (and_iff_left hundropped).symm

/-- The stream of a run is a run of the stream. -/
theorem run_stream : ∀ (events : List (TaskEvent ν)) {m m' : Metered},
    Runs.run (step api config) m events = some m' →
      Runs.run (Stream.step api config) m.stream events = some m'.stream
  | [], m, m', hrun => by
      cases hrun
      rfl
  | ev :: events, m, m', hrun => by
      obtain ⟨m₁, hstep, hrun⟩ := Runs.run_cons_some.mp hrun
      have hrest := run_stream events hrun
      refine Runs.run_cons_some.mpr ⟨m₁.stream, ?_, hrest⟩
      rcases step_cases hstep with ⟨now, s, hnow, hclock, hs, rfl⟩ | ⟨s, hnone, hs, rfl⟩
      · exact hs
      · have hstream : (m.moved s).stream = s := by
          unfold moved
          split <;> rfl
        rw [hstream]
        exact hs

/--
**The attempts that are reported are the calls that were made, without an underflow, exactly if
no timestamp is dropped in a call that reconnects**, neither of those it began with nor of its own.
-/
theorem reports_exact_iff {ν : Type} (api : Api ν) (config : ExchangeConnectionsConfig)
    (pair : PairInfo) (events : List (TaskEvent ν)) (m : Metered)
    (hrun : Runs.run (step api config) (spawned pair) events = some m) :
    (∀ report ∈ m.reports, report.attempts = some report.calls) ↔
      Runs.Meets (step api config) (Undropped api config) (spawned pair) events := by
  have hnone : (spawned pair).Exact := fun report hreport => (by cases hreport)
  have hiff := Runs.run_iff_and_meets (I := Exact) (fun m ev m' hm hstep => hm.step hstep)
    (fun m ev m' hm hstep => exact_step_iff hm hstep) events (spawned_counted pair) hrun
  exact hiff.trans (and_iff_right hnone)

def binancePair : PairInfo := ⟨.binance, "WETH", "USDT"⟩

/-- Refused twice, and connected with the second retry. -/
def reconnected : List (TaskEvent Unit) :=
  [.connect 0 refused, .retry connRetryDelay refused,
   .retry (2 * connRetryDelay) (restReplies "100.0" "102.0")]

theorem reconnected_exact : ∃ m,
    Runs.run (step sampleApi noKeys) (spawned binancePair) reconnected = some m ∧
      m.reports = [⟨some 2, 2⟩] ∧ ∀ report ∈ m.reports, report.attempts = some report.calls := by
  have hruns : (Runs.run (step sampleApi noKeys) (spawned binancePair) reconnected).map
      (·.reports) = some [⟨some 2, 2⟩] := by
    decide +kernel
  obtain ⟨m, hm, hreports⟩ := Option.map_eq_some_iff.mp hruns
  exact ⟨m, hm, hreports,
    (reports_exact_iff sampleApi noKeys binancePair reconnected m hm).mpr (by decide +kernel)⟩

/-- Prices come in for two minutes, the connection is closed, and the first retry opens it. -/
def reconnectedLater : List (TaskEvent Unit) :=
  reconnected ++
    [.poll 5_000_000_000 none, .poll 60_000_000_000 (some (.message (.text "book ticker"))),
     .poll 118_000_000_000 (some .ended), .retry 120_000_000_000 (restReplies "100.0" "102.0")]

/-- Both timestamps of the first call are there when the second one begins, and the retry drops
them: one timestamp less two. -/
theorem later_reconnect_underflows : ∃ m,
    Runs.run (step sampleApi noKeys) (spawned binancePair) reconnectedLater = some m ∧
      m.reports = [⟨some 2, 2⟩, ⟨none, 1⟩] ∧
      ¬ ∀ report ∈ m.reports, report.attempts = some report.calls := by
  have hruns : (Runs.run (step sampleApi noKeys) (spawned binancePair) reconnectedLater).map
      (·.reports) = some [⟨some 2, 2⟩, ⟨none, 1⟩] := by
    decide +kernel
  obtain ⟨m, hm, hreports⟩ := Option.map_eq_some_iff.mp hruns
  refine ⟨m, hm, hreports, ?_⟩
  rw [hreports]
  decide

end Metered

end RelayerExtensions.Prices
