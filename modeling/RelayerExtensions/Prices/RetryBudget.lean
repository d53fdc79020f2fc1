import RelayerExtensions.Lib.Window
import RelayerExtensions.Prices.StreamLifecycle

/-!
# How long a task retries

A price stream task keeps the instants of its retries, drops those older than a minute, and
gives up when fifteen are left (`retry_connection` and `exhaust_retries` of
`price-reporter/src/price_stream_manager.rs`). The documentation of `MAX_CONN_RETRIES` reckons
with cycles of twelve seconds: two before the retry, and ten in which no price comes. Five of
these fill the window, so the count never gets to fifteen.

What a task still keeps and what it has forgotten make no difference to the count: it is that
of all its retries (`Recorded`). So fifteen retries end the task exactly if the last comes
less than a minute after the first, whatever happens in between and however they fail.
-/

namespace RelayerExtensions.Prices

open Window (recent span)

/-- In nanoseconds. -/
def connRetryDelay : Nat := 2_000 * 1_000_000

/-! ## Attempts -/

/-- It does not fail for the reason that there were too many retries. -/
def Unexhausted {α : Type} (x : Except ExchangeConnectionError α) : Prop :=
  ∀ exchange, x ≠ .error (.maxRetries exchange)

section Attempts

variable {ν α β : Type} {api : Api ν} {config : ExchangeConnectionsConfig}

theorem Unexhausted.ok (a : α) : Unexhausted (.ok a) := by
  intro exchange h
  cases h

theorem Unexhausted.bind {x : Except ExchangeConnectionError α}
    {f : α → Except ExchangeConnectionError β} (hx : Unexhausted x)
    (hf : ∀ a, Unexhausted (f a)) : Unexhausted (x >>= f) := by
  intro exchange h
  rcases Effect.bind_error h with hx' | ⟨a, -, ha⟩
  · exact hx exchange hx'
  · exact hf a exchange ha

theorem unexhausted_wrapError {wrap : String → ExchangeConnectionError}
    (hwrap : ∀ text exchange, wrap text ≠ .maxRetries exchange) (x : Except String α) :
    Unexhausted (wrapError wrap x) := by
  intro exchange h
  cases x with
  | ok a => cases h
  | error text => exact hwrap text exchange (Except.error.inj h)

theorem unexhausted_wsConnect (r : Replies ν) : Unexhausted (wsConnect r) := by
  intro exchange h
  unfold wsConnect at h
  split at h <;> cases h

theorem unexhausted_exchangeTickers (pair : PairInfo) (exchange : Exchange) :
    Unexhausted (exchangeTickers api pair exchange) := by
  intro exchange' h
  unfold exchangeTickers at h
  split at h <;> cases h

theorem unexhausted_parseJsonField (parse : String → Option α) (fieldName : String)
    (response : Json ν) : Unexhausted (parseJsonField api parse fieldName response) := by
  intro exchange h
  unfold parseJsonField parseText at h
  split at h
  · cases h
  · split at h <;> cases h

theorem unexhausted_connectSubscribing (exchange : Exchange) (pair : PairInfo) (r : Replies ν) :
    Unexhausted (connectSubscribing api exchange pair r) := by
  refine (unexhausted_wsConnect r).bind fun _ => ?_
  refine (unexhausted_exchangeTickers pair exchange).bind fun _ => ?_
  refine (unexhausted_wrapError ?_ r.subscribeSent).bind fun _ => .ok _
  intro text exchange h
  cases h

theorem unexhausted_binance (pair : PairInfo) (r : Replies ν) :
    Unexhausted (Binance.connect api pair r) := by
  refine (unexhausted_exchangeTickers pair .binance).bind fun _ => ?_
  refine (unexhausted_wrapError ?_ r.rest).bind fun response => ?_
  · intro text exchange h
    cases h
  · have hsides : Unexhausted (Binance.restSides api response) :=
      (unexhausted_parseJsonField _ _ _).bind fun _ =>
        (unexhausted_parseJsonField _ _ _).bind fun _ => .ok _
    exact hsides.bind fun _ => (unexhausted_wsConnect r).bind fun _ => .ok _

theorem unexhausted_coinbase {pair : PairInfo} {r : Replies ν}
    {x : Except ExchangeConnectionError Connection}
    (h : Coinbase.connect api config pair r = .done x) : Unexhausted x := by
  have hopen : Unexhausted (do wsConnect r; exchangeTickers api pair .coinbase) :=
    (unexhausted_wsConnect r).bind fun _ => unexhausted_exchangeTickers pair .coinbase
  unfold Coinbase.connect at h
  split at h
  · next e he =>
      cases h
      intro exchange hmax
      exact hopen exchange (he.trans (congrArg _ (Except.error.inj hmax)))
  · split at h
    · cases h
      have hcrypto (sent : Except String Unit) : Unexhausted (wrapError .crypto sent) :=
        unexhausted_wrapError (by intro text exchange h; cases h) sent
      have hhangup (sent : Except String Unit) :
          Unexhausted (wrapError .connectionHangup sent) :=
        unexhausted_wrapError (by intro text exchange h; cases h) sent
      exact (hcrypto _).bind fun _ => (hcrypto _).bind fun _ => (hhangup _).bind fun _ =>
        (hhangup _).bind fun _ => .ok _
    · cases h

/-- Only the count of the retries ends them. -/
theorem connectExchange_unexhausted {pair : PairInfo} {r : Replies ν}
    {x : Except ExchangeConnectionError Connection}
    (h : connectExchange api config pair r = .done x) : Unexhausted x := by
  unfold connectExchange at h
  split at h
  · cases h
    exact unexhausted_binance pair r
  · exact unexhausted_coinbase h
  · cases h
    exact unexhausted_connectSubscribing .kraken pair r
  · cases h
    exact unexhausted_connectSubscribing .okx pair r
  · cases h
    intro exchange hmax
    cases hmax

end Attempts

/-! ## What a task remembers -/

def TaskEvent.retryTime {ν : Type} : TaskEvent ν → Option Nat
  | .retry now _ => some now
  | _ => none

def retryTimes {ν : Type} (events : List (TaskEvent ν)) : List Nat :=
  events.filterMap TaskEvent.retryTime

/-- The window before this instant holds as many retries as there may be. -/
def Exhausted (history : List Nat) : Prop :=
  ∃ t, history.getLast? = some t ∧
    maxConnRetries ≤ (recent maxConnRetryWindow t history).length

namespace Stream

variable {ν : Type} {api : Api ν} {config : ExchangeConnectionsConfig} {s s' : Stream}
  {history : List Nat}

theorem failed_of_phase {phase : Phase} (hp : s.phase = phase) (h : phase.result = none) :
    s.failed = false := by
  unfold failed
  rw [hp, h]

theorem exhaustRetries_failed_iff (prevErr : ServerError) (now : Nat) (r : Replies ν) :
    (s.exhaustRetries api config prevErr now r).failed = true ↔
      maxConnRetries ≤ (s.retries now).length := by
  by_cases hle : maxConnRetries ≤ (s.retries now).length
  · have hretry : s.retryConnection api config now r =
        .done (.error (.maxRetries s.pair.exchange)) := if_pos hle
    unfold exhaustRetries
    rw [hretry]
    exact ⟨fun _ => hle, fun _ => rfl⟩
  · have hretry : s.retryConnection api config now r = connectExchange api config s.pair r :=
      if_neg hle
    refine ⟨fun hfailed => ?_, fun h => absurd h hle⟩
    unfold exhaustRetries at hfailed
    rw [hretry] at hfailed
    dsimp only at hfailed
    split at hfailed
    · cases hfailed
    · cases hfailed
    · next hmax => exact absurd rfl (connectExchange_unexhausted hmax _)
    · cases hfailed

/-- A retry that connects, and is not one too many. -/
theorem exhaustRetries_of_connected {prevErr : ServerError} {now : Nat} {r : Replies ν}
    {conn : Connection} (hlen : (s.retries now).length < maxConnRetries)
    (hconn : connectExchange api config s.pair r = .done (.ok conn)) :
    s.exhaustRetries api config prevErr now r =
      ({ s with retryTimestamps := s.retries now } : Stream).manage conn now := by
  have hretry : s.retryConnection api config now r = .done (.ok conn) :=
    (if_neg (Nat.not_le_of_lt hlen)).trans hconn
  unfold exhaustRetries
  rw [hretry]

/-- What is left of the retries is as good as all of them, and the task has returned an error
if there were too many in a minute. -/
structure Recorded (s : Stream) (history : List Nat) : Prop where
  kept : ∀ t, (∀ u ∈ history, u ≤ t) →
    recent maxConnRetryWindow t s.retryTimestamps = recent maxConnRetryWindow t history
  failed : s.failed = true ↔ Exhausted history

theorem spawned_recorded (pair : PairInfo) : (spawned pair).Recorded [] := by
  refine ⟨fun t _ => rfl, ?_⟩
  have hfailed : (spawned pair).failed = false := by
    rcases spawned_phase pair with hp | hp <;> exact failed_of_phase hp rfl
  rw [hfailed]
  refine ⟨fun h => absurd h Bool.false_ne_true, ?_⟩
  rintro ⟨t, ht, -⟩
  cases ht

/-- The retries that are counted are those of the last minute. -/
theorem Recorded.retries_eq (h : s.Recorded history) {now : Nat} (hnow : ∀ u ∈ history, u ≤ now) :
    s.retries now = recent maxConnRetryWindow now (history ++ [now]) := by
  rw [Window.recent_append, Window.recent_self (by decide), ← h.kept now hnow]
  rfl

theorem Recorded.retry (h : s.Recorded history) (prevErr : ServerError) {now : Nat} (r : Replies ν)
    (hnow : ∀ u ∈ history, u ≤ now) :
    (s.exhaustRetries api config prevErr now r).Recorded (history ++ [now]) := by
  constructor
  · intro t ht
    obtain ⟨hold, hle⟩ := List.forall_mem_append.mp ht
    have hle : now ≤ t := hle now (List.mem_singleton.mpr rfl)
    obtain ⟨_, _, heq⟩ := exhaustRetries_eq prevErr now r
    rw [heq]
    show recent _ t (s.retries now) = _
    rw [h.retries_eq hnow, Window.recent_recent hle]
  · rw [exhaustRetries_failed_iff, h.retries_eq hnow]
    constructor
    · exact fun hle => ⟨now, List.getLast?_concat, hle⟩
    · rintro ⟨t, ht, hle⟩
      rw [List.getLast?_concat] at ht
      cases ht
      exact hle

/-- Any other step leaves the retries as they are, and does not fail for good. -/
theorem step_of_not_retry {ev : TaskEvent ν} (h : s.step api config ev = some s')
    (hev : ev.retryTime = none) :
    s'.retryTimestamps = s.retryTimestamps ∧ s.failed = false ∧ s'.failed = false := by
  cases step_cases h with
  | unitPrice hp => exact ⟨rfl, failed_of_phase hp rfl, failed_of_phase hp rfl⟩
  | @connect now r hp =>
      refine ⟨?_, failed_of_phase hp rfl, ?_⟩
      · obtain ⟨_, _, heq⟩ := connectWithRetries_eq now r
        rw [heq]
      · unfold connectWithRetries
        split <;> rfl
  | retry hp => cases hev
  | cancelled hp hc => exact ⟨rfl, failed_of_phase hp rfl, rfl⟩
  | manage hp hm =>
      refine ⟨?_, failed_of_phase hp rfl, ?_⟩
      · obtain ⟨_, _, rfl⟩ := manageConnection_eq hm
        rfl
      · rcases manageConnection_phase hp hm with ⟨m', hp'⟩ | ⟨e, hp'⟩
        · exact failed_of_phase hp' rfl
        · exact failed_of_phase hp' rfl

theorem Recorded.step {ev : TaskEvent ν} (h : s.Recorded history)
    (hstep : s.step api config ev = some s')
    (hclock : (history ++ ev.retryTime.toList).Pairwise (· ≤ ·)) :
    s'.Recorded (history ++ ev.retryTime.toList) := by
  cases htime : ev.retryTime with
  | none =>
      -- the step was possible, so the task had not given up; nor does it now
      obtain ⟨hkept, hs, hs'⟩ := step_of_not_retry hstep htime
      rw [Option.toList_none, List.append_nil]
      refine ⟨?_, ?_⟩
      · rw [hkept]
        exact h.kept
      · rw [hs', ← hs]
        exact h.failed
  | some now =>
      rw [htime] at hclock
      have hnow : ∀ u ∈ history, u ≤ now := fun u hu =>
        (List.pairwise_append.mp hclock).2.2 u hu now (List.mem_singleton.mpr rfl)
      cases step_cases hstep with
      | unitPrice hp | connect hp => cases htime
      | retry hp =>
          cases htime
          exact h.retry _ _ hnow
      | cancelled hp hc => cases htime
      | manage hp hm =>
          cases ev with
          | retry now r => cases hm
          | _ => cases htime

/-- **A task is through exactly when too many of all its retries were within a minute.** -/
theorem run_recorded : ∀ {events : List (TaskEvent ν)} {s : Stream} {history : List Nat},
    s.Recorded history → Runs.run (step api config) s events = some s' →
    (history ++ retryTimes events).Pairwise (· ≤ ·) → s'.Recorded (history ++ retryTimes events)
  | [], s, history, h, hrun, _ => by
      cases hrun
      rw [retryTimes, List.filterMap_nil, List.append_nil]
      exact h
  | ev :: events, s, history, h, hrun, hclock => by
      obtain ⟨s₁, hstep, hrun⟩ := Runs.run_cons_some.mp hrun
      have htimes : history ++ retryTimes (ev :: events) =
          history ++ ev.retryTime.toList ++ retryTimes events := by
        rw [List.append_assoc]
        unfold retryTimes
        rw [List.filterMap_cons]
        cases ev.retryTime with
        | none | some now => rfl
      rw [htimes] at hclock ⊢
      exact run_recorded (h.step hstep (List.pairwise_append.mp hclock).1) hrun hclock

theorem run_failed_iff {pair : PairInfo} {events : List (TaskEvent ν)}
    (hrun : Runs.run (step api config) (spawned pair) events = some s')
    (hclock : (retryTimes events).Pairwise (· ≤ ·)) :
    s'.failed = true ↔ Exhausted (retryTimes events) :=
  (run_recorded (spawned_recorded pair) hrun hclock).failed

end Stream

/-! ## Fifteen retries -/

theorem retryTimes_append {ν : Type} (events more : List (TaskEvent ν)) :
    retryTimes (events ++ more) = retryTimes events ++ retryTimes more :=
  List.filterMap_append

theorem exhausted_append_iff {earlier last : List Nat} (hlen : last.length = maxConnRetries)
    (hclock : (earlier ++ last).Pairwise (· ≤ ·)) :
    Exhausted (earlier ++ last) ↔ span last < maxConnRetryWindow := by
  have hne : last ≠ [] := List.ne_nil_of_length_pos (hlen ▸ (by decide))
  have hlast := List.getLast?_eq_some_getLast hne
  rw [← Window.le_length_recent_iff hlast hclock, hlen]
  constructor
  · rintro ⟨t, ht, hle⟩
    rw [List.getLast?_append_of_ne_nil _ hne, hlast] at ht
    cases ht
    exact hle
  · exact fun hle => ⟨_, (List.getLast?_append_of_ne_nil _ hne).trans hlast, hle⟩

/-- **After fifteen more retries a task has given up exactly if the last of them came less than
a minute after the first.** -/
theorem retries_exhausted_iff {ν : Type} {api : Api ν} {config : ExchangeConnectionsConfig}
    {pair : PairInfo} {events more : List (TaskEvent ν)} {s : Stream}
    (hrun : Runs.run (Stream.step api config) (.spawned pair) (events ++ more) = some s)
    (hclock : (retryTimes (events ++ more)).Pairwise (· ≤ ·))
    (hcycles : (retryTimes more).length = maxConnRetries) :
    s.failed = true ↔ span (retryTimes more) < maxConnRetryWindow := by
  rw [Stream.run_failed_iff hrun hclock, retryTimes_append]
  rw [retryTimes_append] at hclock
  exact exhausted_append_iff hcycles hclock

def okxPair : PairInfo := ⟨.okx, "WETH", "USDT"⟩

/-- The websocket cannot be opened. -/
def refused : Replies Unit := { restReplies "100.0" "102.0" with ws := .error (.other "refused") }

/-- Every attempt is refused at once, and made again after the delay. -/
def refusedRetries : List (TaskEvent Unit) :=
  (List.range maxConnRetries).map fun i => .retry ((i + 1) * connRetryDelay) refused

theorem refusedRetries_exhausted : ∃ s, Runs.run (Stream.step sampleApi noKeys) (.spawned okxPair)
    ([.connect 0 refused] ++ refusedRetries) = some s ∧ s.failed = true := by
  obtain ⟨s, hs⟩ := Option.isSome_iff_exists.mp (show (Runs.run (Stream.step sampleApi noKeys)
    (.spawned okxPair) ([.connect 0 refused] ++ refusedRetries)).isSome = true by decide +kernel)
  exact ⟨s, hs, (retries_exhausted_iff hs (by decide +kernel) (by decide +kernel)).mpr
    (by decide +kernel)⟩

/-- A task that is kept waiting before or after each retry never gives up, and so none that is
rate limited: the delay is ten seconds then. -/
theorem not_failed_of_slow {ν : Type} {api : Api ν} {config : ExchangeConnectionsConfig}
    {pair : PairInfo} {events : List (TaskEvent ν)} {s : Stream} {gap : Nat}
    (hrun : Runs.run (Stream.step api config) (.spawned pair) events = some s)
    (hgap : (retryTimes events).Pairwise fun t u => t + gap ≤ u)
    (hslow : maxConnRetryWindow ≤ (maxConnRetries - 1) * gap) : s.failed = false := by
  have hclock := hgap.imp fun {_ _} hle => Nat.le_trans (Nat.le_add_right _ _) hle
  refine Bool.eq_false_iff.mpr fun hfailed => ?_
  obtain ⟨t, ht, hle⟩ := (Stream.run_failed_iff hrun hclock).mp hfailed
  exact Nat.not_le_of_lt (Window.length_recent_lt ht hgap (by decide) hslow) hle

/-! ## A connection that stays silent -/

section Silent

variable {ν : Type} {api : Api ν} {config : ExchangeConnectionsConfig} {pair : PairInfo}
  {r : Replies ν} {conn : Connection} {gap : Nat}

/-- A task connects, hears nothing until the deadline, and connects again, so many times. -/
def silentRun (r : Replies ν) (gap : Nat) : Nat → List (TaskEvent ν)
  | 0 => [.connect 0 r, .ackDeadline]
  | n + 1 => silentRun r gap n ++ [.retry ((n + 1) * gap) r, .ackDeadline]

theorem retryTimes_silentRun (r : Replies ν) (gap n : Nat) :
    retryTimes (silentRun r gap n) = (List.range n).map fun i => (i + 1) * gap := by
  induction n with
  | zero => rfl
  | succ n ih =>
      rw [silentRun, retryTimes_append, ih, List.range_succ, List.map_append]
      rfl

theorem retryTimes_silentRun_gaps (r : Replies ν) (gap n : Nat) :
    (retryTimes (silentRun r gap n)).Pairwise fun s u => s + gap ≤ u := by
  rw [retryTimes_silentRun, List.pairwise_map]
  refine List.pairwise_lt_range.imp fun {i j} hij => ?_
  have hle := Nat.mul_le_mul_right gap (Nat.succ_le_succ hij)
  rw [Nat.succ_mul] at hle
  exact hle

/-- A connection that has just been opened fails at its deadline. -/
theorem step_ackDeadline (api : Api ν) (config : ExchangeConnectionsConfig) (s : Stream)
    (conn : Connection) (now : Nat) :
    ∃ err, (s.manage conn now).step api config .ackDeadline = some ((s.manage conn now).fail err) :=
  ⟨_, rfl⟩

/-- **A connection that stays silent is retried for ever.** -/
theorem silentRun_retrying (hunit : pair.isUnitPair = false)
    (hconn : connectExchange api config pair r = .done (.ok conn))
    (hslow : maxConnRetryWindow ≤ (maxConnRetries - 1) * gap) : ∀ n,
    ∃ s err, Runs.run (Stream.step api config) (.spawned pair) (silentRun r gap n) = some s ∧
      s.pair = pair ∧ s.phase = .retrying err
  | 0 => by
      have hphase : (Stream.spawned pair).phase = .connecting := by
        unfold Stream.spawned
        rw [hunit]
        rfl
      have hstep : (Stream.spawned pair).step api config (.connect 0 r) =
          some ((Stream.spawned pair).manage conn 0) := by
        unfold Stream.step
        rw [hphase]
        show some ((Stream.spawned pair).connectWithRetries api config 0 r) = _
        unfold Stream.connectWithRetries
        rw [show (Stream.spawned pair).pair = pair from rfl, hconn]
      obtain ⟨err, hack⟩ := step_ackDeadline api config (Stream.spawned pair) conn 0
      refine ⟨((Stream.spawned pair).manage conn 0).fail err, .exchangeConnection err, ?_, rfl, rfl⟩
      rw [silentRun, Runs.run_cons, hstep, Option.bind_some, Runs.run_cons, hack]
      rfl
  | n + 1 => by
      obtain ⟨s, prevErr, hrun, hpair, hphase⟩ := silentRun_retrying hunit hconn hslow n
      have hgaps := retryTimes_silentRun_gaps r gap (n + 1)
      have hclock : (retryTimes (silentRun r gap (n + 1))).Pairwise (· ≤ ·) :=
        hgaps.imp fun hle => Nat.le_trans (Nat.le_add_right _ _) hle
      rw [silentRun, retryTimes_append] at hgaps hclock
      have hrec := Stream.run_recorded (Stream.spawned_recorded pair) hrun
        (List.pairwise_append.mp hclock).1
      have hnow : ∀ u ∈ retryTimes (silentRun r gap n), u ≤ (n + 1) * gap := fun u hu =>
        (List.pairwise_append.mp hclock).2.2 u hu _ (List.mem_singleton.mpr rfl)
      -- the next retry is not one too many
      have hlen : (s.retries ((n + 1) * gap)).length < maxConnRetries := by
        rw [hrec.retries_eq hnow]
        exact Window.length_recent_lt List.getLast?_concat hgaps (by decide) hslow
      let s₁ : Stream := { s with retryTimestamps := s.retries ((n + 1) * gap) }
      have hstep : s.step api config (.retry ((n + 1) * gap) r) =
          some (s₁.manage conn ((n + 1) * gap)) := by
        unfold Stream.step
        rw [hphase]
        refine congrArg some (Stream.exhaustRetries_of_connected hlen ?_)
        rw [hpair]
        exact hconn
      obtain ⟨err, hack⟩ := step_ackDeadline api config s₁ conn ((n + 1) * gap)
      refine ⟨(s₁.manage conn ((n + 1) * gap)).fail err, .exchangeConnection err, ?_, hpair, rfl⟩
      rw [silentRun, Runs.run_append, hrun, Option.bind_some, Runs.run_cons, hstep,
        Option.bind_some, Runs.run_cons, hack]
      rfl

/-- Every cycle takes the delay and the time in which a price should have come. -/
theorem silent_connection_not_given_up :
    (retryTimes (silentRun (restReplies "100.0" "102.0") (connRetryDelay + subscribeAckTimeout)
      maxConnRetries)).length = maxConnRetries ∧
    ∃ s err, Runs.run (Stream.step sampleApi noKeys) (.spawned okxPair)
      (silentRun (restReplies "100.0" "102.0") (connRetryDelay + subscribeAckTimeout)
        maxConnRetries) = some s ∧ s.phase = .retrying err := by
  refine ⟨by decide +kernel, ?_⟩
  have hconn : connectExchange sampleApi noKeys okxPair (restReplies "100.0" "102.0") =
      .done (.ok (.new okxPair)) := rfl
  have hslow : maxConnRetryWindow ≤
      (maxConnRetries - 1) * (connRetryDelay + subscribeAckTimeout) := by decide
  obtain ⟨s, err, hrun, -, hphase⟩ :=
    silentRun_retrying (by decide) hconn hslow maxConnRetries
  exact ⟨s, err, hrun, hphase⟩

end Silent

end RelayerExtensions.Prices
