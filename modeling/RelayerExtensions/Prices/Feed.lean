import RelayerExtensions.Lib.History
import RelayerExtensions.Prices.StreamManager

/-!
# The loop that manages a connection

`manage_connection` of `price-reporter/src/price_stream_manager.rs` waits for four things at
once: the next price, and three timers. A price is sent on and remembered; a heartbeat sends
the remembered price again, or ends the connection if it is too old; a deadline ends the
connection if there has been no price by then; and a keepalive only talks to the exchange.

`Stream.manageConnection` is the loop as its task sees it, with timers that fire at any time.
Here the timers have their instants, and what is logged is on record: a stall when an old
price is first replayed, and a recovery at the next price. `step_simulates` says that this is
the same loop.

Which branch is taken when several are ready is left to the events. Whatever they are, the
loop only knows about the price it has last received, so all of its guarantees follow from
what its variables say about the history (`Inv`).
-/

namespace RelayerExtensions.Prices

open Watch

/-! ## Constants, in nanoseconds -/

def keepaliveInterval : Nat := 15_000 * 1_000_000

def heartbeatInterval : Nat := 10 * 1_000_000_000

def heartbeatReplayWarnAge : Nat := 30 * 1_000_000_000

/-! ## The loop -/

/-- What is logged, with the age of the price. -/
inductive FeedReport where
  | stalled (age : Nat)
  | resumed (stalledFor : Nat)
deriving DecidableEq

def FeedReport.isStall : FeedReport → Bool
  | .stalled _ => true
  | .resumed _ => false

/-- What has happened on a connection, and when. -/
inductive FeedAction where
  | ticked (price : Float) (instant : Nat)
  | sent (price : Float) (instant : Nat)
  | reported (report : FeedReport)
deriving DecidableEq

/-- The variables of `manage_connection`; each timer is the instant at which it fires. -/
structure Feed where
  pair : PairInfo
  conn : Connection
  keepaliveDelay : Nat
  heartbeatDelay : Nat
  subscribeAckDeadline : Nat
  lastPrice : Option Float
  lastExchangeUpdate : Nat
  receivedFirstTick : Bool
  replayStalled : Bool
  /-- The latest instant so far. -/
  clock : Nat
  result : Option ExchangeConnectionError
  /-- History. -/
  trace : List FeedAction

/-- The branch that is taken, and when. Sending a keepalive takes until `done`. -/
inductive FeedEvent where
  | keepalive (now done : Nat) (sent : Except String Unit)
  | ackDeadline (now : Nat)
  | heartbeat (now : Nat)
  | poll (now : Nat) (ready : Option WsEvent)

namespace Feed

/-- `manage_connection` is called. -/
def start (pair : PairInfo) (conn : Connection) (now : Nat) : Feed where
  pair := pair
  conn := conn
  keepaliveDelay := now + keepaliveInterval
  heartbeatDelay := now + heartbeatInterval
  subscribeAckDeadline := now + subscribeAckTimeout
  lastPrice := none
  lastExchangeUpdate := now
  receivedFirstTick := false
  replayStalled := false
  clock := now
  result := none
  trace := []

/-- The loop is running, and a timer has fired by now. -/
def Ready (f : Feed) (timer now : Nat) : Prop := f.result = none ∧ f.clock ≤ now ∧ timer ≤ now

instance (f : Feed) (timer now : Nat) : Decidable (f.Ready timer now) :=
  inferInstanceAs (Decidable (_ ∧ _))

def fail (f : Feed) (now : Nat) (err : ExchangeConnectionError) : Feed :=
  { f with clock := now, result := some err }

def record (f : Feed) (action : FeedAction) : Feed := { f with trace := f.trace ++ [action] }

def send (f : Feed) (price : Float) (now : Nat) : Feed := f.record (.sent price now)

/-- A stall is logged when the age of the price first exceeds the threshold. -/
def warn (f : Feed) (age : Nat) : Feed :=
  if f.replayStalled = false ∧ heartbeatReplayWarnAge < age then
    { f.record (.reported (.stalled age)) with replayStalled := true }
  else f

/-- A recovery is logged if a stall was. -/
def recover (f : Feed) (now : Nat) : Feed :=
  if f.replayStalled then
    { f.record (.reported (.resumed (now - f.lastExchangeUpdate))) with replayStalled := false }
  else f

variable {ν : Type} (api : Api ν)

/-- The branch of the heartbeat. -/
def beat (f : Feed) (now : Nat) : Feed :=
  match f.lastPrice with
  | none => { f with clock := now, heartbeatDelay := now + heartbeatInterval }
  | some price =>
      let age := now - f.lastExchangeUpdate
      if age < maxHeartbeatAge then
        { (f.warn age).send price now with
          clock := now
          heartbeatDelay := now + heartbeatInterval }
      else f.fail now (.connectionHangup ("No exchange data for " ++ api.durationText age))

/-- A price has come. -/
def tick (f : Feed) (price : Float) (now : Nat) : Feed :=
  { ((f.record (.ticked price now)).recover now).send price now with
    clock := now
    lastPrice := some price
    lastExchangeUpdate := now
    receivedFirstTick := true
    heartbeatDelay := now + heartbeatInterval }

/-- The branch of the next price. -/
def next (f : Feed) (now : Nat) (ready : Option WsEvent) : Feed :=
  match f.conn.pollNext api ready with
  | (.pending, conn) => { f with clock := now, conn := conn }
  | (.item (.ok price), conn) => { f with conn := conn }.tick price now
  | (.item (.error e), _) => f.fail now e
  | (.ended, _) => f.fail now
      (.connectionHangup ("Price stream for " ++ toTopic api f.pair ++ " has closed"))

/-- One turn of the loop. -/
def step (f : Feed) : FeedEvent → Option Feed
  | .keepalive now done sent =>
      if f.Ready f.keepaliveDelay now ∧ now ≤ done then
        match sendKeepalive f.conn sent with
        | .ok () => some { f with clock := done, keepaliveDelay := done + keepaliveInterval }
        | .error e => some (f.fail done e)
      else none
  | .ackDeadline now =>
      -- the branch is disabled after the first price
      if f.Ready f.subscribeAckDeadline now ∧ f.receivedFirstTick = false then
        some (f.fail now (.connectionHangup ("no price tick within " ++
          toString subscribeAckTimeoutSecs ++ "s of connect for " ++ toTopic api f.pair)))
      else none
  | .heartbeat now =>
      if f.Ready f.heartbeatDelay now then some (f.beat api now) else none
  | .poll now ready => if f.Ready 0 now then some (f.next api now ready) else none

end Feed

/-! ## What a history says -/

def FeedAction.tick? : FeedAction → Option (Float × Nat)
  | .ticked price instant => some (price, instant)
  | _ => none

def FeedAction.report? : FeedAction → Option FeedReport
  | .reported report => some report
  | _ => none

/-- The price received last, and when it was. -/
def latestTick (trace : List FeedAction) : Option (Float × Nat) :=
  trace.reverse.findSome? FeedAction.tick?

def reports (trace : List FeedAction) : List FeedReport := trace.filterMap FeedAction.report?

theorem latestTick_concat (trace : List FeedAction) (a : FeedAction) :
    latestTick (trace ++ [a]) = a.tick?.or (latestTick trace) := by
  unfold latestTick
  rw [List.reverse_append, List.reverse_singleton, List.singleton_append, List.findSome?_cons]
  cases a.tick? with
  | none | some t => rfl

theorem reports_concat (trace : List FeedAction) (a : FeedAction) :
    reports (trace ++ [a]) = reports trace ++ a.report?.toList := by
  unfold reports
  rw [List.filterMap_append]
  cases a with
  | ticked price instant | sent price instant | reported report => rfl

def FeedAction.sent? : FeedAction → Option Float
  | .sent price _ => some price
  | _ => none

/-- The channel, after what has been sent on it. -/
def sentOn (channel : Chan Float) (trace : List FeedAction) : Chan Float :=
  (trace.filterMap FeedAction.sent?).foldl Chan.send channel

theorem sentOn_concat (channel : Chan Float) (trace : List FeedAction) (a : FeedAction) :
    sentOn channel (trace ++ [a]) = a.sent?.toList.foldl Chan.send (sentOn channel trace) := by
  unfold sentOn
  rw [List.filterMap_append, List.foldl_append]
  cases a with
  | ticked price instant | sent price instant | reported report => rfl

/-- What is sent is the price received last, and that is not too old. -/
def Justified (before : List FeedAction) (a : FeedAction) : Prop :=
  ∀ price now, a = .sent price now →
    ∃ instant, latestTick before = some (price, instant) ∧ now - instant < maxHeartbeatAge

/-- A stall comes first, then a recovery, and so on. -/
def Alternate (rs : List FeedReport) : Prop :=
  ∀ (i : Nat) r, rs[i]? = some r → (r.isStall = true ↔ i % 2 = 0)

theorem Alternate.concat {rs : List FeedReport} (h : Alternate rs) {r : FeedReport}
    (hr : r.isStall = true ↔ rs.length % 2 = 0) : Alternate (rs ++ [r]) := by
  intro i r' hi
  rcases Nat.lt_trichotomy i rs.length with hlt | rfl | hgt
  · rw [List.getElem?_append_left hlt] at hi
    exact h i r' hi
  · rw [List.getElem?_concat_length] at hi
    cases hi
    exact hr
  · rw [List.getElem?_eq_none (by rw [List.length_append, List.length_singleton]; omega)] at hi
    cases hi

/-- What is on record, given whether the price is known to be stalled. -/
structure Logged (trace : List FeedAction) (stalled : Bool) : Prop where
  sends : History.Each Justified trace
  alternate : Alternate (reports trace)
  parity : stalled = true ↔ (reports trace).length % 2 = 1

theorem logged_nil : Logged [] false := by
  refine ⟨History.each_nil _, fun i r h => ?_, by decide⟩
  cases h

theorem Logged.concat {trace : List FeedAction} {stalled : Bool} (h : Logged trace stalled)
    {a : FeedAction} (hsend : Justified trace a) (ha : a.report? = none) :
    Logged (trace ++ [a]) stalled := by
  have hreports : reports (trace ++ [a]) = reports trace := by
    rw [reports_concat, ha, Option.toList_none, List.append_nil]
  refine ⟨History.each_concat.mpr ⟨h.sends, hsend⟩, ?_, ?_⟩
  · rw [hreports]
    exact h.alternate
  · rw [hreports]
    exact h.parity

theorem Logged.report {trace : List FeedAction} {stalled : Bool} (h : Logged trace stalled)
    {r : FeedReport} (hr : r.isStall = !stalled) : Logged (trace ++ [.reported r]) r.isStall := by
  have hreports : reports (trace ++ [.reported r]) = reports trace ++ [r] := reports_concat _ _
  have hflip : r.isStall = true ↔ ¬ (reports trace).length % 2 = 1 := by
    rw [hr, Bool.not_eq_true', ← Bool.not_eq_true, h.parity]
  refine ⟨History.each_concat.mpr ⟨h.sends, fun price now hsent => ?_⟩, ?_, ?_⟩
  · cases hsent
  · rw [hreports]
    refine h.alternate.concat (hflip.trans ?_)
    omega
  · rw [hreports, List.length_append, List.length_singleton, hflip]
    omega

namespace Feed

variable {ν : Type} {api : Api ν} {t₀ : Nat} {f f' : Feed}

/-- The variables say which price was the last one, and whether it is stalled. -/
structure Inv (start : Nat) (f : Feed) : Prop where
  deadline : f.subscribeAckDeadline = start + subscribeAckTimeout
  latest : latestTick f.trace = f.lastPrice.map fun price => (price, f.lastExchangeUpdate)
  first : f.receivedFirstTick = f.lastPrice.isSome
  logged : Logged f.trace f.replayStalled

theorem inv_start (pair : PairInfo) (conn : Connection) (now : Nat) :
    (start pair conn now).Inv now :=
  ⟨rfl, rfl, rfl, logged_nil⟩

/-- A report has been added to the history, or not; that is all. -/
structure Reported (f f' : Feed) : Prop where
  eq : f' = { f with trace := f'.trace, replayStalled := f'.replayStalled }
  logged : Logged f.trace f.replayStalled → Logged f'.trace f'.replayStalled
  latest : latestTick f'.trace = latestTick f.trace
  sentOn : ∀ channel, sentOn channel f'.trace = sentOn channel f.trace

theorem reported_warn (f : Feed) (age : Nat) : f.Reported (f.warn age) := by
  unfold warn
  split
  · next hstalled =>
      refine ⟨rfl, fun h => h.report ?_, latestTick_concat _ _, fun _ => sentOn_concat _ _ _⟩
      rw [hstalled.1]
      rfl
  · exact ⟨rfl, id, rfl, fun _ => rfl⟩

theorem reported_recover (f : Feed) (now : Nat) : f.Reported (f.recover now) := by
  unfold recover
  split
  · next hstalled =>
      refine ⟨rfl, fun h => h.report ?_, latestTick_concat _ _, fun _ => sentOn_concat _ _ _⟩
      rw [hstalled]
      rfl
  · exact ⟨rfl, id, rfl, fun _ => rfl⟩

theorem Inv.beat (h : f.Inv t₀) (now : Nat) : (f.beat api now).Inv t₀ := by
  unfold Feed.beat
  split
  · exact ⟨h.deadline, h.latest, h.first, h.logged⟩
  · next price hprice =>
      dsimp only
      split
      · next hyoung =>
          have hwarn := reported_warn f (now - f.lastExchangeUpdate)
          have hlatest := hwarn.latest.trans h.latest
          have hlogged := hwarn.logged h.logged
          rw [hwarn.eq]
          refine ⟨h.deadline, (latestTick_concat _ _).trans hlatest, h.first,
            hlogged.concat ?_ rfl⟩
          intro p t hsent
          cases hsent
          rw [hprice] at hlatest
          exact ⟨_, hlatest, hyoung⟩
      · exact ⟨h.deadline, h.latest, h.first, h.logged⟩

theorem Inv.tick (h : f.Inv t₀) (price : Float) (now : Nat) : (f.tick price now).Inv t₀ := by
  have hrecover := reported_recover (f.record (.ticked price now)) now
  have hlatest := hrecover.latest.trans (latestTick_concat _ _)
  have hlogged := hrecover.logged (h.logged.concat (fun p t hsent => by cases hsent) rfl)
  unfold Feed.tick
  rw [hrecover.eq]
  refine ⟨h.deadline, (latestTick_concat _ _).trans hlatest, rfl, hlogged.concat ?_ rfl⟩
  intro p t hsent
  cases hsent
  refine ⟨now, hlatest, ?_⟩
  rw [Nat.sub_self]
  decide

theorem Inv.next (h : f.Inv t₀) (now : Nat) (ready : Option WsEvent) :
    (f.next api now ready).Inv t₀ := by
  unfold Feed.next
  split
  · exact ⟨h.deadline, h.latest, h.first, h.logged⟩
  · next conn _ =>
      have hconn : ({ f with conn := conn } : Feed).Inv t₀ :=
        ⟨h.deadline, h.latest, h.first, h.logged⟩
      exact hconn.tick _ now
  · exact ⟨h.deadline, h.latest, h.first, h.logged⟩
  · exact ⟨h.deadline, h.latest, h.first, h.logged⟩

/-- **One turn of the loop keeps the history in order.** -/
theorem Inv.step {ev : FeedEvent} (h : f.Inv t₀) (hs : f.step api ev = some f') : f'.Inv t₀ := by
  cases ev with
  | keepalive now done sent =>
      obtain ⟨-, hs⟩ := Option.ite_none_right_eq_some.mp hs
      split at hs
      · cases hs
        exact ⟨h.deadline, h.latest, h.first, h.logged⟩
      · cases hs
        exact ⟨h.deadline, h.latest, h.first, h.logged⟩
  | ackDeadline now =>
      obtain ⟨-, hs⟩ := Option.ite_none_right_eq_some.mp hs
      cases hs
      exact ⟨h.deadline, h.latest, h.first, h.logged⟩
  | heartbeat now =>
      obtain ⟨-, hs⟩ := Option.ite_none_right_eq_some.mp hs
      cases hs
      exact h.beat now
  | poll now ready =>
      obtain ⟨-, hs⟩ := Option.ite_none_right_eq_some.mp hs
      cases hs
      exact h.next now ready

/-- What the loop promises, in whatever state it is. -/
structure Guarantees (api : Api ν) (start : Nat) (f : Feed) : Prop where
  /-- Only the price received last is sent, and not for long. -/
  sent : History.Each Justified f.trace
  /-- A heartbeat for an older price sends nothing and ends the connection. -/
  overdue : ∀ now f' price instant, f.step api (.heartbeat now) = some f' →
    latestTick f.trace = some (price, instant) → maxHeartbeatAge ≤ now - instant →
    f'.result.isSome = true ∧ f'.trace = f.trace
  /-- The deadline can fire as long as there has been no price, and never after that. -/
  deadline : ∀ now, (f.step api (.ackDeadline now)).isSome = true ↔
    f.result = none ∧ f.clock ≤ now ∧ start + subscribeAckTimeout ≤ now ∧
      latestTick f.trace = none
  deadlineEnds : ∀ now f', f.step api (.ackDeadline now) = some f' → f'.result.isSome = true
  alternate : Alternate (reports f.trace)

theorem Inv.overdue (h : f.Inv t₀) {now instant : Nat} {price : Float}
    (hs : f.step api (.heartbeat now) = some f')
    (hlatest : latestTick f.trace = some (price, instant))
    (hold : maxHeartbeatAge ≤ now - instant) : f'.result.isSome = true ∧ f'.trace = f.trace := by
  obtain ⟨-, hs⟩ := Option.ite_none_right_eq_some.mp hs
  cases hs
  rw [h.latest] at hlatest
  obtain ⟨price', hprice, hpair⟩ := Option.map_eq_some_iff.mp hlatest
  cases hpair
  unfold Feed.beat
  rw [hprice]
  dsimp only
  rw [if_neg (Nat.not_lt.mpr hold)]
  exact ⟨rfl, rfl⟩

/-- There has been no price exactly if the variable says so. -/
theorem Inv.first_iff (h : f.Inv t₀) : f.receivedFirstTick = false ↔ latestTick f.trace = none := by
  rw [h.first, h.latest, Option.map_eq_none_iff, Option.isSome_eq_false_iff,
    Option.isNone_iff_eq_none]

theorem Inv.guarantees (h : f.Inv t₀) : f.Guarantees api t₀ where
  sent := h.logged.sends
  overdue _ _ _ _ := h.overdue
  deadline now := by
    rw [Feed.step, ← h.first_iff, ← h.deadline, Option.isSome_ite, Ready, and_assoc, and_assoc]
  deadlineEnds now f' hs := by
    obtain ⟨-, hs⟩ := Option.ite_none_right_eq_some.mp hs
    cases hs
    rfl
  alternate := h.logged.alternate

end Feed

/--
**Whatever becomes ready when, a connection is managed as it should be**: only the price
received last is sent, as long as it is not too old; without a price the deadline ends the
connection, and otherwise a heartbeat does, for a price that is too old; and stalls and
recoveries alternate.
-/
theorem feed_guarantees {ν : Type} (api : Api ν) (pair : PairInfo) (conn : Connection) (start : Nat)
    (events : List FeedEvent) (f : Feed)
    (hrun : Runs.run (Feed.step api) (Feed.start pair conn start) events = some f) :
    f.Guarantees api start := by
  have hinv : f.Inv start :=
    Runs.run_preserves (fun _ _ _ h hs => h.step hs) events (Feed.inv_start pair conn start) hrun
  exact hinv.guarantees

/-- A price at once, a replay, a stall, a recovery, and a price that gets too old. -/
def stalledFeed : List FeedEvent :=
  [.poll 1_000_000_000 none, .heartbeat 11_000_000_000, .heartbeat 43_000_000_000,
    .poll 45_000_000_000 (some (.message (.text "book ticker"))), .heartbeat 165_000_000_000]

theorem stalledFeed_guarantees : ∃ f, Runs.run (Feed.step sampleApi)
      (Feed.start ⟨.binance, "WETH", "USDT"⟩
        (.newWithInitial ⟨.binance, "WETH", "USDT"⟩ 100.0 102.0) 0) stalledFeed = some f ∧
    reports f.trace = [.stalled 42_000_000_000, .resumed 44_000_000_000] ∧
    f.result.isSome = true ∧ f.Guarantees sampleApi 0 := by
  obtain ⟨f, hf, hproj⟩ := Option.map_eq_some_iff.mp
    (show (Runs.run (Feed.step sampleApi) (Feed.start ⟨.binance, "WETH", "USDT"⟩
      (.newWithInitial ⟨.binance, "WETH", "USDT"⟩ 100.0 102.0) 0) stalledFeed).map
        (fun f => (reports f.trace, f.result.isSome)) =
          some ([.stalled 42_000_000_000, .resumed 44_000_000_000], true) by decide +kernel)
  obtain ⟨hreports, hresult⟩ := Prod.mk.inj hproj
  exact ⟨f, hf, hreports, hresult, feed_guarantees _ _ _ _ _ f hf⟩

/-! ## The same loop, as its task sees it -/

/-- The event without the instant of a timer. -/
def FeedEvent.task {ν : Type} : FeedEvent → TaskEvent ν
  | .keepalive _ _ sent => .keepalive sent
  | .ackDeadline _ => .ackDeadline
  | .heartbeat now => .heartbeat now
  | .poll now ready => .poll now ready

namespace Feed

variable {ν : Type} {api : Api ν} {f f' : Feed} {s : Stream} {channel : Chan Float}

def managing (f : Feed) : Managing :=
  ⟨f.conn, f.lastPrice, f.lastExchangeUpdate, f.receivedFirstTick⟩

/-- What the task goes on with. -/
def phase (f : Feed) : Phase :=
  match f.result with
  | none => .managing f.managing
  | some err => .retrying (.exchangeConnection err)

/-- The task is where the loop is, and its channel has what the loop has sent. -/
structure Agrees (channel : Chan Float) (s : Stream) (f : Feed) : Prop where
  pair : s.pair = f.pair
  phase : s.phase = f.phase
  channel : s.channel = sentOn channel f.trace

theorem Agrees.fail (h : Agrees channel s f) (now : Nat) (err : ExchangeConnectionError) :
    Agrees channel (s.fail err) (f.fail now err) :=
  ⟨h.pair, rfl, h.channel⟩

/-- The same, while the loop is running. -/
theorem agrees_running (hpair : s.pair = f.pair) (hresult : f.result = none)
    (hphase : s.phase = .managing f.managing) (hchannel : s.channel = sentOn channel f.trace) :
    Agrees channel s f := by
  refine ⟨hpair, ?_, hchannel⟩
  rw [hphase, Feed.phase, hresult]

theorem Agrees.managing (h : Agrees channel s f) (hresult : f.result = none) :
    s.phase = .managing f.managing := by
  rw [h.phase, Feed.phase, hresult]

theorem heartbeat_none {m : Managing} (h : m.lastPrice = none) (now : Nat) :
    s.heartbeat api m now = s := by
  unfold Stream.heartbeat
  rw [h]

theorem heartbeat_some {m : Managing} {price : Float} (h : m.lastPrice = some price) (now : Nat) :
    s.heartbeat api m now =
      if now - m.lastExchangeUpdate < maxHeartbeatAge then
        { s with channel := s.channel.send price }
      else s.fail (.connectionHangup ("No exchange data for " ++
        api.durationText (now - m.lastExchangeUpdate))) := by
  unfold Stream.heartbeat
  rw [h]

theorem Agrees.beat (h : Agrees channel s f) (hresult : f.result = none) (now : Nat) :
    Agrees channel (s.heartbeat api f.managing now) (f.beat api now) := by
  have hphase := h.managing hresult
  unfold Feed.beat
  split
  · next hprice =>
      rw [heartbeat_none hprice]
      exact agrees_running h.pair hresult hphase h.channel
  · next price hprice =>
      rw [heartbeat_some hprice]
      show Agrees channel (if now - f.lastExchangeUpdate < maxHeartbeatAge then _ else _) _
      dsimp only
      by_cases hyoung : now - f.lastExchangeUpdate < maxHeartbeatAge
      · have hwarn := reported_warn f (now - f.lastExchangeUpdate)
        have hsent := hwarn.sentOn channel
        rw [if_pos hyoung, if_pos hyoung, hwarn.eq]
        refine agrees_running h.pair hresult hphase ?_
        refine Eq.trans ?_ (sentOn_concat _ _ _).symm
        rw [hsent, ← h.channel]
        rfl
      · rw [if_neg hyoung, if_neg hyoung]
        exact h.fail now _

theorem agrees_tick (hpair : s.pair = f.pair) (hresult : f.result = none)
    (hchannel : s.channel = sentOn channel f.trace) (price : Float) (now : Nat) :
    Agrees channel { s with
        channel := s.channel.send price
        phase := .managing ⟨f.conn, some price, now, true⟩ } (f.tick price now) := by
  have hrecover := reported_recover (f.record (.ticked price now)) now
  have hsent := (hrecover.sentOn channel).trans (sentOn_concat _ _ _)
  unfold Feed.tick
  rw [hrecover.eq]
  refine agrees_running hpair hresult rfl ?_
  refine Eq.trans ?_ (sentOn_concat _ _ _).symm
  rw [hsent, hchannel]
  rfl

theorem Agrees.next (h : Agrees channel s f) (hresult : f.result = none) (now : Nat)
    (ready : Option WsEvent) :
    Agrees channel (s.forward api f.managing now ready) (f.next api now ready) := by
  rcases hpoll : f.conn.pollNext api ready with ⟨poll, conn⟩
  have hpoll' : f.managing.conn.pollNext api ready = (poll, conn) := hpoll
  unfold Feed.next Stream.forward
  rw [hpoll, hpoll']
  rcases poll with _ | _ | (e | price)
  · exact agrees_running h.pair hresult rfl h.channel
  · dsimp only
    rw [h.pair]
    exact h.fail now _
  · exact h.fail now e
  · have htick := @agrees_tick { f with conn := conn } s channel h.pair hresult h.channel price now
    exact htick

/-- **One turn of the loop is one step of its task.** -/
theorem step_simulates (config : ExchangeConnectionsConfig) {ev : FeedEvent}
    (h : Agrees channel s f) (hs : f.step api ev = some f') :
    ∃ s', s.step api config ev.task = some s' ∧ Agrees channel s' f' := by
  have hstep (hresult : f.result = none) (ev : TaskEvent ν) (hev : ev ≠ .cancelled) :
      s.step api config ev = s.manageConnection api f.managing ev := by
    unfold Stream.step
    rw [h.managing hresult]
    cases ev with
    | cancelled => exact absurd rfl hev
    | _ => rfl
  cases ev with
  | keepalive now done sent =>
      obtain ⟨⟨hready, -⟩, hs⟩ := Option.ite_none_right_eq_some.mp hs
      rw [FeedEvent.task, hstep hready.1 _ (by simp), Stream.manageConnection]
      cases hsent : sendKeepalive f.conn sent with
      | ok u =>
          have hsent' : sendKeepalive f.managing.conn sent = .ok u := hsent
          rw [hsent] at hs
          cases hs
          rw [hsent']
          exact ⟨s, rfl, agrees_running h.pair hready.1 (h.managing hready.1) h.channel⟩
      | error e =>
          have hsent' : sendKeepalive f.managing.conn sent = .error e := hsent
          rw [hsent] at hs
          cases hs
          rw [hsent']
          exact ⟨_, rfl, h.fail done e⟩
  | ackDeadline now =>
      obtain ⟨⟨hready, hfirst⟩, hs⟩ := Option.ite_none_right_eq_some.mp hs
      cases hs
      have hfirst : f.managing.receivedFirstTick = false := hfirst
      rw [FeedEvent.task, hstep hready.1 _ (by simp), Stream.manageConnection, hfirst, h.pair]
      exact ⟨_, rfl, h.fail now _⟩
  | heartbeat now =>
      obtain ⟨hready, hs⟩ := Option.ite_none_right_eq_some.mp hs
      cases hs
      rw [FeedEvent.task, hstep hready.1 _ (by simp)]
      exact ⟨_, rfl, h.beat hready.1 now⟩
  | poll now ready =>
      obtain ⟨hready, hs⟩ := Option.ite_none_right_eq_some.mp hs
      cases hs
      rw [FeedEvent.task, hstep hready.1 _ (by simp)]
      exact ⟨_, rfl, h.next hready.1 now ready⟩

/-- **So is a whole run**, from the moment the connection is handed over. -/
theorem run_simulates (config : ExchangeConnectionsConfig) {events : List FeedEvent}
    (h : Agrees channel s f) (hrun : Runs.run (Feed.step api) f events = some f') :
    ∃ s', Runs.run (Stream.step api config) s (events.map FeedEvent.task) = some s' ∧
      Agrees channel s' f' := by
  induction events generalizing s f with
  | nil =>
      cases hrun
      exact ⟨s, rfl, h⟩
  | cons ev events ih =>
      obtain ⟨f₁, hs, hrun⟩ := Runs.run_cons_some.mp hrun
      obtain ⟨s₁, hs₁, h₁⟩ := step_simulates config h hs
      obtain ⟨s', hrun', h'⟩ := ih h₁ hrun
      exact ⟨s', Runs.run_cons_some.mpr ⟨s₁, hs₁, hrun'⟩, h'⟩

theorem agrees_manage (s : Stream) (conn : Connection) (now : Nat) :
    Agrees s.channel (s.manage conn now) (start s.pair conn now) :=
  ⟨rfl, rfl, rfl⟩

theorem run_simulates_stalled :
    ∃ f s', Runs.run (Feed.step sampleApi) (start ⟨.binance, "WETH", "USDT"⟩
        (.newWithInitial ⟨.binance, "WETH", "USDT"⟩ 100.0 102.0) 0) stalledFeed = some f ∧
      Runs.run (Stream.step sampleApi noKeys) ((Stream.spawned ⟨.binance, "WETH", "USDT"⟩).manage
        (.newWithInitial ⟨.binance, "WETH", "USDT"⟩ 100.0 102.0) 0)
        (stalledFeed.map FeedEvent.task) = some s' ∧
      Agrees (Stream.spawned ⟨.binance, "WETH", "USDT"⟩).channel s' f := by
  obtain ⟨f, hf⟩ := Option.isSome_iff_exists.mp (show (Runs.run (Feed.step sampleApi)
    (start ⟨.binance, "WETH", "USDT"⟩ (.newWithInitial ⟨.binance, "WETH", "USDT"⟩ 100.0 102.0) 0)
    stalledFeed).isSome = true by decide +kernel)
  obtain ⟨s', hs', hagrees⟩ := run_simulates noKeys
    (agrees_manage (.spawned ⟨.binance, "WETH", "USDT"⟩) _ 0) hf
  exact ⟨f, s', hf, hs', hagrees⟩

end Feed

end RelayerExtensions.Prices
