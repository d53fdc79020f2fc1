import Mathlib.Data.List.AList
import RelayerExtensions.Prices.Exchanges
import RelayerExtensions.Prices.PriceStream

/-!
# The price stream manager

The tasks that keep a price up to date, one to a pair, and the map in which a client finds
the stream of a pair or starts one (`price-reporter/src/price_stream_manager.rs`, and the
main loop of `main.rs`).

A step is what happens while one lock is held, or between two points at which a task
waits; the steps of tasks, clients, refreshes of the token list and the main loop come in
any order. Delays are left out: a timer can fire at any time. So are logs and metrics, and
the release build's arithmetic is taken, in which the count for a log line does not panic.

The channel, the cancellation token and the task of a stream are made together and have
one number, the place in `streams`.
-/

namespace RelayerExtensions.Prices

open Watch

/-! ## Constants, in nanoseconds -/

def maxConnRetryWindow : Nat := 60_000 * 1_000_000

def maxHeartbeatAge : Nat := 120 * 1_000_000_000

def subscribeAckTimeoutSecs : Nat := 10

def subscribeAckTimeout : Nat := subscribeAckTimeoutSecs * 1_000_000_000

def maxConnRetries : Nat := 15

def unitPairPrice : Float := 1.0

/-! ## Pairs -/

section Pairs

variable {ν : Type} (api : Api ν)

def requiresQuoteConversion (pair : PairInfo) : Except ServerError Bool := do
  let isRenegade := pair.exchange = .renegade
  let canonicalExchange ← api.canonicalExchange pair.base
  let isCanonicalCoinbase := canonicalExchange = .coinbase
  let isCanonicalStableUsdc := api.defaultStable canonicalExchange = "USDC"
  return isRenegade ∧ ¬ isCanonicalCoinbase ∧ ¬ isCanonicalStableUsdc

/-- The price of USDC in the default stablecoin of the exchange. -/
def getConversionPair (pair : PairInfo) : Except ServerError PairInfo :=
  api.newDefaultStable pair.exchange "USDC"

def normalizePairInfo (pair : PairInfo) : Except ServerError (PairInfo × Bool) :=
  if pair.exchange ≠ .renegade then .ok (pair, false)
  else do
    let canonicalExchange ← api.canonicalExchange pair.base
    let newPairInfo ← api.newDefaultStable canonicalExchange pair.base
    let requiresConversion ← requiresQuoteConversion api pair
    return (newPairInfo, requiresConversion)

/-- What the exchange answers decides, except for a unit pair. -/
def isSupported (pair : PairInfo) (reply : Except ExchangeConnectionError Bool) :
    Except ServerError Bool :=
  if pair.isUnitPair then .ok true
  else match reply with
    | .ok supported => .ok supported
    | .error e => .error (.exchangeConnection e)

def validateSubscription (pair : PairInfo) (reply : Except ExchangeConnectionError Bool) :
    Except ServerError Unit :=
  if pair.exchange = .uniswapV3 then .error (.invalidPairInfo "UniswapV3 is not supported")
  else match isSupported pair reply with
    | .ok true => .ok ()
    | .ok false =>
        .error (.invalidPairInfo (api.exchangeName pair.exchange ++
          " does not support the pair (" ++ api.tokenName pair.base ++ ", " ++
          api.tokenName pair.quote ++ ")"))
    | .error e => .error e

end Pairs

/-! ## Tasks -/

/-- The variables of `manage_connection`. -/
structure Managing where
  conn : Connection
  lastPrice : Option Float
  lastExchangeUpdate : Nat
  receivedFirstTick : Bool

/-- `manage_connection` has been called. -/
def Managing.start (conn : Connection) (now : Nat) : Managing := ⟨conn, none, now, false⟩

/--
How far a task has come. The last flag of `closing` and `ended` is history: the token was
cancelled when the task came to remove its stream.
-/
inductive Phase where
  | unitPrice
  | connecting
  | retrying (prevErr : ServerError)
  | managing (m : Managing)
  /-- `price_stream_task` has returned. -/
  | exiting (res : Except ServerError Unit)
  /-- The stream has been removed. -/
  | closing (res : Except ServerError Unit) (cancelled : Bool)
  | ended (res : Except ServerError Unit) (cancelled : Bool)
  | panicked

structure Stream where
  pair : PairInfo
  channel : Chan Float
  cancelled : Bool
  retryTimestamps : List Nat
  phase : Phase

def Stream.spawned (pair : PairInfo) : Stream :=
  ⟨pair, .new 0.0, false, [], if pair.isUnitPair then .unitPrice else .connecting⟩

inductive TaskEvent (ν : Type) where
  | unitPrice
  | connect (now : Nat) (replies : Replies ν)
  | retry (now : Nat) (replies : Replies ν)
  | cancelled
  | keepalive (sent : Except String Unit)
  | ackDeadline
  | heartbeat (now : Nat)
  | poll (now : Nat) (ready : Option WsEvent)

namespace Stream

/-- `price_stream_task` returns, and its sender is dropped. -/
def exit (s : Stream) (res : Except ServerError Unit) : Stream :=
  { s with phase := .exiting res, channel := s.channel.close }

/-- `manage_connection` returns an error, and `exhaust_retries` is called with it. -/
def fail (s : Stream) (err : ExchangeConnectionError) : Stream :=
  { s with phase := .retrying (.exchangeConnection err) }

def panic (s : Stream) : Stream := { s with phase := .panicked, channel := s.channel.close }

def manage (s : Stream) (conn : Connection) (now : Nat) : Stream :=
  { s with phase := .managing (.start conn now) }

variable {ν : Type} (api : Api ν) (config : ExchangeConnectionsConfig)

def connectWithRetries (s : Stream) (now : Nat) (r : Replies ν) : Stream :=
  match connectExchange api config s.pair r with
  | .panicked => s.panic
  | .done (.ok conn) => s.manage conn now
  | .done (.error e) => s.fail e

/-- The retries of the last minute, with this one. -/
def retries (s : Stream) (now : Nat) : List Nat :=
  s.retryTimestamps.filter (fun ts => now - ts < maxConnRetryWindow) ++ [now]

def retryConnection (s : Stream) (now : Nat) (r : Replies ν) : Attempt :=
  if maxConnRetries ≤ (s.retries now).length then .done (.error (.maxRetries s.pair.exchange))
  else connectExchange api config s.pair r

/-- One round of the loop. -/
def exhaustRetries (s : Stream) (prevErr : ServerError) (now : Nat) (r : Replies ν) : Stream :=
  let s' := { s with retryTimestamps := s.retries now }
  match s.retryConnection api config now r with
  | .panicked => s'.panic
  | .done (.ok conn) => s'.manage conn now
  | .done (.error (.maxRetries _)) => s'.exit (.error prevErr)
  | .done (.error e) => s'.fail e

/-- The age of the last update decides between sending it again and giving up. -/
def heartbeat (s : Stream) (m : Managing) (now : Nat) : Stream :=
  match m.lastPrice with
  | none => s
  | some price =>
      let age := now - m.lastExchangeUpdate
      if age < maxHeartbeatAge then { s with channel := s.channel.send price }
      else s.fail (.connectionHangup ("No exchange data for " ++ api.durationText age))

/-- The next price, if there is one, is forwarded. -/
def forward (s : Stream) (m : Managing) (now : Nat) (ready : Option WsEvent) : Stream :=
  match m.conn.pollNext api ready with
  | (.pending, conn) => { s with phase := .managing { m with conn := conn } }
  | (.item (.ok price), conn) =>
      { s with
        channel := s.channel.send price
        phase := .managing ⟨conn, some price, now, true⟩ }
  | (.item (.error e), _) => s.fail e
  | (.ended, _) =>
      s.fail (.connectionHangup ("Price stream for " ++ toTopic api s.pair ++ " has closed"))

/-- A branch of the select in `manage_connection`. -/
def manageConnection (s : Stream) (m : Managing) : TaskEvent ν → Option Stream
  | .keepalive sent =>
      match sendKeepalive m.conn sent with
      | .ok () => some s
      | .error e => some (s.fail e)
  | .ackDeadline =>
      if m.receivedFirstTick then none
      else some (s.fail (.connectionHangup ("no price tick within " ++
        toString subscribeAckTimeoutSecs ++ "s of connect for " ++ toTopic api s.pair)))
  | .heartbeat now => some (s.heartbeat api m now)
  | .poll now ready => some (s.forward api m now ready)
  | _ => none

/-- One step of `price_stream_task`. -/
def step (s : Stream) (ev : TaskEvent ν) : Option Stream :=
  match s.phase with
  | .unitPrice =>
      match ev with
      | .unitPrice => some { s with channel := s.channel.send unitPairPrice }
      | _ => none
  | .connecting =>
      match ev with
      | .connect now r => some (s.connectWithRetries api config now r)
      | _ => none
  | .retrying prevErr =>
      match ev with
      | .retry now r => some (s.exhaustRetries api config prevErr now r)
      | _ => none
  | .managing m =>
      match ev with
      -- one branch of the outer select; the other one is below
      | .cancelled => if s.cancelled then some (s.exit (.ok ())) else none
      | _ => s.manageConnection api m ev
  | _ => none

variable {api config} {s s' : Stream}

/-- A task changes neither its pair nor its token. -/
structure Frame (s s' : Stream) : Prop where
  pair : s'.pair = s.pair
  cancelled : s'.cancelled = s.cancelled

/-- Only a retry changes anything besides the channel and the phase. -/
theorem connectWithRetries_eq (now : Nat) (r : Replies ν) :
    ∃ channel phase, s.connectWithRetries api config now r =
      { s with channel := channel, phase := phase } := by
  unfold connectWithRetries
  split <;> exact ⟨_, _, rfl⟩

theorem exhaustRetries_eq (prevErr : ServerError) (now : Nat) (r : Replies ν) :
    ∃ channel phase, s.exhaustRetries api config prevErr now r =
      { s with channel := channel, retryTimestamps := s.retries now, phase := phase } := by
  unfold exhaustRetries
  dsimp only
  split <;> exact ⟨_, _, rfl⟩

theorem heartbeat_eq (m : Managing) (now : Nat) :
    ∃ channel phase, s.heartbeat api m now = { s with channel := channel, phase := phase } := by
  unfold heartbeat
  split
  · exact ⟨_, _, rfl⟩
  · dsimp only
    split <;> exact ⟨_, _, rfl⟩

theorem forward_eq (m : Managing) (now : Nat) (ready : Option WsEvent) :
    ∃ channel phase, s.forward api m now ready =
      { s with channel := channel, phase := phase } := by
  unfold forward
  split <;> exact ⟨_, _, rfl⟩

theorem manageConnection_eq {m : Managing} {ev : TaskEvent ν}
    (h : s.manageConnection api m ev = some s') :
    ∃ channel phase, s' = { s with channel := channel, phase := phase } := by
  cases ev with
  | keepalive sent =>
      rw [manageConnection] at h
      split at h
      · cases h
        exact ⟨_, _, rfl⟩
      · cases h
        exact ⟨_, _, rfl⟩
  | ackDeadline =>
      rw [manageConnection] at h
      split at h
      · cases h
      · cases h
        exact ⟨_, _, rfl⟩
  | heartbeat now =>
      cases h
      exact heartbeat_eq m now
  | poll now ready =>
      cases h
      exact forward_eq m now ready
  | unitPrice | connect now r | retry now r | cancelled => cases h

/-- What a task can do, phase by phase. -/
inductive Step (api : Api ν) (config : ExchangeConnectionsConfig) (s : Stream) :
    TaskEvent ν → Stream → Prop where
  | unitPrice (hp : s.phase = .unitPrice) :
      Step api config s .unitPrice { s with channel := s.channel.send unitPairPrice }
  | connect {now : Nat} {r : Replies ν} (hp : s.phase = .connecting) :
      Step api config s (.connect now r) (s.connectWithRetries api config now r)
  | retry {prevErr : ServerError} {now : Nat} {r : Replies ν} (hp : s.phase = .retrying prevErr) :
      Step api config s (.retry now r) (s.exhaustRetries api config prevErr now r)
  | cancelled {m : Managing} (hp : s.phase = .managing m) (hc : s.cancelled = true) :
      Step api config s .cancelled (s.exit (.ok ()))
  | manage {m : Managing} {ev : TaskEvent ν} {s' : Stream} (hp : s.phase = .managing m)
      (h : s.manageConnection api m ev = some s') : Step api config s ev s'

theorem step_cases {ev : TaskEvent ν} (h : s.step api config ev = some s') :
    Step api config s ev s' := by
  unfold step at h
  split at h
  · next hp =>
      split at h
      · cases h
        exact .unitPrice hp
      · cases h
  · next hp =>
      split at h
      · cases h
        exact .connect hp
      · cases h
  · next prevErr hp =>
      split at h
      · cases h
        exact .retry hp
      · cases h
  · next m hp =>
      split at h
      · split at h
        · next hc =>
            cases h
            exact .cancelled hp hc
        · cases h
      · exact .manage hp h
  · cases h

theorem step_frame {ev : TaskEvent ν} (h : s.step api config ev = some s') : s.Frame s' := by
  cases step_cases h with
  | unitPrice hp | cancelled hp hc => exact ⟨rfl, rfl⟩
  | @connect now r hp =>
      obtain ⟨_, _, heq⟩ := connectWithRetries_eq now r
      rw [heq]
      exact ⟨rfl, rfl⟩
  | @retry prevErr now r hp =>
      obtain ⟨_, _, heq⟩ := exhaustRetries_eq prevErr now r
      rw [heq]
      exact ⟨rfl, rfl⟩
  | manage hp h =>
      obtain ⟨_, _, rfl⟩ := manageConnection_eq h
      exact ⟨rfl, rfl⟩

end Stream

/-! ## The map, its clients and the main loop -/

/-- A receiver and a cancellation token. -/
structure Entry where
  receiver : Nat
  cancelToken : Nat
deriving DecidableEq

/-- How far `get_or_create_price_receiver` has come. -/
inductive Fetch where
  | lookUp
  | validate
  | add
deriving DecidableEq

inductive Goal where
  /-- `get_current_price` -/
  | currentPrice
  /-- `get_or_create_price_stream` -/
  | priceStream
deriving DecidableEq

/-- How far a call has come; a price that was read is kept with its channel. -/
inductive CallPhase where
  | fetchPrice (fetch : Fetch)
  | readPrice (rx : Nat)
  | fetchConversion (rx : Nat) (price : Option Float) (fetch : Fetch)
  | readConversion (rx : Nat) (price : Option Float) (conversionRx : Nat)
  | done

structure Call where
  goal : Goal
  pair : PairInfo
  /-- The conversion pair, if one is needed. -/
  conversion : Option (Except ServerError PairInfo)
  phase : CallPhase

/-- A client's stream, and the channels it reads. -/
structure Subscription where
  rx : Nat
  conversionRx : Option Nat
  stream : PriceStream

/-- A price given to a client, and the channels it was read from. -/
structure Served where
  rx : Nat
  conversionRx : Option Nat
  price : Float
deriving DecidableEq

/-- The map of streams, all the streams there ever were, and the closure channel. -/
structure GlobalPriceStreams where
  priceStreams : AList fun _ : PairInfo => Entry
  streams : List Stream
  /-- The results of tasks, with the streams they are from. -/
  closures : List (Nat × Except ServerError Unit)

structure Reporter where
  global : GlobalPriceStreams
  calls : List Call
  subscriptions : List Subscription
  /-- What `cancel_removed_streams` has listed and not yet cancelled. -/
  refreshes : List (List PairInfo)
  /-- The stream whose error ended the main loop. -/
  shutDownBy : Option Nat
  /-- History: the bids and offers that streams have read. -/
  reported : List (Nat × Float × Float)
  /-- History: the prices that clients have got. -/
  served : List Served

inductive Event (ν : Type) where
  | call (goal : Goal) (pair : PairInfo)
  | advance (call : Nat) (reply : Except ExchangeConnectionError Bool)
  | poll (subscription : Nat)
  | listRemoved (desired : List PairInfo)
  | cancelRemoved (refresh : Nat)
  | task (stream : Nat) (ev : TaskEvent ν)
  | remove (stream : Nat)
  | close (stream : Nat)
  | receiveClosure

namespace GlobalPriceStreams

def new : GlobalPriceStreams := ⟨∅, [], []⟩

def setStream (g : GlobalPriceStreams) (i : Nat) (s : Stream) : GlobalPriceStreams :=
  { g with streams := g.streams.set i s }

def cancel (g : GlobalPriceStreams) (token : Nat) : GlobalPriceStreams :=
  { g with streams := g.streams.modify token fun s => { s with cancelled := true } }

/-- An entry and a task for a pair that has none. -/
def spawn (g : GlobalPriceStreams) (pair : PairInfo) : GlobalPriceStreams :=
  { g with
    priceStreams := g.priceStreams.insert pair ⟨g.streams.length, g.streams.length⟩
    streams := g.streams ++ [.spawned pair] }

/--
`maybe_add_price_stream`, and the rest of `init_price_stream`, which spawns the task without
waiting in between. Returns the receiver.
-/
def addPriceStream (g : GlobalPriceStreams) (pair : PairInfo) : Nat × GlobalPriceStreams :=
  match g.priceStreams.lookup pair with
  | some entry => (entry.receiver, g)
  | none => (g.streams.length, g.spawn pair)

def removePriceStream (g : GlobalPriceStreams) (pair : PairInfo) : GlobalPriceStreams :=
  match g.priceStreams.lookup pair with
  | none => g
  | some entry =>
      { g with priceStreams := g.priceStreams.erase pair }.cancel entry.cancelToken

/-- The second half of `cancel_removed_streams`. -/
def cancelRemoved (g : GlobalPriceStreams) (toCancel : List PairInfo) : GlobalPriceStreams :=
  toCancel.foldl removePriceStream g

/-- A task removes the stream of its pair. -/
def remove (g : GlobalPriceStreams) (i : Nat) : Option GlobalPriceStreams := do
  let s ← g.streams[i]?
  match s.phase with
  | .exiting res =>
      let g' := g.removePriceStream s.pair
      let s' ← g'.streams[i]?
      some (g'.setStream i { s' with phase := .closing res s.cancelled })
  | _ => none

/-- A task sends its result, and is over. -/
def close (g : GlobalPriceStreams) (i : Nat) : Option GlobalPriceStreams := do
  let s ← g.streams[i]?
  match s.phase with
  | .closing res cancelled =>
      some { g.setStream i { s with phase := .ended res cancelled } with
        closures := g.closures ++ [(i, res)] }
  | _ => none

end GlobalPriceStreams

namespace Reporter

def init : Reporter := ⟨.new, [], [], [], none, [], []⟩

def setCall (w : Reporter) (i : Nat) (c : Call) : Reporter := { w with calls := w.calls.set i c }

section Calls

variable {ν : Type} (api : Api ν)

inductive Fetched where
  | more (fetch : Fetch)
  | failed
  | receiver (rx : Nat)

/-- A step of `get_or_create_price_receiver`. -/
def fetchStep (g : GlobalPriceStreams) (pair : PairInfo)
    (reply : Except ExchangeConnectionError Bool) : Fetch → Fetched × GlobalPriceStreams
  | .lookUp =>
      match g.priceStreams.lookup pair with
      | some entry => (.receiver entry.receiver, g)
      | none => (.more .validate, g)
  | .validate =>
      match validateSubscription api pair reply with
      | .ok () => (.more .add, g)
      | .error _ => (.failed, g)
  | .add => (.receiver (g.addPriceStream pair).1, (g.addPriceStream pair).2)

/-- The call returns: a price, or a stream, of one channel or two. -/
def deliver (w : Reporter) (rx : Nat) (conversionRx : Option Nat) :
    Option (Except ServerError Float) → Reporter
  | some (.ok price) => { w with served := w.served ++ [⟨rx, conversionRx, price⟩] }
  | some (.error _) => w
  | none =>
      let stream := match conversionRx with
        | none => PriceStream.new
        | some _ => PriceStream.newWithConversion
      { w with subscriptions := w.subscriptions ++ [⟨rx, conversionRx, stream⟩] }

/-- A price is only read for `get_current_price`. -/
def priceRead : Goal → Chan Float → Option Float
  | .currentPrice, channel => some channel.value
  | .priceStream, _ => none

/-- `get_current_price` and `get_or_create_price_stream`, once the price's receiver is there. -/
def readPrice (w : Reporter) (i : Nat) (c : Call) (rx : Nat) (channel : Chan Float) : Reporter :=
  let price := priceRead c.goal channel
  if price.any isZero then w.setCall i { c with phase := .done }
  else match c.conversion with
    | none =>
        (w.deliver rx none (price.map fun p => currentPrice p none)).setCall i
          { c with phase := .done }
    | some (.error _) => w.setCall i { c with phase := .done }
    | some (.ok _) => w.setCall i { c with phase := .fetchConversion rx price .lookUp }

/-- The same, once the conversion's receiver is there, too. -/
def readConversion (w : Reporter) (i : Nat) (c : Call) (rx : Nat) (price : Option Float)
    (conversionRx : Nat) (channel : Chan Float) : Reporter :=
  (w.deliver rx (some conversionRx)
    (price.map fun p => currentPrice p (some channel.value))).setCall i { c with phase := .done }

def advance (w : Reporter) (i : Nat) (c : Call) (reply : Except ExchangeConnectionError Bool) :
    Option Reporter :=
  match c.phase with
  | .fetchPrice fetch =>
      let (fetched, global) := fetchStep api w.global c.pair reply fetch
      let w' := { w with global := global }
      match fetched with
      | .more fetch' => some (w'.setCall i { c with phase := .fetchPrice fetch' })
      | .failed => some (w'.setCall i { c with phase := .done })
      | .receiver rx => some (w'.setCall i { c with phase := .readPrice rx })
  | .readPrice rx => do
      let s ← w.global.streams[rx]?
      return w.readPrice i c rx s.channel
  | .fetchConversion rx price fetch =>
      match c.conversion with
      | some (.ok conversionPair) =>
          let (fetched, global) := fetchStep api w.global conversionPair reply fetch
          let w' := { w with global := global }
          match fetched with
          | .more fetch' =>
              some (w'.setCall i { c with phase := .fetchConversion rx price fetch' })
          | .failed => some (w'.setCall i { c with phase := .done })
          | .receiver conversionRx =>
              some (w'.setCall i { c with phase := .readConversion rx price conversionRx })
      | _ => none
  | .readConversion rx price conversionRx => do
      let s ← w.global.streams[conversionRx]?
      return w.readConversion i c rx price conversionRx s.channel
  | .done => none

def pollSubscription (w : Reporter) (watch : Reader Float) (k : Nat) : Option Reporter := do
  let sub ← w.subscriptions[k]?
  let s ← w.global.streams[sub.rx]?
  -- without a second channel the first one stands in, which is then not read
  let conversion ← w.global.streams[sub.conversionRx.getD sub.rx]?
  let (polled, stream) := sub.stream.pollNext watch s.channel conversion.channel
  let w' := { w with subscriptions := w.subscriptions.set k { sub with stream := stream } }
  match polled with
  | .item price => some { w' with served := w'.served ++ [⟨sub.rx, sub.conversionRx, price⟩] }
  | _ => some w'

end Calls

section Steps

variable {ν : Type} (api : Api ν) (config : ExchangeConnectionsConfig)

/-- What a task reads in a step. -/
def reads (s : Stream) (ev : TaskEvent ν) : Option (Float × Float) :=
  match s.phase, ev with
  | .managing m, .poll _ ready => m.conn.sides api ready
  | _, _ => none

def taskStep (w : Reporter) (i : Nat) (ev : TaskEvent ν) : Option Reporter := do
  let s ← w.global.streams[i]?
  let s' ← s.step api config ev
  return { w with
    global := w.global.setStream i s'
    reported := w.reported ++ ((reads api s ev).map (i, ·)).toList }

/-- The main loop ends at the first error. -/
def receiveClosure (w : Reporter) : Option Reporter :=
  match w.global.closures with
  | [] => none
  | (i, res) :: closures =>
      let w' := { w with global := { w.global with closures := closures } }
      match res with
      | .ok () => some w'
      | .error _ => some { w' with shutDownBy := some i }

def step (w : Reporter) (e : Event ν) : Option Reporter :=
  if w.shutDownBy.isSome then none
  else match e with
    | .call goal pair =>
        match normalizePairInfo api pair with
        | .error _ => some w
        | .ok (normalized, requiresConversion) =>
            let conversion :=
              if requiresConversion then some (getConversionPair api normalized) else none
            some { w with
              calls := w.calls ++ [⟨goal, normalized, conversion, .fetchPrice .lookUp⟩] }
    | .advance i reply => do
        let c ← w.calls[i]?
        w.advance api i c reply
    | .poll k => w.pollSubscription api.watch k
    | .listRemoved desired =>
        let toCancel := w.global.priceStreams.keys.filter fun k => !(k ∈ desired)
        some { w with refreshes := w.refreshes ++ [toCancel] }
    | .cancelRemoved k => do
        let toCancel ← w.refreshes[k]?
        return { w with
          global := w.global.cancelRemoved toCancel
          refreshes := w.refreshes.set k [] }
    | .task i ev => w.taskStep api config i ev
    | .remove i => do
        let global ← w.global.remove i
        return { w with global := global }
    | .close i => do
        let global ← w.global.close i
        return { w with global := global }
    | .receiveClosure => w.receiveClosure

end Steps

end Reporter

/-! ## What a step can do -/

/-- The receiver a call is about to get. -/
def Call.fetching (c : Call) : Option (PairInfo × Fetch) :=
  match c.phase with
  | .fetchPrice fetch => some (c.pair, fetch)
  | .fetchConversion _ _ fetch =>
      match c.conversion with
      | some (.ok conversionPair) => some (conversionPair, fetch)
      | _ => none
  | _ => none

/-- The price a call has read, and the channel it was read from. -/
def Call.held (c : Call) : Option (Nat × Float) :=
  match c.phase with
  | .fetchConversion rx price _ => price.map (rx, ·)
  | .readConversion rx price _ => price.map (rx, ·)
  | _ => none

namespace Reporter

variable {ν : Type} {api : Api ν} {config : ExchangeConnectionsConfig} {w w' : Reporter}
  {reply : Except ExchangeConnectionError Bool}

/-- A call looks for a receiver, reads a price or reads a conversion rate. -/
inductive Advance (api : Api ν) (w : Reporter) (i : Nat) (c : Call)
    (reply : Except ExchangeConnectionError Bool) : Reporter → Prop where
  | fetch {pair : PairInfo} {fetch : Fetch} {c' : Call} (hf : c.fetching = some (pair, fetch))
      (hheld : c'.held = none ∨ c'.held = c.held) :
      Advance api w i c reply
        ({ w with global := (fetchStep api w.global pair reply fetch).2 }.setCall i c')
  | price {rx : Nat} {s : Stream} (hc : c.phase = .readPrice rx)
      (hs : w.global.streams[rx]? = some s) :
      Advance api w i c reply (w.readPrice i c rx s.channel)
  | conversion {rx : Nat} {price : Option Float} {conversionRx : Nat} {s : Stream}
      (hc : c.phase = .readConversion rx price conversionRx)
      (hs : w.global.streams[conversionRx]? = some s) :
      Advance api w i c reply (w.readConversion i c rx price conversionRx s.channel)

theorem advance_cases {i : Nat} {c : Call}
    (h : w.advance api i c reply = some w') : Advance api w i c reply w' := by
  unfold advance at h
  split at h
  · next fetch hc =>
      have hf : c.fetching = some (c.pair, fetch) := by rw [Call.fetching, hc]
      dsimp only at h
      split at h
      · cases h
        exact .fetch hf (.inl rfl)
      · cases h
        exact .fetch hf (.inl rfl)
      · cases h
        exact .fetch hf (.inl rfl)
  · next rx hc =>
      obtain ⟨s, hs, hr⟩ := Option.bind_eq_some_iff.mp h
      cases hr
      exact .price hc hs
  · next rx price fetch hc =>
      split at h
      · next conversionPair hconv =>
          have hf : c.fetching = some (conversionPair, fetch) := by
            rw [Call.fetching, hc]
            dsimp only
            rw [hconv]
          have hheld : price.map (rx, ·) = c.held := by rw [Call.held, hc]
          dsimp only at h
          split at h
          · cases h
            exact .fetch hf (.inr hheld)
          · cases h
            exact .fetch hf (.inl rfl)
          · cases h
            exact .fetch hf (.inr hheld)
      · cases h
  · next rx price conversionRx hc =>
      obtain ⟨s, hs, hr⟩ := Option.bind_eq_some_iff.mp h
      cases hr
      exact .conversion hc hs
  · cases h

/-- Only the last stage of a search for a receiver can change the map. -/
theorem fetchStep_global {g : GlobalPriceStreams} {pair : PairInfo} {fetch : Fetch} :
    (fetchStep api g pair reply fetch).2 = g ∨
      fetch = .add ∧ g.priceStreams.lookup pair = none ∧
        (fetchStep api g pair reply fetch).2 = g.spawn pair := by
  cases fetch with
  | lookUp =>
      unfold fetchStep
      cases g.priceStreams.lookup pair <;> exact .inl rfl
  | validate =>
      unfold fetchStep
      cases validateSubscription api pair reply <;> exact .inl rfl
  | add =>
      unfold fetchStep GlobalPriceStreams.addPriceStream
      cases g.priceStreams.lookup pair with
      | some entry => exact .inl rfl
      | none => exact .inr ⟨rfl, rfl, rfl⟩

/-- What a client's call leaves alone, unless it starts a stream. -/
structure Frame (w w' : Reporter) : Prop where
  global : w'.global = w.global
  reported : w'.reported = w.reported
  shutDownBy : w'.shutDownBy = w.shutDownBy

theorem frame_deliver (w : Reporter) (i : Nat) (c : Call) (rx : Nat) (conversionRx : Option Nat)
    (price : Option (Except ServerError Float)) :
    Frame w ((w.deliver rx conversionRx price).setCall i c) := by
  rcases price with _ | (_ | _) <;> exact ⟨rfl, rfl, rfl⟩

theorem frame_readPrice (w : Reporter) (i : Nat) (c : Call) (rx : Nat) (channel : Chan Float) :
    Frame w (w.readPrice i c rx channel) := by
  unfold readPrice
  dsimp only
  split
  · exact ⟨rfl, rfl, rfl⟩
  · split
    · exact frame_deliver w i _ rx none _
    · exact ⟨rfl, rfl, rfl⟩
    · exact ⟨rfl, rfl, rfl⟩

/-- The pair for which an event starts a stream. -/
def creates (w : Reporter) : Event ν → Option PairInfo
  | .advance i _ =>
      match w.calls[i]?.bind Call.fetching with
      | some (pair, .add) => if w.global.priceStreams.lookup pair = none then some pair else none
      | _ => none
  | _ => none

/-- The stream whose task takes a step. -/
def acts : Event ν → Option Nat
  | .task i _ => some i
  | .remove i => some i
  | .close i => some i
  | _ => none

/-- What an event can do to the streams. -/
inductive Change (api : Api ν) (config : ExchangeConnectionsConfig) (w : Reporter) (e : Event ν)
    (w' : Reporter) : Prop where
  | same (ha : acts e = none) (hf : Frame w w')
  | spawned {pair : PairInfo} (ha : acts e = none) (hc : w.creates e = some pair)
      (hnew : w.global.priceStreams.lookup pair = none)
      (hg : w'.global = w.global.spawn pair) (hr : w'.reported = w.reported)
      (hd : w'.shutDownBy = w.shutDownBy)
  | cancelled {k : Nat} {toCancel : List PairInfo} (he : e = .cancelRemoved k)
      (hl : w.refreshes[k]? = some toCancel)
      (hg : w'.global = w.global.cancelRemoved toCancel) (hr : w'.reported = w.reported)
      (hd : w'.shutDownBy = w.shutDownBy)
  | stepped {i : Nat} {ev : TaskEvent ν} {s s' : Stream} (he : e = .task i ev)
      (hs : w.global.streams[i]? = some s) (hs' : s.step api config ev = some s')
      (hg : w'.global = w.global.setStream i s')
      (hr : w'.reported = w.reported ++ ((reads api s ev).map (i, ·)).toList)
      (hd : w'.shutDownBy = w.shutDownBy)
  | removed {i : Nat} (he : e = .remove i) (hg : w.global.remove i = some w'.global)
      (hr : w'.reported = w.reported) (hd : w'.shutDownBy = w.shutDownBy)
  | closed {i : Nat} (he : e = .close i) (hg : w.global.close i = some w'.global)
      (hr : w'.reported = w.reported) (hd : w'.shutDownBy = w.shutDownBy)
  | received {i : Nat} {res : Except ServerError Unit}
      {closures : List (Nat × Except ServerError Unit)} (ha : acts e = none)
      (hc : w.global.closures = (i, res) :: closures)
      (hg : w'.global = { w.global with closures := closures }) (hr : w'.reported = w.reported)
      (hd : w'.shutDownBy = w.shutDownBy ∨ w'.shutDownBy = some i ∧ ∃ err, res = .error err)

theorem advance_change {i : Nat} {c : Call} (hc : w.calls[i]? = some c)
    (h : w.advance api i c reply = some w') :
    Change api config w (.advance i reply) w' := by
  cases advance_cases h with
  | @fetch pair fetch c' hf hheld =>
      rcases @fetchStep_global ν api reply w.global pair fetch with hg | ⟨rfl, hnew, hg⟩
      · exact .same rfl ⟨hg, rfl, rfl⟩
      · refine .spawned rfl ?_ hnew hg rfl rfl
        rw [creates, hc, Option.bind_some, hf]
        exact if_pos hnew
  | price hc hs => exact .same rfl (frame_readPrice _ _ _ _ _)
  | conversion hc hs => exact .same rfl (frame_deliver _ _ _ _ _ _)

theorem frame_pollSubscription {watch : Reader Float} {k : Nat}
    (h : w.pollSubscription watch k = some w') : Frame w w' := by
  unfold pollSubscription at h
  obtain ⟨sub, -, h⟩ := Option.bind_eq_some_iff.mp h
  obtain ⟨s, -, h⟩ := Option.bind_eq_some_iff.mp h
  obtain ⟨conversion, -, h⟩ := Option.bind_eq_some_iff.mp h
  dsimp only at h
  split at h
  · cases h
    exact ⟨rfl, rfl, rfl⟩
  · cases h
    exact ⟨rfl, rfl, rfl⟩

theorem step_change {e : Event ν} (h : w.step api config e = some w') :
    Change api config w e w' := by
  unfold step at h
  split at h
  · cases h
  · cases e with
    | call goal pair =>
        dsimp only at h
        split at h
        · cases h
          exact .same rfl ⟨rfl, rfl, rfl⟩
        · cases h
          exact .same rfl ⟨rfl, rfl, rfl⟩
    | advance i reply =>
        obtain ⟨c, hc, h⟩ := Option.bind_eq_some_iff.mp h
        exact advance_change hc h
    | poll k => exact .same rfl (frame_pollSubscription h)
    | listRemoved desired =>
        cases h
        exact .same rfl ⟨rfl, rfl, rfl⟩
    | cancelRemoved k =>
        obtain ⟨l, hl, h⟩ := Option.bind_eq_some_iff.mp h
        cases h
        exact .cancelled rfl hl rfl rfl rfl
    | task i ev =>
        obtain ⟨s, hs, h⟩ := Option.bind_eq_some_iff.mp h
        obtain ⟨s', hs', h⟩ := Option.bind_eq_some_iff.mp h
        cases h
        exact .stepped rfl hs hs' rfl rfl rfl
    | remove i =>
        obtain ⟨g, hg, h⟩ := Option.bind_eq_some_iff.mp h
        cases h
        exact .removed rfl hg rfl rfl
    | close i =>
        obtain ⟨g, hg, h⟩ := Option.bind_eq_some_iff.mp h
        cases h
        exact .closed rfl hg rfl rfl
    | receiveClosure =>
        dsimp only at h
        unfold receiveClosure at h
        split at h
        · cases h
        · next i res closures hc =>
            dsimp only at h
            split at h
            · cases h
              exact .received rfl hc rfl rfl (.inl rfl)
            · next err =>
                cases h
                exact .received rfl hc rfl rfl (.inr ⟨rfl, err, rfl⟩)

end Reporter

/-! ### Removals -/

namespace GlobalPriceStreams

variable {g g' : GlobalPriceStreams} {pair : PairInfo}

theorem streams_cancel (g : GlobalPriceStreams) (token i : Nat) :
    (g.cancel token).streams[i]? =
      g.streams[i]?.map fun s => { s with cancelled := s.cancelled || decide (token = i) } := by
  unfold cancel
  dsimp only
  rw [List.getElem?_modify]
  cases g.streams[i]? with
  | none => rfl
  | some s =>
      show some (if token = i then { s with cancelled := true } else s) =
        some { s with cancelled := s.cancelled || decide (token = i) }
      by_cases h : token = i
      · rw [if_pos h, decide_eq_true h, Bool.or_true]
      · rw [if_neg h, decide_eq_false h, Bool.or_false]

/-- A removal erases the entry of the pair and cancels what its token is of. -/
theorem removePriceStream_some {entry : Entry} (h : g.priceStreams.lookup pair = some entry) :
    g.removePriceStream pair =
      { g with priceStreams := g.priceStreams.erase pair }.cancel entry.cancelToken := by
  rw [removePriceStream, h]

theorem removePriceStream_none (h : g.priceStreams.lookup pair = none) :
    g.removePriceStream pair = g := by
  rw [removePriceStream, h]

/-- A removal leaves a stream as it is, but for the token. -/
theorem streams_removePriceStream (g : GlobalPriceStreams) (pair : PairInfo) (i : Nat) :
    (g.removePriceStream pair).streams[i]? = g.streams[i]?.map fun s =>
      { s with cancelled := s.cancelled ||
        (g.priceStreams.lookup pair).any fun entry => entry.cancelToken = i } := by
  cases h : g.priceStreams.lookup pair with
  | none =>
      rw [removePriceStream_none h]
      cases g.streams[i]? with
      | none => rfl
      | some s =>
          rw [Option.any_none, Option.map_some, Bool.or_false]
  | some entry =>
      rw [removePriceStream_some h, streams_cancel]
      rfl

/-- So do several. -/
theorem streams_cancelRemoved (g : GlobalPriceStreams) (toCancel : List PairInfo) (i : Nat) :
    ∃ c : Bool, (g.cancelRemoved toCancel).streams[i]? =
      g.streams[i]?.map fun s => { s with cancelled := s.cancelled || c } := by
  induction toCancel generalizing g with
  | nil =>
      refine ⟨false, ?_⟩
      cases h : g.streams[i]? with
      | none => exact h
      | some s =>
          rw [Option.map_some, Bool.or_false]
          exact h
  | cons pair toCancel ih =>
      obtain ⟨c, hc⟩ := ih (g.removePriceStream pair)
      refine ⟨((g.priceStreams.lookup pair).any fun entry => entry.cancelToken = i) || c, ?_⟩
      have hfold : g.cancelRemoved (pair :: toCancel) =
        (g.removePriceStream pair).cancelRemoved toCancel := rfl
      rw [hfold, hc, streams_removePriceStream, Option.map_map]
      congr 1
      funext s
      show ({ s with cancelled := (s.cancelled || _) || c } : Stream) = _
      rw [Bool.or_assoc]

/-- A task that removes its stream was about to, and is about to send its result. -/
theorem remove_eq_some {i : Nat} (h : g.remove i = some g') :
    ∃ s s' res, g.streams[i]? = some s ∧ s.phase = .exiting res ∧
      (g.removePriceStream s.pair).streams[i]? = some s' ∧
      g' = (g.removePriceStream s.pair).setStream i
        { s' with phase := .closing res s.cancelled } := by
  unfold remove at h
  obtain ⟨s, hs, h⟩ := Option.bind_eq_some_iff.mp h
  dsimp only at h
  split at h
  · next res hphase =>
      obtain ⟨s', hs', h⟩ := Option.bind_eq_some_iff.mp h
      exact ⟨s, s', res, hs, hphase, hs', (Option.some.inj h).symm⟩
  · cases h

theorem close_eq_some {i : Nat} (h : g.close i = some g') :
    ∃ s res cancelled, g.streams[i]? = some s ∧ s.phase = .closing res cancelled ∧
      g'.priceStreams = g.priceStreams ∧ g'.closures = g.closures ++ [(i, res)] ∧
      g'.streams = (g.setStream i { s with phase := .ended res cancelled }).streams := by
  unfold close at h
  obtain ⟨s, hs, h⟩ := Option.bind_eq_some_iff.mp h
  dsimp only at h
  split at h
  · next res cancelled hphase =>
      cases h
      exact ⟨s, res, cancelled, hs, hphase, rfl, rfl, rfl⟩
  · cases h

theorem streams_setStream {i : Nat} {s : Stream} (hs : g.streams[i]? = some s) (s' : Stream)
    (j : Nat) : (g.setStream i s').streams[j]? = if i = j then some s' else g.streams[j]? := by
  have hlt : i < g.streams.length := (List.getElem?_eq_some_iff.mp hs).1
  show (g.streams.set i s')[j]? = _
  rw [List.getElem?_set]
  by_cases hij : i = j
  · subst hij
    rw [if_pos rfl, if_pos rfl, if_pos hlt]
  · rw [if_neg hij, if_neg hij]

theorem streams_spawn {j : Nat} {s : Stream} (h : (g.spawn pair).streams[j]? = some s) :
    g.streams[j]? = some s ∨ j = g.streams.length ∧ s = .spawned pair := by
  change (g.streams ++ [Stream.spawned pair])[j]? = some s at h
  rw [List.getElem?_append] at h
  split at h
  · exact .inl h
  · next hge =>
      have hlt : j - g.streams.length < 1 := by
        by_contra hne
        rw [List.getElem?_eq_none (by simpa using Nat.le_of_not_lt hne)] at h
        cases h
      have hj : j - g.streams.length = 0 := by omega
      rw [hj] at h
      exact .inr ⟨by omega, (Option.some.inj h).symm⟩

theorem streams_spawn_old {j : Nat} {s : Stream} (h : g.streams[j]? = some s) :
    (g.spawn pair).streams[j]? = some s := by
  show (g.streams ++ [Stream.spawned pair])[j]? = some s
  rw [List.getElem?_append_left (List.getElem?_eq_some_iff.mp h).1]
  exact h

end GlobalPriceStreams

abbrev sampleRun : List (Event Unit) → Option Reporter :=
  Runs.run (Reporter.step sampleApi noKeys) .init

end RelayerExtensions.Prices
