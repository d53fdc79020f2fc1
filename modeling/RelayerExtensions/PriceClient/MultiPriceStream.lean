import RelayerExtensions.Lib.Runs

/-!
# The price stream of a client

A client of the price reporter holds a stream of prices. A background task connects to the
reporter's websocket, reads prices into a shared map, and connects again when a connection has
ended; every clone of the stream reads the map, and a flag that says whether there is a
connection (`price-reporter-client/src/price_stream.rs`, and `get_price` of `lib.rs`).

If the stream was made to exit when it is stale, each price also starts a timer anew, a task of
its own that ends the process. The handle of the last timer is part of the shared state. A
handle that is dropped leaves its task alone.

A step is what a task does between two points at which it waits, a call of a method, or a lapse
of time. Time does not pass a timer that is armed: it fires first.
-/

namespace RelayerExtensions.PriceClient

inductive PriceReporterClientError where
  | setup (msg : String)
  | parsing (msg : String)
  | conversion (msg : String)
  | http (msg : String)
  | webSocket (msg : String)
  | streamMissing (mint : String)
  | custom (msg : String)
deriving DecidableEq

/-! ## Constants, in milliseconds -/

def connRetryDelayMs : Nat := 2_000

def stalenessTimeoutMs : Nat := 60_000

/-! ## Topics and messages -/

def errInvalidTopic : String := "Invalid topic format"

/-- The second of the parts between dashes. -/
def getBaseMintFromTopic (topic : String) : Except PriceReporterClientError String :=
  match (topic.toList.splitOn '-')[1]? with
  | some baseMint => .ok (String.ofList baseMint)
  | none => .error (.parsing errInvalidTopic)

structure PriceMessage where
  topic : String
  price : Float

inductive Message where
  | text (text : String)
  | close
  | other

/-- What the websocket has next; `ended` if there is nothing more. -/
inductive Read where
  | ended
  | failed (msg : String)
  | message (m : Message)

/-- The connection is gone. -/
def Read.isGone : Read → Bool
  | .ended => true
  | .failed _ => true
  | .message .close => true
  | .message _ => false

/-- Library functions: JSON, and the token map. -/
structure ClientLib where
  fromStr : String → Option PriceMessage
  toLowercase : String → String
  getTicker : String → Nat → Option String

/-- Every text is a price of one token, and no mint has a ticker. -/
def quoteLib : ClientLib := ⟨fun _ => some ⟨"renegade-0xa", 3000.0⟩, id, fun _ _ => none⟩

/-! ## The stream -/

structure MultiPriceStreamState where
  prices : String → Option Float
  isConnected : Bool
  exitOnStale : Bool
  /-- The number of a timer. -/
  stalenessTimer : Option Nat

def MultiPriceStreamState.new (exitOnStale : Bool) : MultiPriceStreamState :=
  ⟨fun _ => none, false, exitOnStale, none⟩

def MultiPriceStreamState.setConnected (s : MultiPriceStreamState) (connected : Bool) :
    MultiPriceStreamState :=
  { s with isConnected := connected }

/-- A timer that has been started and neither aborted nor fired. -/
structure Timer where
  id : Nat
  deadline : Nat
deriving DecidableEq

/-- Where the background task waits. -/
inductive Phase where
  /-- At the top of the loop. -/
  | looping
  | connecting
  /-- In `handle_price_updates`. -/
  | reading
  /-- In `update_price`, for the lock of the prices. -/
  | storing (mint : String) (price : Float)
  /-- In `restart_staleness_timer`, for the lock of the timer. -/
  | restarting
  /-- In `stream_prices`, for the close frame to be sent; the connection may be gone. -/
  | closing (gone : Bool)
  /-- Before the next round. -/
  | sleeping (deadline : Nat)
  | ended
  | aborted

/-- The task holds a connection that is open, as far as it knows. -/
def Phase.isOpen : Phase → Bool
  | .reading => true
  | .storing _ _ => true
  | .restarting => true
  | .closing gone => !gone
  | _ => false

structure MultiPriceStream where
  inner : MultiPriceStreamState
  phase : Phase
  /-- The cancellation token. -/
  cancelled : Bool
  clones : Nat
  timers : List Timer
  nextTimer : Nat
  clock : Nat
  exited : Bool
  /-- History: when the stream was made. -/
  start : Nat
  /-- History: the instants of price updates, the last one first. -/
  updates : List Nat

/-- What wakes the background task up. -/
inductive TaskEvent where
  | loop
  | connected (res : Except PriceReporterClientError Unit)
  | cancelled
  | read (r : Read)
  | store
  | restart
  | closed
  | slept

inductive Event where
  | task (e : TaskEvent)
  | shutdown
  | clone
  | drop
  /-- The abort of the background task takes effect. -/
  | abort
  | advance (now : Nat)
  | fire (id : Nat)

namespace MultiPriceStream

def new (exitOnStale : Bool) (now : Nat) : MultiPriceStream where
  inner := .new exitOnStale
  phase := .looping
  cancelled := false
  clones := 1
  timers := []
  nextTimer := 0
  clock := now
  exited := false
  start := now
  updates := []

def getPrice (w : MultiPriceStream) (mint : String) : Except PriceReporterClientError Float :=
  match w.inner.prices mint with
  | some price => .ok price
  | none => .error (.streamMissing mint)

def isConnected (w : MultiPriceStream) : Bool := w.inner.isConnected

def shutdown (w : MultiPriceStream) : MultiPriceStream := { w with cancelled := true }

def updatePrice (w : MultiPriceStream) (mint : String) (price : Float) : MultiPriceStream :=
  { w with inner := { w.inner with
      prices := fun m => if m = mint then some price else w.inner.prices m } }

/-- The old timer is aborted, and a new one started. -/
def restartStalenessTimer (w : MultiPriceStream) : MultiPriceStream :=
  if w.inner.exitOnStale then
    { w with
      inner := { w.inner with stalenessTimer := some w.nextTimer }
      timers := w.timers.filter (fun t => some t.id ≠ w.inner.stalenessTimer) ++
        [⟨w.nextTimer, w.clock + stalenessTimeoutMs⟩]
      nextTimer := w.nextTimer + 1 }
  else w

/-- The rest of a round, after `stream_prices`. -/
def finishRound (w : MultiPriceStream) : MultiPriceStream :=
  if w.cancelled then { w with phase := .ended }
  else
    { w with
      inner := w.inner.setConnected false
      phase := .sleeping (w.clock + connRetryDelayMs) }

variable (lib : ClientLib)

/-- A turn of the loop in `handle_price_updates`. -/
def handleRead (w : MultiPriceStream) : Read → MultiPriceStream
  | .ended => { w with phase := .closing true }
  | .failed _ => { w with phase := .closing true }
  | .message .close => { w with phase := .closing true }
  | .message .other => w
  | .message (.text text) =>
      match lib.fromStr text with
      | none => w
      | some message =>
          match getBaseMintFromTopic message.topic with
          | .error _ => { w with phase := .closing false }
          | .ok mint => { w with phase := .storing mint message.price }

def runWebsocketLoop (w : MultiPriceStream) (e : TaskEvent) : Option MultiPriceStream :=
  match w.phase, e with
  | .looping, .loop =>
      if w.cancelled then some { w with phase := .ended } else some { w with phase := .connecting }
  | .connecting, .connected (.error _) => some w.finishRound
  | .connecting, .connected (.ok ()) =>
      some { w with inner := w.inner.setConnected true, phase := .reading }
  | .reading, .cancelled => if w.cancelled then some { w with phase := .closing false } else none
  | .reading, .read r => if w.cancelled then none else some (w.handleRead lib r)
  | .storing mint price, .store => some { w.updatePrice mint price with phase := .restarting }
  | .restarting, .restart =>
      some { w.restartStalenessTimer with phase := .reading, updates := w.clock :: w.updates }
  | .closing _, .closed => some w.finishRound
  | .sleeping deadline, .slept =>
      if deadline ≤ w.clock then some { w with phase := .looping } else none
  | _, _ => none

def step (w : MultiPriceStream) (e : Event) : Option MultiPriceStream :=
  if w.exited then none
  else match e with
    | .task e => w.runWebsocketLoop lib e
    | .shutdown => if 0 < w.clones then some w.shutdown else none
    | .clone => if 0 < w.clones then some { w with clones := w.clones + 1 } else none
    | .drop => if 0 < w.clones then some { w with clones := w.clones - 1 } else none
    | .abort => if w.clones = 0 then some { w with phase := .aborted } else none
    | .advance now =>
        if w.clock ≤ now ∧ ∀ t ∈ w.timers, now ≤ t.deadline then some { w with clock := now }
        else none
    | .fire id =>
        if ∃ t ∈ w.timers, t.id = id ∧ t.deadline ≤ w.clock then some { w with exited := true }
        else none

variable {lib} {w w' : MultiPriceStream}

/-- What the background task can do, phase by phase. -/
inductive Round (lib : ClientLib) (w : MultiPriceStream) : TaskEvent → MultiPriceStream → Prop
  where
  | stop (hp : w.phase = .looping) : Round lib w .loop { w with phase := .ended }
  | connect (hp : w.phase = .looping) : Round lib w .loop { w with phase := .connecting }
  | refused {err : PriceReporterClientError} (hp : w.phase = .connecting) :
      Round lib w (.connected (.error err)) w.finishRound
  | connected (hp : w.phase = .connecting) :
      Round lib w (.connected (.ok ()))
        { w with inner := w.inner.setConnected true, phase := .reading }
  | cancelled (hp : w.phase = .reading) (hc : w.cancelled = true) :
      Round lib w .cancelled { w with phase := .closing false }
  | read {r : Read} (hp : w.phase = .reading) : Round lib w (.read r) (w.handleRead lib r)
  | store {mint : String} {price : Float} (hp : w.phase = .storing mint price) :
      Round lib w .store { w.updatePrice mint price with phase := .restarting }
  | restart (hp : w.phase = .restarting) :
      Round lib w .restart
        { w.restartStalenessTimer with phase := .reading, updates := w.clock :: w.updates }
  | closed {gone : Bool} (hp : w.phase = .closing gone) : Round lib w .closed w.finishRound
  | slept {deadline : Nat} (hp : w.phase = .sleeping deadline) :
      Round lib w .slept { w with phase := .looping }

theorem runWebsocketLoop_cases {e : TaskEvent} (h : w.runWebsocketLoop lib e = some w') :
    Round lib w e w' := by
  unfold runWebsocketLoop at h
  split at h
  · next hp =>
      split at h
      · cases h
        exact .stop hp
      · cases h
        exact .connect hp
  · next hp =>
      cases h
      exact .refused hp
  · next hp =>
      cases h
      exact .connected hp
  · next hp =>
      obtain ⟨hc, h⟩ := Option.ite_none_right_eq_some.mp h
      cases h
      exact .cancelled hp hc
  · next hp =>
      obtain ⟨-, h⟩ := Option.ite_none_left_eq_some.mp h
      cases h
      exact .read hp
  · next hp =>
      cases h
      exact .store hp
  · next hp =>
      cases h
      exact .restart hp
  · next hp =>
      cases h
      exact .closed hp
  · next hp =>
      obtain ⟨-, h⟩ := Option.ite_none_right_eq_some.mp h
      cases h
      exact .slept hp
  · cases h

/-- What is read only moves the task on, to a phase without a connection if that is gone. -/
theorem handleRead_eq (hp : w.phase = .reading) (r : Read) :
    ∃ phase, w.handleRead lib r = { w with phase := phase } ∧ phase.isOpen = !r.isGone ∧
      (phase = .reading ∨ (∃ mint price, phase = .storing mint price) ∨
        ∃ gone, phase = .closing gone) := by
  have hself : { w with phase := .reading } = w := by rw [← hp]
  cases r with
  | ended | failed msg => exact ⟨_, rfl, rfl, .inr (.inr ⟨true, rfl⟩)⟩
  | message m =>
      cases m with
      | close => exact ⟨_, rfl, rfl, .inr (.inr ⟨true, rfl⟩)⟩
      | other => exact ⟨.reading, hself.symm, rfl, .inl rfl⟩
      | text text =>
          rw [handleRead]
          split
          · exact ⟨.reading, hself.symm, rfl, .inl rfl⟩
          · split
            · exact ⟨_, rfl, rfl, .inr (.inr ⟨false, rfl⟩)⟩
            · exact ⟨_, rfl, rfl, .inr (.inl ⟨_, _, rfl⟩)⟩

inductive Step (lib : ClientLib) (w : MultiPriceStream) : Event → MultiPriceStream → Prop where
  | task {e : TaskEvent} {w' : MultiPriceStream} (hr : Round lib w e w') :
      Step lib w (.task e) w'
  | shutdown (hn : 0 < w.clones) : Step lib w .shutdown w.shutdown
  | clone (hn : 0 < w.clones) : Step lib w .clone { w with clones := w.clones + 1 }
  | drop (hn : 0 < w.clones) : Step lib w .drop { w with clones := w.clones - 1 }
  | abort (hn : w.clones = 0) : Step lib w .abort { w with phase := .aborted }
  | advance {now : Nat} (hle : w.clock ≤ now) (harmed : ∀ t ∈ w.timers, now ≤ t.deadline) :
      Step lib w (.advance now) { w with clock := now }
  | fire {id : Nat} (harmed : ∃ t ∈ w.timers, t.id = id ∧ t.deadline ≤ w.clock) :
      Step lib w (.fire id) { w with exited := true }

theorem step_cases {e : Event} (h : w.step lib e = some w') :
    w.exited = false ∧ Step lib w e w' := by
  unfold step at h
  obtain ⟨hexited, h⟩ := Option.ite_none_left_eq_some.mp h
  refine ⟨Bool.eq_false_iff.mpr hexited, ?_⟩
  cases e with
  | task e => exact .task (runWebsocketLoop_cases h)
  | shutdown =>
      obtain ⟨hn, h⟩ := Option.ite_none_right_eq_some.mp h
      cases h
      exact .shutdown hn
  | clone =>
      obtain ⟨hn, h⟩ := Option.ite_none_right_eq_some.mp h
      cases h
      exact .clone hn
  | drop =>
      obtain ⟨hn, h⟩ := Option.ite_none_right_eq_some.mp h
      cases h
      exact .drop hn
  | abort =>
      obtain ⟨hn, h⟩ := Option.ite_none_right_eq_some.mp h
      cases h
      exact .abort hn
  | advance now =>
      obtain ⟨⟨hle, harmed⟩, h⟩ := Option.ite_none_right_eq_some.mp h
      cases h
      exact .advance hle harmed
  | fire id =>
      obtain ⟨harmed, h⟩ := Option.ite_none_right_eq_some.mp h
      cases h
      exact .fire harmed

theorem restartStalenessTimer_isConnected (w : MultiPriceStream) :
    w.restartStalenessTimer.isConnected = w.isConnected := by
  unfold restartStalenessTimer
  split <;> rfl

end MultiPriceStream

/-! ## The client -/

def unitPriceTickers : List String := ["USDC", "USD"]

structure PriceReporterClient where
  multiPriceStream : Option MultiPriceStream

/-- The mint has a ticker whose price is one. -/
def isUnitPrice (lib : ClientLib) (mint : String) (chain : Nat) : Bool :=
  ((lib.getTicker mint chain).map unitPriceTickers.contains).getD false

/-- The price is read from the stream. -/
def PriceReporterClient.readsStream (client : PriceReporterClient) (lib : ClientLib)
    (mint : String) (chain : Nat) : Bool :=
  !isUnitPrice lib (lib.toLowercase mint) chain &&
    (client.multiPriceStream.map MultiPriceStream.isConnected).getD false

def PriceReporterClient.getPrice (client : PriceReporterClient) (lib : ClientLib)
    (getPriceHttp : String → Except PriceReporterClientError Float) (mint : String)
    (chain : Nat) : Except PriceReporterClientError Float :=
  let mint := lib.toLowercase mint
  if isUnitPrice lib mint chain then .ok 1.0
  else
    match client.multiPriceStream with
    | some stream => if stream.isConnected then stream.getPrice mint else getPriceHttp mint
    | none => getPriceHttp mint

section Client

variable {lib : ClientLib} {client : PriceReporterClient} {stream : MultiPriceStream}
  {getPriceHttp : String → Except PriceReporterClientError Float} {mint : String} {chain : Nat}

theorem readsStream_iff (h : client.multiPriceStream = some stream) :
    client.readsStream lib mint chain = true ↔
      isUnitPrice lib (lib.toLowercase mint) chain = false ∧ stream.isConnected = true := by
  unfold PriceReporterClient.readsStream
  rw [h, Bool.and_eq_true, Bool.not_eq_true']
  rfl

/-- Otherwise it asks the reporter, or does not have to. -/
theorem getPrice_of_not_readsStream (h : client.multiPriceStream = some stream)
    (hreads : client.readsStream lib mint chain = false) :
    client.getPrice lib getPriceHttp mint chain =
      if isUnitPrice lib (lib.toLowercase mint) chain then .ok 1.0
      else getPriceHttp (lib.toLowercase mint) := by
  unfold PriceReporterClient.getPrice
  dsimp only
  cases hunit : isUnitPrice lib (lib.toLowercase mint) chain with
  | true => rfl
  | false =>
      have hconn : stream.isConnected ≠ true := fun hconn =>
        Bool.eq_false_iff.mp hreads ((readsStream_iff h).mpr ⟨hunit, hconn⟩)
      rw [h, if_neg Bool.false_ne_true, if_neg Bool.false_ne_true]
      exact if_neg hconn

end Client

end RelayerExtensions.PriceClient
