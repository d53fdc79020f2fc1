import RelayerExtensions.Lib.Floats
import RelayerExtensions.Lib.Json
import RelayerExtensions.Lib.Watch
import RelayerExtensions.Prices.Basic

/-!
# Exchange connections

How the connections to Binance, Coinbase, Kraken and OKX turn what an exchange sends into
prices (`price-reporter/src/exchanges/`). Each message is parsed for a bid and an offer, and
the price is their midpoint; Coinbase sends changes of its order book instead, of which the
connection keeps a copy. A connection to Binance starts with a price from the REST API.

Prices are the code's own 64-bit floats. The texts of numbers, of JSON values and of tokens
are made and read by other crates, which are the parameters of `Api`.
-/

namespace RelayerExtensions.Prices

open Watch

/-- What `serde_json`, `tokio`, the standard library and the token maps provide. -/
structure Api (ν : Type) where
  /-- `serde_json::from_str`, with the text of its error. -/
  fromStr : String → Except String (Json ν)
  toText : Json ν → String
  asI64 : ν → Option Int
  parseF64 : String → Option Float
  parseF32 : String → Option Float32
  exchangeName : Exchange → String
  /-- The text of the token of a ticker. -/
  tokenName : String → String
  /-- The text of a duration, in nanoseconds. -/
  durationText : Nat → String
  /-- `get_exchange_ticker`, of the token of a ticker. -/
  exchangeTicker : String → Exchange → Option String
  /-- `get_canonical_exchange`, of the token of a ticker. -/
  canonicalExchange : String → Except ServerError Exchange
  /-- The ticker of `default_exchange_stable`. -/
  defaultStable : Exchange → String
  /-- `PairInfo::new_default_stable`, of the token of a ticker. -/
  newDefaultStable : Exchange → String → Except ServerError PairInfo
  /-- How a stream reads a watch channel. -/
  watch : Reader Float

structure ExchangeConnectionsConfig where
  coinbaseKeyName : Option String
  coinbaseKeySecret : Option String
deriving DecidableEq

def ExchangeConnectionsConfig.coinbaseConfigured (config : ExchangeConnectionsConfig) : Bool :=
  config.coinbaseKeyName.isSome && config.coinbaseKeySecret.isSome

/-! ## Messages -/

/-- A websocket message, as far as it is looked at. -/
inductive Message where
  | text (content : String)
  | close
  | other
deriving DecidableEq

/-- What reading a websocket gives. -/
inductive WsEvent where
  | message (content : Message)
  | error (text : String)
  | ended
deriving DecidableEq

section Parsing

variable {ν α : Type} (api : Api ν)

def toTopic (pair : PairInfo) : String :=
  api.exchangeName pair.exchange ++ "-" ++ pair.base ++ "-" ++ pair.quote

/-- The text in a place of a response, parsed. -/
def parseText (parse : String → Option α) (place response : Json ν) :
    Except ExchangeConnectionError α :=
  match place.asStr with
  | none => .error (.invalidMessage (api.toText response))
  | some text =>
      match parse text with
      | none => .error (.invalidMessage (api.toText response))
      | some a => .ok a

def parseJsonField (parse : String → Option α) (fieldName : String) (response : Json ν) :
    Except ExchangeConnectionError α :=
  parseText api parse (response.field fieldName) response

def parseJsonFieldArray (parse : String → Option α) (fieldIndex : Nat) (response : Json ν) :
    Except ExchangeConnectionError α :=
  parseText api parse (response.item fieldIndex) response

/-- Null is read as nothing. -/
def parseJsonFromMessage (pair : PairInfo) :
    Message → Except ExchangeConnectionError (Option (Json ν))
  | .text content =>
      if content = "Protocol violation" ∨ content = "" then .ok none
      else if content = "pong" then .ok none
      else if content = "CloudFlare WebSocket proxy restarting" then .ok none
      else match api.fromStr content with
        | .ok .null => .ok none
        | .ok value => .ok (some value)
        | .error err => .error (.invalidMessage (err ++ " for message: " ++ content))
  | .close =>
      .error (.connectionHangup ("received close frame from " ++ toTopic api pair ++ " websocket"))
  | .other => .ok none

end Parsing

/-! ## Midpoints -/

def safeMidpoint (bestBid bestOffer : Float) : Option Float :=
  if bestBid.isFinite = false ∨ bestBid ≤ 0.0 then none
  else if bestOffer.isFinite = false ∨ bestOffer ≤ 0.0 then none
  else some ((bestBid + bestOffer) / 2.0)

/-- A midpoint that is given is one of two good sides. -/
theorem safeMidpoint_eq_some {b o p : Float} (h : safeMidpoint b o = some p) :
    b.IsGood ∧ o.IsGood ∧ p = (b + o) / 2.0 := by
  unfold safeMidpoint at h
  split at h
  · cases h
  · next hb =>
      split at h
      · cases h
      · next ho =>
          have hb := not_or.mp hb
          have ho := not_or.mp ho
          exact ⟨.of_not_le (eq_true_of_ne_false hb.1) hb.2,
            .of_not_le (eq_true_of_ne_false ho.1) ho.2, (Option.some.inj h).symm⟩

section Parsers

variable {ν : Type} (api : Api ν)

namespace Binance

/-- The two sides of a response of the REST API. -/
def restSides (response : Json ν) : Except ExchangeConnectionError (Float × Float) := do
  let bestBid ← parseJsonField api api.parseF64 "bidPrice" response
  let bestOffer ← parseJsonField api api.parseF64 "askPrice" response
  return (bestBid, bestOffer)

/-- The two sides of a websocket message. -/
def sides (message : Json ν) : Except ExchangeConnectionError (Float × Float) := do
  let bestBid ← parseJsonField api api.parseF64 "b" message
  let bestOffer ← parseJsonField api api.parseF64 "a" message
  return (bestBid, bestOffer)

def midpointFromWsMessage (pair : PairInfo) (message : Message) :
    Except ExchangeConnectionError (Option Float) := do
  match ← parseJsonFromMessage api pair message with
  | none => return none
  -- raw numbers are ignored
  | some (.number _) => return none
  | some jsonBlob =>
      let (bestBid, bestOffer) ← sides api jsonBlob
      return safeMidpoint bestBid bestOffer

end Binance

namespace Kraken

def msgIgnoreList : List String := ["systemStatus", "subscriptionStatus", "heartbeat"]

/-- The two sides of a websocket message, which also has to have a time. -/
def sides (message : Json ν) : Except ExchangeConnectionError (Float × Float) := do
  let priceData := message.item 1
  let bestBid ← parseJsonFieldArray api api.parseF64 0 priceData
  let bestOffer ← parseJsonFieldArray api api.parseF64 1 priceData
  let _ ← parseJsonFieldArray api api.parseF32 2 priceData
  return (bestBid, bestOffer)

def midpointFromWsMessage (pair : PairInfo) (message : Message) :
    Except ExchangeConnectionError (Option Float) := do
  match ← parseJsonFromMessage api pair message with
  | none => return none
  | some messageJson =>
      if ((messageJson.field "event").asStr.getD "") ∈ msgIgnoreList then return none
      let (bestBid, bestOffer) ← sides api messageJson
      return safeMidpoint bestBid bestOffer

end Kraken

namespace Okx

/-- The two sides of a websocket message. -/
def sides (message : Json ν) : Except ExchangeConnectionError (Float × Float) := do
  let firstDataEntry := (message.field "data").item 0
  let bestBid ← parseJsonFieldArray api api.parseF64 0 ((firstDataEntry.field "bids").item 0)
  let bestOffer ← parseJsonFieldArray api api.parseF64 0 ((firstDataEntry.field "asks").item 0)
  return (bestBid, bestOffer)

def midpointFromWsMessage (pair : PairInfo) (message : Message) :
    Except ExchangeConnectionError (Option Float) := do
  match ← parseJsonFromMessage api pair message with
  | none => return none
  | some messageJson =>
      if (messageJson.field "event").asStr.getD "" = "subscribe" then return none
      let (bestBid, bestOffer) ← sides api messageJson
      return safeMidpoint bestBid bestOffer

end Okx

end Parsers

/-! ## The copy of Coinbase's order book -/

/-- Price levels in ascending order, each once. -/
def insertLevel (level : Float) : List Float → List Float
  | [] => [level]
  | l :: levels =>
      if level < l then level :: l :: levels
      else if level == l then level :: levels
      else l :: insertLevel level levels

theorem mem_insertLevel {level l : Float} {levels : List Float}
    (h : l ∈ insertLevel level levels) : l = level ∨ l ∈ levels := by
  induction levels with
  | nil => exact .inl (List.mem_singleton.mp h)
  | cons l' levels ih =>
      rw [insertLevel] at h
      split at h
      · exact List.mem_cons.mp h
      · split at h
        · rcases List.mem_cons.mp h with h | h
          · exact .inl h
          · exact .inr (List.mem_cons_of_mem _ h)
        · rcases List.mem_cons.mp h with h | h
          · exact .inr (h ▸ List.mem_cons_self)
          · rcases ih h with h | h
            · exact .inl h
            · exact .inr (List.mem_cons_of_mem _ h)

/-- A side of the book, of good levels only. -/
structure OrderBookLevels where
  levels : List Float
  good : ∀ l ∈ levels, l.IsGood

namespace OrderBookLevels

def empty : OrderBookLevels := ⟨[], fun _ h => absurd h List.not_mem_nil⟩

def remove (side : OrderBookLevels) (priceLevel : Float) : OrderBookLevels :=
  ⟨side.levels.filter fun l => !(l == priceLevel), fun l h =>
    side.good l (List.mem_filter.mp h).1⟩

/-- Levels that are not finite or not positive are left out. -/
def add (side : OrderBookLevels) (priceLevel : Float) : OrderBookLevels :=
  if h : priceLevel.isFinite = false ∨ priceLevel ≤ 0.0 then side
  else ⟨insertLevel priceLevel side.levels, fun l hl => by
    have h := not_or.mp h
    rcases mem_insertLevel hl with rfl | hl
    · exact .of_not_le (eq_true_of_ne_false h.1) h.2
    · exact side.good l hl⟩

end OrderBookLevels

structure CoinbaseOrderBookData where
  bids : OrderBookLevels
  offers : OrderBookLevels

namespace CoinbaseOrderBookData

def new : CoinbaseOrderBookData := ⟨.empty, .empty⟩

def bestBid (book : CoinbaseOrderBookData) : Option Float := book.bids.levels.getLast?

def bestOffer (book : CoinbaseOrderBookData) : Option Float := book.offers.levels.head?

/-- The best of both sides. -/
def sides (book : CoinbaseOrderBookData) : Option (Float × Float) := do
  let bestBid ← book.bestBid
  let bestOffer ← book.bestOffer
  return (bestBid, bestOffer)

def midpoint (book : CoinbaseOrderBookData) : Option Float := do
  let (bestBid, bestOffer) ← book.sides
  return (bestBid + bestOffer) / 2.0

def removeBid (book : CoinbaseOrderBookData) (priceLevel : Float) : CoinbaseOrderBookData :=
  { book with bids := book.bids.remove priceLevel }

def removeOffer (book : CoinbaseOrderBookData) (priceLevel : Float) : CoinbaseOrderBookData :=
  { book with offers := book.offers.remove priceLevel }

def addBid (book : CoinbaseOrderBookData) (priceLevel : Float) : CoinbaseOrderBookData :=
  { book with bids := book.bids.add priceLevel }

def addOffer (book : CoinbaseOrderBookData) (priceLevel : Float) : CoinbaseOrderBookData :=
  { book with offers := book.offers.add priceLevel }

/-- Nothing else can be in the book, so the midpoint needs no check of its own. -/
theorem sides_good {book : CoinbaseOrderBookData} {b o : Float} (h : book.sides = some (b, o)) :
    b.IsGood ∧ o.IsGood := by
  unfold sides at h
  cases hb : book.bestBid with
  | none =>
      rw [hb] at h
      cases h
  | some b' =>
      cases ho : book.bestOffer with
      | none =>
          rw [hb, ho] at h
          cases h
      | some o' =>
          rw [hb, ho] at h
          cases h
          exact ⟨book.bids.good _ (List.mem_of_getLast? hb),
            book.offers.good _ (List.mem_of_head? ho)⟩

end CoinbaseOrderBookData

namespace Coinbase

variable {ν : Type} (api : Api ν)

/-- One change of a price level. -/
def applyUpdate (book : CoinbaseOrderBookData) (update : Json ν) :
    Except ExchangeConnectionError CoinbaseOrderBookData := do
  let priceLevel ← parseJsonField api api.parseF64 "price_level" update
  let newQuantity ← parseJsonField api api.parseF32 "new_quantity" update
  let side ← parseJsonField api some "side" update
  if side = "bid" then
    return if newQuantity == 0.0 then book.removeBid priceLevel else book.addBid priceLevel
  else if side = "offer" then
    return if newQuantity == 0.0 then book.removeOffer priceLevel else book.addOffer priceLevel
  else
    throw (.invalidMessage side)

/-- The changes are made one by one; those before a bad one stay made. -/
def applyUpdates : CoinbaseOrderBookData → List (Json ν) →
    Except ExchangeConnectionError Unit × CoinbaseOrderBookData
  | book, [] => (.ok (), book)
  | book, update :: updates =>
      match applyUpdate api book update with
      | .ok book' => applyUpdates book' updates
      | .error e => (.error e, book)

/--
The last sequence number is copied for every message, so each is compared with none. All that
is left of the check is that there is a number.
-/
def checkAndUpdateSequenceNum (message : Json ν) : Except ExchangeConnectionError Unit :=
  let seqNumField := message.field "sequence_num"
  match seqNumField with
  | .number n =>
      match api.asI64 n with
      | some _ => .ok ()
      | none => .error (.invalidMessage (api.toText seqNumField))
  | _ => .error (.invalidMessage (api.toText seqNumField))

def midpointFromWsMessage (pair : PairInfo) (book : CoinbaseOrderBookData) (message : Message) :
    Except ExchangeConnectionError (Option Float) × CoinbaseOrderBookData :=
  match parseJsonFromMessage api pair message with
  | .error e => (.error e, book)
  | .ok none => (.ok none, book)
  | .ok (some json) =>
      match (json.field "events").asArray.bind (·.head?) with
      | none => (.ok none, book)
      | some event =>
          match (event.field "updates").asArray with
          | none => (.ok none, book)
          | some updates =>
              -- a snapshot replaces the book
              let book := if (event.field "type").asStr.getD "" = "snapshot" then .new else book
              match checkAndUpdateSequenceNum api json with
              | .error e => (.error e, book)
              | .ok () =>
                  match applyUpdates api book updates with
                  | (.error e, book') => (.error e, book')
                  | (.ok (), book') => (.ok book'.midpoint, book')

end Coinbase

/-! ## Connections -/

structure Connection where
  pair : PairInfo
  /-- Given out first, unless it has been. -/
  bufferedValue : Float
  bufferedValueConsumed : Bool
  orderBook : CoinbaseOrderBookData
  /-- History: the sides of which the buffered value is the midpoint. -/
  restSides : Option (Float × Float)

/-- `InitializablePriceStream::new`. -/
def Connection.new (pair : PairInfo) : Connection := ⟨pair, 0.0, true, .new, none⟩

/-- `InitializablePriceStream::new_with_initial`, of the midpoint of two sides. -/
def Connection.newWithInitial (pair : PairInfo) (bestBid bestOffer : Float) : Connection :=
  ⟨pair, (bestBid + bestOffer) / 2.0, false, .new, some (bestBid, bestOffer)⟩

inductive WsError where
  | tooManyRequests
  | other (text : String)
deriving DecidableEq

/-- What the network answers while a connection is made; an error is its text. -/
structure Replies (ν : Type) where
  rest : Except String (Json ν)
  ws : Except WsError Unit
  subscribeJwt : Except String Unit
  heartbeatJwt : Except String Unit
  subscribeSent : Except String Unit
  heartbeatSent : Except String Unit

/-- An attempt to connect can also end in a panic. -/
inductive Attempt where
  | panicked
  | done (result : Except ExchangeConnectionError Connection)

section Connecting

variable {ν : Type} (api : Api ν) (config : ExchangeConnectionsConfig)

/-- An answer of the network, with its error wrapped. -/
def wrapError {α : Type} (wrap : String → ExchangeConnectionError) :
    Except String α → Except ExchangeConnectionError α
  | .ok a => .ok a
  | .error text => .error (wrap text)

def wsConnect (r : Replies ν) : Except ExchangeConnectionError Unit :=
  match r.ws with
  | .ok () => .ok ()
  | .error .tooManyRequests => .error .rateLimited
  | .error (.other text) => .error (.handshakeFailure text)

/-- Both tokens have to have a ticker on the exchange. -/
def exchangeTickers (pair : PairInfo) (exchange : Exchange) :
    Except ExchangeConnectionError (String × String) :=
  match api.exchangeTicker pair.base exchange, api.exchangeTicker pair.quote exchange with
  | some baseTicker, some quoteTicker => .ok (baseTicker, quoteTicker)
  | _, _ => .error (.unsupportedPair pair.base pair.quote exchange)

def Binance.connect (pair : PairInfo) (r : Replies ν) :
    Except ExchangeConnectionError Connection := do
  let _ ← exchangeTickers api pair .binance
  let response ← wrapError .connectionHangup r.rest
  -- no check: a bad price is not to fail the connection
  let (bestBid, bestOffer) ← Binance.restSides api response
  wsConnect r
  return .newWithInitial pair bestBid bestOffer

/-- Kraken and OKX: connect, and subscribe. -/
def connectSubscribing (exchange : Exchange) (pair : PairInfo) (r : Replies ν) :
    Except ExchangeConnectionError Connection := do
  wsConnect r
  let _ ← exchangeTickers api pair exchange
  wrapError .connectionHangup r.subscribeSent
  return .new pair

def Kraken.connect : PairInfo → Replies ν → Except ExchangeConnectionError Connection :=
  connectSubscribing api .kraken

def Okx.connect : PairInfo → Replies ν → Except ExchangeConnectionError Connection :=
  connectSubscribing api .okx

/-- The messages sent need the keys, which are expected to be there. -/
def Coinbase.connect (pair : PairInfo) (r : Replies ν) : Attempt :=
  match (do wsConnect r; exchangeTickers api pair .coinbase) with
  | .error e => .done (.error e)
  | .ok _ =>
      if config.coinbaseConfigured then
        .done (do
          wrapError .crypto r.subscribeJwt
          wrapError .crypto r.heartbeatJwt
          wrapError .connectionHangup r.subscribeSent
          wrapError .connectionHangup r.heartbeatSent
          return .new pair)
      else .panicked

def connectExchange (pair : PairInfo) (r : Replies ν) : Attempt :=
  match pair.exchange with
  | .binance => .done (Binance.connect api pair r)
  | .coinbase => Coinbase.connect api config pair r
  | .kraken => .done (Kraken.connect api pair r)
  | .okx => .done (Okx.connect api pair r)
  | exchange => .done (.error (.unsupportedExchange exchange))

/-- Coinbase has no keepalive message. -/
def sendKeepalive (conn : Connection) (sent : Except String Unit) :
    Except ExchangeConnectionError Unit :=
  match conn.pair.exchange with
  | .binance => wrapError .sendError sent
  | .kraken => wrapError .sendError sent
  | .okx => wrapError .connectionHangup sent
  | _ => .ok ()

/-- The price in a message, if there is one, and what becomes of the connection. -/
def Connection.midpointFromWsMessage (conn : Connection) (message : Message) :
    Except ExchangeConnectionError (Option Float) × Connection :=
  match conn.pair.exchange with
  | .binance => (Binance.midpointFromWsMessage api conn.pair message, conn)
  | .coinbase =>
      let (res, book) := Coinbase.midpointFromWsMessage api conn.pair conn.orderBook message
      (res, { conn with orderBook := book })
  | .kraken => (Kraken.midpointFromWsMessage api conn.pair message, conn)
  | .okx => (Okx.midpointFromWsMessage api conn.pair message, conn)
  | _ => (.ok none, conn)

/--
`InitializablePriceStream::poll_next` over the messages that give a price, when at most one
event is ready on the websocket.
-/
def Connection.pollNext (conn : Connection) (ready : Option WsEvent) :
    Poll (Except ExchangeConnectionError Float) × Connection :=
  if conn.bufferedValueConsumed then
    match ready with
    | none => (.pending, conn)
    | some .ended => (.ended, conn)
    | some (.error text) => (.item (.error (.connectionHangup text)), conn)
    | some (.message message) =>
        match conn.midpointFromWsMessage api message with
        | (.ok none, conn') => (.pending, conn')
        | (.ok (some price), conn') => (.item (.ok price), conn')
        | (.error e, conn') => (.item (.error e), conn')
  else (.item (.ok conn.bufferedValue), { conn with bufferedValueConsumed := true })

/-- The bid and the offer of which the price in a message is the midpoint. -/
def Connection.messageSides (conn : Connection) (message : Message) : Option (Float × Float) :=
  match parseJsonFromMessage api conn.pair message with
  | .ok (some json) =>
      match conn.pair.exchange with
      | .binance => (Binance.sides api json).toOption
      | .coinbase => (Coinbase.midpointFromWsMessage api conn.pair conn.orderBook message).2.sides
      | .kraken => (Kraken.sides api json).toOption
      | .okx => (Okx.sides api json).toOption
      | _ => none
  | _ => none

/-- The bid and the offer of which the next price is the midpoint. -/
def Connection.sides (conn : Connection) (ready : Option WsEvent) : Option (Float × Float) :=
  if conn.bufferedValueConsumed then
    match ready with
    | some (.message message) => conn.messageSides api message
    | _ => none
  else conn.restSides

end Connecting

/-! ## An exchange for examples -/

/-- Some texts and their numbers, one message, and every pair on every exchange. -/
def sampleApi : Api Unit where
  fromStr text :=
    if text = "book ticker" then
      .ok (.object [("b", .string "103.0"), ("a", .string "105.0")])
    else .error "expected value"
  toText _ := ""
  asI64 _ := some 0
  parseF64 text := List.lookup text [("0.0", 0.0), ("100.0", 100.0), ("102.0", 102.0),
    ("103.0", 103.0), ("105.0", 105.0), ("79675.0", 79675.0)]
  parseF32 _ := some 0.0
  exchangeName _ := "binance"
  tokenName ticker := ticker
  durationText _ := ""
  exchangeTicker ticker _ := some ticker
  canonicalExchange _ := .ok .binance
  defaultStable _ := "USDT"
  newDefaultStable exchange ticker := .ok ⟨exchange, ticker, "USDT"⟩
  watch := .latest

def noKeys : ExchangeConnectionsConfig := ⟨none, none⟩

/-- Everything works, and the REST API reports these prices. -/
def restReplies (bid offer : String) : Replies Unit where
  rest := .ok (.object [("bidPrice", .string bid), ("askPrice", .string offer)])
  ws := .ok ()
  subscribeJwt := .ok ()
  heartbeatJwt := .ok ()
  subscribeSent := .ok ()
  heartbeatSent := .ok ()

end RelayerExtensions.Prices
