import RelayerExtensions.Prices.OrderBook
import Mathlib.Data.List.ReduceOption

/-!
# The order book of a connection

The code keeps its order book in floats. Of these the sets only hold positive and finite ones,
which compare as the numbers they stand for; so the book of a connection has the levels of the
exact book of the same messages (`connection_mirrors`), and only the midpoint is rounded.

Numbers are what the parser makes of their texts. A quantity too small for an `f32` is parsed
as zero, and is zero in the exact book as well.
-/

namespace RelayerExtensions.Prices

/-! ## The book of floats -/

section Floats

theorem map_insertLevel {p : Float} (hp : p.IsGood) {ls : List Float} (hls : ∀ l ∈ ls, l.IsGood) :
    (insertLevel p ls).map Float.value = Levels.insertList p.value (ls.map Float.value) := by
  induction ls with
  | nil => rfl
  | cons l ls ih =>
      obtain ⟨hl, hls⟩ := List.forall_mem_cons.mp hls
      rw [insertLevel, List.map_cons, Levels.insertList]
      by_cases hlt : p < l
      · rw [if_pos hlt, if_pos ((hp.lt_iff hl).mp hlt)]
        rfl
      · rw [if_neg hlt, if_neg fun h => hlt ((hp.lt_iff hl).mpr h)]
        by_cases heq : (p == l) = true
        · rw [if_pos heq, if_pos (hp.beq_iff.mp heq)]
          rfl
        · rw [if_neg heq, if_neg fun h => heq (hp.beq_iff.mpr h), List.map_cons, ih hls]

theorem map_removeLevel (p : Float) {ls : List Float} (hls : ∀ l ∈ ls, l.IsGood) :
    (ls.filter fun l => !(l == p)).map Float.value =
      (ls.map Float.value).filter (· ≠ p.value) := by
  rw [List.filter_map]
  refine congrArg _ (List.filter_congr fun l hl => ?_)
  cases heq : l == p with
  | true => simp [(hls l hl).beq_iff.mp heq]
  | false =>
      have hne : l.value ≠ p.value := fun h =>
        Bool.false_ne_true (heq.symm.trans ((hls l hl).beq_iff.mpr h))
      simp [hne]

/-- A side of floats has the levels of a side of numbers. -/
def MirrorsSide (side : OrderBookLevels) (levels : Levels ℚ) : Prop :=
  levels.toList = side.levels.map Float.value

variable {side : OrderBookLevels} {levels : Levels ℚ}

theorem MirrorsSide.remove (h : MirrorsSide side levels) (p : Float) :
    MirrorsSide (side.remove p) (levels.remove p.value) := by
  show levels.toList.filter _ = (side.levels.filter _).map _
  rw [map_removeLevel p side.good, ← h]

theorem MirrorsSide.add (h : MirrorsSide side levels) (p : Float) :
    MirrorsSide (side.add p) (if p.value ≤ 0 then levels else levels.insert p.value) := by
  unfold OrderBookLevels.add
  split
  · next hbad =>
      rw [Float.not_isGood_iff, Float.isGood_iff_value_pos, not_lt] at hbad
      rw [if_pos hbad]
      exact h
  · next hok =>
      rw [Float.not_isGood_iff, not_not] at hok
      rw [if_neg (not_le.mpr hok.value_pos)]
      show Levels.insertList _ _ = _
      rw [h]
      exact (map_insertLevel hok side.good).symm

theorem MirrorsSide.front
    (h : MirrorsSide side levels) : levels.front = side.levels.head?.map Float.value := by
  unfold Levels.front
  rw [h, List.head?_map]

theorem MirrorsSide.back
    (h : MirrorsSide side levels) : levels.back = side.levels.getLast?.map Float.value := by
  unfold Levels.back
  rw [h, List.getLast?_map]

/-- A book of floats has the levels of a book of numbers. -/
structure Mirrors (book : CoinbaseOrderBookData) (exact : OrderBook) : Prop where
  bids : MirrorsSide book.bids exact.bids
  offers : MirrorsSide book.offers exact.offers

theorem mirrors_new : Mirrors .new .new := ⟨rfl, rfl⟩

/-- The books have a midpoint at the same time, of sides of the same value. -/
theorem Mirrors.midpoint {book : CoinbaseOrderBookData} {exact : OrderBook}
    (h : Mirrors book exact) :
    exact.bestBid = book.bestBid.map Float.value ∧
      exact.bestOffer = book.bestOffer.map Float.value ∧
      exact.midpoint.isSome = book.midpoint.isSome := by
  have hbid : exact.bestBid = book.bestBid.map Float.value := h.bids.back
  have hoffer : exact.bestOffer = book.bestOffer.map Float.value := h.offers.front
  refine ⟨hbid, hoffer, ?_⟩
  unfold OrderBook.midpoint CoinbaseOrderBookData.midpoint CoinbaseOrderBookData.sides
  rw [hbid, hoffer]
  cases book.bestBid with
  | none => rfl
  | some b =>
      cases book.bestOffer with
      | none | some o => rfl

end Floats

/-! ## The messages of a connection -/

structure ParsedUpdate where
  side : Side
  priceLevel : Float
  newQuantity : Float32

namespace ParsedUpdate

def apply (update : ParsedUpdate) (book : CoinbaseOrderBookData) : CoinbaseOrderBookData :=
  match update.side with
  | .bid =>
      if update.newQuantity == 0.0 then book.removeBid update.priceLevel
      else book.addBid update.priceLevel
  | .offer =>
      if update.newQuantity == 0.0 then book.removeOffer update.priceLevel
      else book.addOffer update.priceLevel

/-- The update in exact numbers. Of the quantity only matters whether it is zero. -/
def exact (update : ParsedUpdate) : LevelUpdate :=
  ⟨update.side, update.priceLevel.value, if update.newQuantity == 0.0 then 0 else 1⟩

end ParsedUpdate

theorem OrderBook.addBid_eq (book : OrderBook) (p : ℚ) :
    book.addBid p = { book with bids := if p ≤ 0 then book.bids else book.bids.insert p } := by
  unfold addBid
  split <;> rfl

theorem OrderBook.addOffer_eq (book : OrderBook) (p : ℚ) :
    book.addOffer p =
      { book with offers := if p ≤ 0 then book.offers else book.offers.insert p } := by
  unfold addOffer
  split <;> rfl

theorem Mirrors.apply {book : CoinbaseOrderBookData} {exact : OrderBook} (h : Mirrors book exact)
    (update : ParsedUpdate) : Mirrors (update.apply book) (exact.applyUpdate update.exact) := by
  obtain ⟨side, level, quantity⟩ := update
  unfold ParsedUpdate.apply ParsedUpdate.exact OrderBook.applyUpdate
  cases hzero : quantity == 0.0 with
  | true =>
      cases side with
      | bid => exact ⟨h.bids.remove level, h.offers⟩
      | offer => exact ⟨h.bids, h.offers.remove level⟩
  | false =>
      cases side with
      | bid =>
          dsimp only
          rw [if_neg Bool.false_ne_true, if_neg Bool.false_ne_true, if_neg one_ne_zero,
            exact.addBid_eq]
          exact ⟨h.bids.add level, h.offers⟩
      | offer =>
          dsimp only
          rw [if_neg Bool.false_ne_true, if_neg Bool.false_ne_true, if_neg one_ne_zero,
            exact.addOffer_eq]
          exact ⟨h.bids, h.offers.add level⟩

section Messages

variable {ν : Type} (api : Api ν)

def parseUpdate (update : Json ν) : Except ExchangeConnectionError ParsedUpdate := do
  let priceLevel ← parseJsonField api api.parseF64 "price_level" update
  let newQuantity ← parseJsonField api api.parseF32 "new_quantity" update
  let side ← parseJsonField api some "side" update
  if side = "bid" then
    return ⟨.bid, priceLevel, newQuantity⟩
  else if side = "offer" then
    return ⟨.offer, priceLevel, newQuantity⟩
  else
    throw (.invalidMessage side)

/-- An update is parsed, and then applied. -/
theorem applyUpdate_eq (book : CoinbaseOrderBookData) (update : Json ν) :
    Coinbase.applyUpdate api book update =
      (parseUpdate api update).map fun u => u.apply book := by
  unfold Coinbase.applyUpdate parseUpdate
  cases parseJsonField api api.parseF64 "price_level" update with
  | error e => rfl
  | ok priceLevel =>
      cases parseJsonField api api.parseF32 "new_quantity" update with
      | error e => rfl
      | ok newQuantity =>
          cases parseJsonField api some "side" update with
          | error e => rfl
          | ok side =>
              by_cases hbid : side = "bid"
              · subst hbid
                rfl
              · by_cases hoffer : side = "offer"
                · subst hoffer
                  rfl
                · -- any other side is an error in both
                  show (if side = "bid" then _ else if side = "offer" then _ else _) =
                    (if side = "bid" then _ else if side = "offer" then _ else _ : Except _ _).map _
                  rw [if_neg hbid, if_neg hoffer, if_neg hbid, if_neg hoffer]
                  rfl

/-- The updates of a message, all of which can be parsed, are applied in order. -/
theorem applyUpdates_eq {updates : List (Json ν)} {parsed : List ParsedUpdate}
    (h : updates.mapM (parseUpdate api) = .ok parsed) (book : CoinbaseOrderBookData) :
    Coinbase.applyUpdates api book updates =
      (.ok (), parsed.foldl (fun book update => update.apply book) book) := by
  induction updates generalizing parsed book with
  | nil =>
      cases h
      rfl
  | cons update updates ih =>
      rw [List.mapM_cons] at h
      obtain ⟨u, hu, h⟩ := Effect.bind_ok.mp h
      obtain ⟨us, hus, h⟩ := Effect.bind_ok.mp h
      cases h
      rw [Coinbase.applyUpdates, applyUpdate_eq, hu]
      exact ih hus (u.apply book)

/-- A message of the `level2` channel, as it is parsed. -/
structure ParsedMessage where
  eventType : String
  updates : List ParsedUpdate

def ParsedMessage.exact (message : ParsedMessage) : Level2Message :=
  ⟨message.eventType, message.updates.map ParsedUpdate.exact⟩

/-- What is read off a message before any of it is applied; nothing, if it is of another kind. -/
def parseMessage (pair : PairInfo) (message : Message) :
    Except ExchangeConnectionError (Option ParsedMessage) := do
  match ← parseJsonFromMessage api pair message with
  | none => return none
  | some json =>
      match (json.field "events").asArray.bind (·.head?) with
      | none => return none
      | some event =>
          match (event.field "updates").asArray with
          | none => return none
          | some updates =>
              Coinbase.checkAndUpdateSequenceNum api json
              let parsed ← updates.mapM (parseUpdate api)
              return some ⟨(event.field "type").asStr.getD "", parsed⟩

variable {api} {pair : PairInfo}

/-- A message of another kind leaves the book alone. -/
theorem midpointFromWsMessage_of_none {message : Message}
    (h : parseMessage api pair message = .ok none) (book : CoinbaseOrderBookData) :
    Coinbase.midpointFromWsMessage api pair book message = (.ok none, book) := by
  obtain ⟨json?, hjson, h⟩ := Effect.bind_ok.mp h
  unfold Coinbase.midpointFromWsMessage
  rw [hjson]
  cases json? with
  | none => rfl
  | some json =>
      dsimp only at h ⊢
      cases hevent : (json.field "events").asArray.bind (·.head?) with
      | none => rfl
      | some event =>
          rw [hevent] at h
          dsimp only at h ⊢
          cases hupdates : (event.field "updates").asArray with
          | none => rfl
          | some updates =>
              rw [hupdates] at h
              obtain ⟨_, -, h⟩ := Effect.bind_ok.mp h
              obtain ⟨parsed, -, h⟩ := Effect.bind_ok.mp h
              cases h

/-- A message of the channel changes the book by its updates, and yields its midpoint. -/
theorem midpointFromWsMessage_of_some {message : Message} {parsed : ParsedMessage}
    (h : parseMessage api pair message = .ok (some parsed)) (book : CoinbaseOrderBookData) :
    let book' := parsed.updates.foldl (fun book update => update.apply book)
      (if parsed.eventType = "snapshot" then .new else book)
    Coinbase.midpointFromWsMessage api pair book message = (.ok book'.midpoint, book') := by
  obtain ⟨json?, hjson, h⟩ := Effect.bind_ok.mp h
  unfold Coinbase.midpointFromWsMessage
  rw [hjson]
  cases json? with
  | none => cases h
  | some json =>
      dsimp only at h ⊢
      cases hevent : (json.field "events").asArray.bind (·.head?) with
      | none =>
          rw [hevent] at h
          cases h
      | some event =>
          rw [hevent] at h
          dsimp only at h ⊢
          cases hupdates : (event.field "updates").asArray with
          | none =>
              rw [hupdates] at h
              cases h
          | some updates =>
              rw [hupdates] at h
              obtain ⟨_, hseq, h⟩ := Effect.bind_ok.mp h
              obtain ⟨us, hus, h⟩ := Effect.bind_ok.mp h
              cases h
              dsimp only
              rw [hseq]
              dsimp only
              rw [applyUpdates_eq api hus]

theorem Mirrors.applyAll {book : CoinbaseOrderBookData} {exact : OrderBook} (h : Mirrors book exact)
    (updates : List ParsedUpdate) :
    Mirrors (updates.foldl (fun book update => update.apply book) book)
      ((updates.map ParsedUpdate.exact).foldl OrderBook.applyUpdate exact) := by
  induction updates generalizing book exact with
  | nil => exact h
  | cons update updates ih => exact ih (h.apply update)

/-- **A message does to the book of floats what it does to the exact book.** -/
theorem Mirrors.message {book : CoinbaseOrderBookData} {exact : OrderBook} (h : Mirrors book exact)
    {message : Message} {parsed : ParsedMessage}
    (hparsed : parseMessage api pair message = .ok (some parsed)) :
    Mirrors (Coinbase.midpointFromWsMessage api pair book message).2
      (exact.midpointFromMessage parsed.exact).2 := by
  rw [midpointFromWsMessage_of_some hparsed]
  unfold OrderBook.midpointFromMessage
  by_cases hsnapshot : parsed.eventType = "snapshot"
  · have hsnapshot' : parsed.exact.eventType = "snapshot" := hsnapshot
    rw [if_pos hsnapshot, if_pos hsnapshot']
    exact mirrors_new.applyAll parsed.updates
  · have hsnapshot' : ¬ parsed.exact.eventType = "snapshot" := hsnapshot
    rw [if_neg hsnapshot, if_neg hsnapshot']
    exact h.applyAll parsed.updates

/-- The book of a connection after the messages it got. -/
def connectionBook (api : Api ν) (pair : PairInfo) (messages : List Message) :
    CoinbaseOrderBookData :=
  messages.foldl (fun book message => (Coinbase.midpointFromWsMessage api pair book message).2) .new

/--
**The book of a connection is the exact one.** Its levels stand for the levels of the exact book
of the same messages, as long as all of them can be parsed.
-/
theorem connection_mirrors {messages : List Message} {parsed : List (Option ParsedMessage)}
    (h : messages.mapM (parseMessage api pair) = .ok parsed) :
    Mirrors (connectionBook api pair messages)
      (.replicated (parsed.reduceOption.map ParsedMessage.exact)) := by
  suffices hfrom : ∀ (book : CoinbaseOrderBookData) (exact : OrderBook), Mirrors book exact →
      Mirrors (messages.foldl
          (fun book message => (Coinbase.midpointFromWsMessage api pair book message).2) book)
        ((parsed.reduceOption.map ParsedMessage.exact).foldl
          (fun book message => (book.midpointFromMessage message).2) exact) from
    hfrom .new .new mirrors_new
  induction messages generalizing parsed with
  | nil =>
      cases h
      exact fun _ _ hm => hm
  | cons message messages ih =>
      intro book exact hm
      rw [List.mapM_cons] at h
      obtain ⟨p, hp, h⟩ := Effect.bind_ok.mp h
      obtain ⟨ps, hps, h⟩ := Effect.bind_ok.mp h
      cases h
      cases p with
      | none =>
          refine ih hps _ _ ?_
          dsimp only
          rw [midpointFromWsMessage_of_none hp]
          exact hm
      | some p => exact ih hps _ _ (hm.message hp)

/-- What the exact book says about the book of a connection. -/
theorem connection_book_exact {messages : List Message} {parsed : List (Option ParsedMessage)}
    (h : messages.mapM (parseMessage api pair) = .ok parsed) :
    let book := connectionBook api pair messages
    let updates := sinceSnapshot (parsed.reduceOption.map ParsedMessage.exact)
    (∀ p, (∃ l ∈ book.bids.levels, l.value = p) ↔ p ∈ standing .bid updates) ∧
      (∀ p, (∃ l ∈ book.offers.levels, l.value = p) ↔ p ∈ standing .offer updates) ∧
      (∀ p, book.bestBid.map Float.value = some p ↔ IsGreatest (standing .bid updates) p) ∧
      (∀ p, book.bestOffer.map Float.value = some p ↔ IsLeast (standing .offer updates) p) ∧
      (book.midpoint.isSome = true ↔
        (standing .bid updates).Nonempty ∧ (standing .offer updates).Nonempty) := by
  intro book updates
  have hmirrors := connection_mirrors h
  have hexact := (exact_replicated (parsed.reduceOption.map ParsedMessage.exact)).replicates
  obtain ⟨hbid, hoffer, hmid⟩ := hmirrors.midpoint
  refine ⟨fun p => ?_, fun p => ?_, fun p => ?_, fun p => ?_, ?_⟩
  · rw [← hexact.bids, ← Levels.mem_toList, hmirrors.bids, List.mem_map]
  · rw [← hexact.offers, ← Levels.mem_toList, hmirrors.offers, List.mem_map]
  · rw [← hexact.bestBid, hbid]
  · rw [← hexact.bestOffer, hoffer]
  · rw [← hexact.priced, hmid]

/-- Every text is a snapshot with a bid and an offer. -/
def snapshotApi : Api Unit := { sampleApi with
  fromStr := fun _ => .ok (.object [("sequence_num", .number ()), ("events", .array [.object
    [("type", .string "snapshot"), ("updates", .array
      [.object [("price_level", .string "100.0"), ("new_quantity", .string "1"),
          ("side", .string "bid")],
        .object [("price_level", .string "102.0"), ("new_quantity", .string "1"),
          ("side", .string "offer")]])]])])
  parseF32 := fun _ => some 1.0 }

theorem connection_book_exact_snapshot :
    ∃ parsed, [Message.text "level2", .other].mapM
        (parseMessage snapshotApi ⟨.coinbase, "WETH", "USDC"⟩) = .ok parsed ∧
      let updates := sinceSnapshot (parsed.reduceOption.map ParsedMessage.exact)
      ((connectionBook snapshotApi ⟨.coinbase, "WETH", "USDC"⟩
          [.text "level2", .other]).midpoint.isSome = true ↔
        (standing .bid updates).Nonempty ∧ (standing .offer updates).Nonempty) :=
  ⟨_, rfl, (connection_book_exact rfl).2.2.2.2⟩

end Messages

end RelayerExtensions.Prices
