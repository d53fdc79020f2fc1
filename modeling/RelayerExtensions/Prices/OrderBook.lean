import RelayerExtensions.Lib.Levels
import RelayerExtensions.Prices.Exchanges
import Mathlib.Data.List.Induction

/-!
# The replicated order book is Coinbase's

The connection to Coinbase keeps the price levels of each side of the order book in a set,
adds and removes levels as messages report them, and clears both sets at a snapshot
(`exchanges/coinbase/order_book.rs`, `midpoint_from_ws_message`). What the sets should hold can
be said without them: the positive prices whose latest update on that side, since the last
snapshot, had a quantity other than zero (`standing`).

`OrderBook` is the code's book over exact numbers, and `replicated_book_exact` says that it
always holds just that. The floats the code computes with are the subject of
`RelayerExtensions.Prices.BookReplica`.
-/

namespace RelayerExtensions.Prices

inductive Side where
  | bid
  | offer
deriving DecidableEq

/-- A change of a price level, in exact numbers. -/
structure LevelUpdate where
  side : Side
  priceLevel : ℚ
  newQuantity : ℚ
deriving DecidableEq

/-- A message of the `level2` channel, with its one event. -/
structure Level2Message where
  eventType : String
  updates : List LevelUpdate
deriving DecidableEq

/-- `CoinbaseOrderBookData`, in exact numbers, all of which are finite. -/
structure OrderBook where
  bids : Levels ℚ
  offers : Levels ℚ

namespace OrderBook

def new : OrderBook := ⟨.empty, .empty⟩

variable (book : OrderBook)

def bestBid : Option ℚ := book.bids.back

def bestOffer : Option ℚ := book.offers.front

def midpoint : Option ℚ :=
  book.bestBid.bind fun bestBid => book.bestOffer.map fun bestOffer => (bestBid + bestOffer) / 2

def removeBid (priceLevel : ℚ) : OrderBook := { book with bids := book.bids.remove priceLevel }

def removeOffer (priceLevel : ℚ) : OrderBook :=
  { book with offers := book.offers.remove priceLevel }

def addBid (priceLevel : ℚ) : OrderBook :=
  if priceLevel ≤ 0 then book else { book with bids := book.bids.insert priceLevel }

def addOffer (priceLevel : ℚ) : OrderBook :=
  if priceLevel ≤ 0 then book else { book with offers := book.offers.insert priceLevel }

/-- One turn of the loop over the updates. -/
def applyUpdate (update : LevelUpdate) : OrderBook :=
  match update.side with
  | .bid =>
      if update.newQuantity = 0 then book.removeBid update.priceLevel
      else book.addBid update.priceLevel
  | .offer =>
      if update.newQuantity = 0 then book.removeOffer update.priceLevel
      else book.addOffer update.priceLevel

/-- `midpoint_from_ws_message`, of a message of the `level2` channel. -/
def midpointFromMessage (message : Level2Message) : Option ℚ × OrderBook :=
  let book := if message.eventType = "snapshot" then new else book
  let book := message.updates.foldl applyUpdate book
  (book.midpoint, book)

/-- The book after the messages of a connection. -/
def replicated (messages : List Level2Message) : OrderBook :=
  messages.foldl (fun book message => (book.midpointFromMessage message).2) new

def levels : Side → Levels ℚ
  | .bid => book.bids
  | .offer => book.offers

end OrderBook

/-! ## What the book should hold -/

/-- The updates from the last snapshot on, its own included; all of them, if there is none. -/
def sinceSnapshot (messages : List Level2Message) : List LevelUpdate :=
  messages.foldl (fun updates message =>
    if message.eventType = "snapshot" then message.updates else updates ++ message.updates) []

/-- The latest update of a price on a side. -/
def latestUpdate (side : Side) (price : ℚ) (updates : List LevelUpdate) : Option LevelUpdate :=
  updates.reverse.find? fun update => update.side = side ∧ update.priceLevel = price

/-- The positive prices that were last given a quantity. -/
def standing (side : Side) (updates : List LevelUpdate) : Set ℚ :=
  {price | 0 < price ∧
    ∃ update, latestUpdate side price updates = some update ∧ update.newQuantity ≠ 0}

/-- The book and the price a message yields are what the updates say. -/
structure Replicates (updates : List LevelUpdate) (book : OrderBook) (price : Option ℚ) : Prop where
  bids : ∀ p, p ∈ book.bids ↔ p ∈ standing .bid updates
  offers : ∀ p, p ∈ book.offers ↔ p ∈ standing .offer updates
  bestBid : ∀ b, book.bestBid = some b ↔ IsGreatest (standing .bid updates) b
  bestOffer : ∀ o, book.bestOffer = some o ↔ IsLeast (standing .offer updates) o
  priced : price.isSome = true ↔
    (standing .bid updates).Nonempty ∧ (standing .offer updates).Nonempty
  mean : ∀ p, price = some p ↔ ∃ b o, IsGreatest (standing .bid updates) b ∧
    IsLeast (standing .offer updates) o ∧ p = (b + o) / 2

/-! ## One update at a time -/

theorem latestUpdate_concat (side : Side) (price : ℚ) (updates : List LevelUpdate)
    (update : LevelUpdate) :
    latestUpdate side price (updates ++ [update]) =
      if update.side = side ∧ update.priceLevel = price then some update
      else latestUpdate side price updates := by
  unfold latestUpdate
  rw [List.reverse_append, List.reverse_singleton, List.singleton_append, List.find?_cons]
  by_cases h : update.side = side ∧ update.priceLevel = price
  · rw [if_pos h, decide_eq_true h]
  · rw [if_neg h, decide_eq_false h]

variable {updates : List LevelUpdate} {book : OrderBook}

/-- An update decides about its own price on its own side, and about nothing else. -/
theorem mem_standing_concat {side : Side} {price : ℚ} {update : LevelUpdate} :
    price ∈ standing side (updates ++ [update]) ↔
      if update.side = side ∧ update.priceLevel = price then 0 < price ∧ update.newQuantity ≠ 0
      else price ∈ standing side updates := by
  show (0 < price ∧ ∃ u, latestUpdate side price (updates ++ [update]) = some u ∧ _) ↔ _
  rw [latestUpdate_concat]
  by_cases h : update.side = side ∧ update.priceLevel = price
  · rw [if_pos h, if_pos h]
    simp
  · rw [if_neg h, if_neg h]
    exact Iff.rfl

/-- What an update does to its side. -/
def changed (levels : Levels ℚ) (update : LevelUpdate) : Levels ℚ :=
  if update.newQuantity = 0 then levels.remove update.priceLevel
  else if update.priceLevel ≤ 0 then levels else levels.insert update.priceLevel

theorem levels_applyUpdate (book : OrderBook) (update : LevelUpdate) (side : Side) :
    (book.applyUpdate update).levels side =
      if update.side = side then changed (book.levels side) update else book.levels side := by
  obtain ⟨side', level, quantity⟩ := update
  unfold OrderBook.applyUpdate changed OrderBook.addBid OrderBook.addOffer
  cases side' <;> cases side
  all_goals
    dsimp only
    split
    · rfl
    · split <;> rfl

/-- Among positive prices, an update decides about its own. -/
theorem mem_changed {levels : Levels ℚ} (hpos : ∀ p ∈ levels, 0 < p) {update : LevelUpdate}
    {p : ℚ} : p ∈ changed levels update ↔
      if update.priceLevel = p then 0 < p ∧ update.newQuantity ≠ 0 else p ∈ levels := by
  unfold changed
  by_cases hq : update.newQuantity = 0
  · rw [if_pos hq, Levels.mem_remove]
    split
    · next h => exact ⟨fun hp => absurd h.symm hp.2, fun hp => absurd hq hp.2⟩
    · next h => exact ⟨fun hp => hp.1, fun hp => ⟨hp, fun heq => h heq.symm⟩⟩
  · rw [if_neg hq]
    by_cases hle : update.priceLevel ≤ 0
    · rw [if_pos hle]
      split
      · next h =>
          subst h
          -- it is not inserted, and cannot have been before
          have hnot := not_lt.mpr hle
          exact ⟨fun hp => absurd (hpos _ hp) hnot, fun hp => absurd hp.1 hnot⟩
      · exact Iff.rfl
    · rw [if_neg hle, Levels.mem_insert]
      split
      · next h =>
          subst h
          exact ⟨fun _ => ⟨not_le.mp hle, hq⟩, fun _ => .inl rfl⟩
      · next h => exact ⟨fun hp => hp.resolve_left fun heq => h heq.symm, .inr⟩

/-- Both sides hold the standing prices. -/
def Exact (updates : List LevelUpdate) (book : OrderBook) : Prop :=
  ∀ side price, price ∈ book.levels side ↔ price ∈ standing side updates

theorem exact_new : Exact [] .new := by
  intro side price
  have hempty : price ∉ standing side [] := by
    rintro ⟨-, update, hlatest, -⟩
    cases hlatest
  cases side with
  | bid | offer => exact ⟨fun h => absurd h (Levels.not_mem_empty price), fun h => absurd h hempty⟩

/-- **One update keeps the book exact.** -/
theorem exact_applyUpdate (h : Exact updates book)
    (update : LevelUpdate) : Exact (updates ++ [update]) (book.applyUpdate update) := by
  intro side price
  have hpos : ∀ p ∈ book.levels side, 0 < p := fun p hp => ((h side p).mp hp).1
  rw [levels_applyUpdate, mem_standing_concat]
  by_cases hside : update.side = side
  · rw [if_pos hside, mem_changed hpos]
    by_cases hprice : update.priceLevel = price
    · rw [if_pos hprice, if_pos ⟨hside, hprice⟩]
    · rw [if_neg hprice, if_neg fun hboth => hprice hboth.2]
      exact h side price
  · rw [if_neg hside, if_neg fun hboth => hside hboth.1]
    exact h side price

theorem exact_applyUpdates (h : Exact updates book) (more : List LevelUpdate) :
    Exact (updates ++ more) (more.foldl OrderBook.applyUpdate book) := by
  induction more generalizing updates book with
  | nil =>
      rw [List.append_nil]
      exact h
  | cons update more ih =>
      rw [List.append_cons]
      exact ih (exact_applyUpdate h update)

/-! ## One message at a time -/

theorem sinceSnapshot_concat (messages : List Level2Message) (message : Level2Message) :
    sinceSnapshot (messages ++ [message]) =
      if message.eventType = "snapshot" then message.updates
      else sinceSnapshot messages ++ message.updates := by
  unfold sinceSnapshot
  rw [List.foldl_concat]

/-- **One message keeps the book exact**: a snapshot starts from nothing. -/
theorem exact_midpointFromMessage {messages : List Level2Message}
    (h : Exact (sinceSnapshot messages) book) (message : Level2Message) :
    Exact (sinceSnapshot (messages ++ [message])) (book.midpointFromMessage message).2 := by
  rw [sinceSnapshot_concat]
  unfold OrderBook.midpointFromMessage
  by_cases hsnapshot : message.eventType = "snapshot"
  · rw [if_pos hsnapshot, if_pos hsnapshot]
    exact exact_applyUpdates exact_new message.updates
  · rw [if_neg hsnapshot, if_neg hsnapshot]
    exact exact_applyUpdates h message.updates

theorem exact_replicated (messages : List Level2Message) :
    Exact (sinceSnapshot messages) (.replicated messages) := by
  induction messages using List.reverseRecOn with
  | nil => exact exact_new
  | append_singleton messages message ih =>
      unfold OrderBook.replicated
      rw [List.foldl_concat]
      exact exact_midpointFromMessage ih message

theorem Exact.replicates (h : Exact updates book) : Replicates updates book book.midpoint := by
  have hbids : {p | p ∈ book.bids} = standing .bid updates := Set.ext (h .bid)
  have hoffers : {p | p ∈ book.offers} = standing .offer updates := Set.ext (h .offer)
  have hbest : ∀ b, book.bestBid = some b ↔ IsGreatest (standing .bid updates) b := fun b =>
    hbids ▸ Levels.back_eq_some_iff
  have hleast : ∀ o, book.bestOffer = some o ↔ IsLeast (standing .offer updates) o := fun o =>
    hoffers ▸ Levels.front_eq_some_iff
  refine ⟨h .bid, h .offer, hbest, hleast, ?_, fun p => ?_⟩
  · rw [← hbids, ← hoffers, ← Levels.back_isSome_iff, ← Levels.front_isSome_iff]
    unfold OrderBook.midpoint OrderBook.bestBid OrderBook.bestOffer
    cases book.bids.back with
    | none | some b => simp
  · unfold OrderBook.midpoint
    simp only [Option.bind_eq_some_iff, Option.map_eq_some_iff, hbest, hleast]
    constructor
    · rintro ⟨b, hb, o, ho, rfl⟩
      exact ⟨b, o, hb, ho, rfl⟩
    · rintro ⟨b, o, hb, ho, rfl⟩
      exact ⟨b, hb, o, ho, rfl⟩

/--
**After every message of a connection the book holds exactly the standing prices**, its best bid
is the greatest of the bids and its best offer the least of the offers; and the message yields
a price exactly if there are both, which is their mean.
-/
theorem replicated_book_exact (earlier : List Level2Message) (message : Level2Message) :
    let r := (OrderBook.replicated earlier).midpointFromMessage message
    Replicates (sinceSnapshot (earlier ++ [message])) r.2 r.1 :=
  (exact_midpointFromMessage (exact_replicated earlier) message).replicates

/-- A removed bid, and an offer that is no price. -/
example : ((OrderBook.replicated
    [⟨"snapshot", [⟨.bid, 100, 1⟩, ⟨.bid, 99, 1⟩, ⟨.offer, 101, 2⟩]⟩]).midpointFromMessage
      ⟨"update", [⟨.offer, 0, 1⟩, ⟨.bid, 100, 0⟩]⟩).1 = some 100 := by
  decide +kernel

end RelayerExtensions.Prices
