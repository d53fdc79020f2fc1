import RelayerExtensions.Prices.Exchanges
import Mathlib.Data.List.Chain

/-!
# The sequence numbers of Coinbase's messages

`check_and_update_sequence_num` compares the number of a message with the last one seen, and
reports messages that were dropped or came out of order. The last number is a variable of
`CoinbaseConnection::connect`, which the closure given to `filter_map` captures by move
(`exchanges/coinbase/mod.rs`).

What the closure returns is an `async move` block, and that captures the variable again. It
is an `i64`, so the block gets a copy, and the update it makes is lost with it. The closure's
own variable stays at the `-1` it started with, which stands for no message at all. So there
are no reports, whatever the numbers are, and they are right exactly if none is due
(`sequence_reports_iff`).
-/

namespace RelayerExtensions.Prices

/-- What is reported about a message, with its number and the last one. -/
inductive SequenceReport where
  | dropped (sequenceNum lastSequenceNum : Int)
  | outOfOrder (sequenceNum lastSequenceNum : Int)
deriving DecidableEq

/-- What a message was turned into, and the variables afterwards. -/
structure Mapped where
  result : Except ExchangeConnectionError (Option Float)
  reports : List SequenceReport
  orderBook : CoinbaseOrderBookData
  lastSequenceNum : Int

section Messages

variable {ν : Type} (api : Api ν)

namespace Coinbase

def sequenceNum (json : Json ν) : Option Int :=
  match json.field "sequence_num" with
  | .number n => api.asI64 n
  | _ => none

/-- The reports about a number, given the last one. The sum is one of `i64`. -/
def sequenceReports (sequenceNum lastSequenceNum : Int) : List SequenceReport :=
  (if sequenceNum > (lastSequenceNum + 1).bmod (2 ^ 64) then
    [.dropped sequenceNum lastSequenceNum] else []) ++
  (if sequenceNum < lastSequenceNum then [.outOfOrder sequenceNum lastSequenceNum] else [])

/-- The whole check: its result, the reports, and the last number afterwards. -/
def checkSequenceNum (json : Json ν) (lastSequenceNum : Int) :
    Except ExchangeConnectionError Unit × List SequenceReport × Int :=
  match sequenceNum api json with
  | none =>
      (.error (.invalidMessage (api.toText (json.field "sequence_num"))), [], lastSequenceNum)
  | some n =>
      if lastSequenceNum = -1 then (.ok (), [], n)
      else (.ok (), sequenceReports n lastSequenceNum, n)

/-- What follows the check: the updates, and the midpoint. -/
def applyChecked (checked : Except ExchangeConnectionError Unit) (book : CoinbaseOrderBookData)
    (updates : List (Json ν)) :
    Except ExchangeConnectionError (Option Float) × CoinbaseOrderBookData :=
  match checked with
  | .error e => (.error e, book)
  | .ok () =>
      match applyUpdates api book updates with
      | (.error e, book') => (.error e, book')
      | (.ok (), book') => (.ok book'.midpoint, book')

/-- `midpoint_from_ws_message`, with its variable for the last number. -/
def mapMessage (pair : PairInfo) (book : CoinbaseOrderBookData) (lastSequenceNum : Int)
    (message : Message) : Mapped :=
  match parseJsonFromMessage api pair message with
  | .error e => ⟨.error e, [], book, lastSequenceNum⟩
  | .ok none => ⟨.ok none, [], book, lastSequenceNum⟩
  | .ok (some json) =>
      match (json.field "events").asArray.bind (·.head?) with
      | none => ⟨.ok none, [], book, lastSequenceNum⟩
      | some event =>
          match (event.field "updates").asArray with
          | none => ⟨.ok none, [], book, lastSequenceNum⟩
          | some updates =>
              let book := if (event.field "type").asStr.getD "" = "snapshot" then .new else book
              let checked := checkSequenceNum api json lastSequenceNum
              let applied := applyChecked api checked.1 book updates
              ⟨applied.1, checked.2.1, applied.2, checked.2.2⟩

/-- The result of the check does not depend on the last number. -/
theorem checkSequenceNum_fst (json : Json ν) (lastSequenceNum : Int) :
    (checkSequenceNum api json lastSequenceNum).1 = checkAndUpdateSequenceNum api json := by
  unfold checkSequenceNum checkAndUpdateSequenceNum sequenceNum
  cases hfield : json.field "sequence_num" with
  | number n =>
      cases hn : api.asI64 n with
      | none => simp [hn]
      | some k =>
          simp only [hn]
          split <;> rfl
  | _ => rfl

/-- So the prices and the book do not depend on it either. -/
theorem mapMessage_eq (pair : PairInfo) (book : CoinbaseOrderBookData) (lastSequenceNum : Int)
    (message : Message) :
    let mapped := mapMessage api pair book lastSequenceNum message
    (mapped.result, mapped.orderBook) = midpointFromWsMessage api pair book message := by
  unfold mapMessage midpointFromWsMessage
  cases parseJsonFromMessage api pair message with
  | error e => rfl
  | ok json? =>
      cases json? with
      | none => rfl
      | some json =>
          dsimp only
          cases (json.field "events").asArray.bind (·.head?) with
          | none => rfl
          | some event =>
              dsimp only
              cases (event.field "updates").asArray with
              | none => rfl
              | some updates =>
                  dsimp only
                  rw [checkSequenceNum_fst]
                  rfl

end Coinbase

/-- The variables the closure of the stream has captured. -/
structure StreamClosure where
  pair : PairInfo
  orderBook : CoinbaseOrderBookData
  lastSequenceNum : Int

/-- The closure as `connect` makes it. -/
def StreamClosure.new (pair : PairInfo) : StreamClosure := ⟨pair, .new, -1⟩

/--
One message: the closure is called, and the block it returns is run. The block shares the order
book, which is behind an `Arc`, and has a copy of the number.
-/
def StreamClosure.call (closure : StreamClosure) (message : Message) : Mapped × StreamClosure :=
  let copied := closure.lastSequenceNum
  let mapped := Coinbase.mapMessage api closure.pair closure.orderBook copied message
  (mapped, { closure with orderBook := mapped.orderBook })

/-- The reports about each message of a stream. -/
def StreamClosure.reports (closure : StreamClosure) : List Message → List (List SequenceReport)
  | [] => []
  | message :: messages =>
      let r := closure.call api message
      r.1.reports :: reports r.2 messages

/-! ## What is due -/

/-- The number of a message of the `level2` channel. -/
def level2Number (pair : PairInfo) (message : Message) : Option Int :=
  match parseJsonFromMessage api pair message with
  | .ok (some json) =>
      match (json.field "events").asArray.bind (·.head?) with
      | some event => (event.field "updates").asArray.bind fun _ => Coinbase.sequenceNum api json
      | none => none
  | _ => none

/-- The reports due for a number after another, or after none. -/
def dueAfter (previous : Option Int) (n : Int) : List SequenceReport :=
  match previous with
  | none => []
  | some p =>
      (if n > p + 1 then [.dropped n p] else []) ++ (if n < p then [.outOfOrder n p] else [])

/-- The reports due for each message, given the number of the `level2` message before. -/
def dueReports (pair : PairInfo) : Option Int → List Message → List (List SequenceReport)
  | _, [] => []
  | previous, message :: messages =>
      match level2Number api pair message with
      | none => [] :: dueReports pair previous messages
      | some n => dueAfter previous n :: dueReports pair (some n) messages

/-- Nothing was dropped before the second number, and it is not out of order. -/
def InStep (p n : Int) : Prop := p ≤ n ∧ n ≤ p + 1

instance (p n : Int) : Decidable (InStep p n) := inferInstanceAs (Decidable (_ ∧ _))

theorem dueAfter_eq_nil_iff {p n : Int} : dueAfter (some p) n = [] ↔ InStep p n := by
  unfold dueAfter InStep
  rw [List.append_eq_nil_iff]
  by_cases hdropped : n > p + 1
  · rw [if_pos hdropped]
    exact ⟨fun h => absurd h.1 (List.cons_ne_nil _ _), fun h => absurd hdropped (by omega)⟩
  · rw [if_neg hdropped]
    by_cases horder : n < p
    · rw [if_pos horder]
      exact ⟨fun h => absurd h.2 (List.cons_ne_nil _ _), fun h => absurd horder (by omega)⟩
    · rw [if_neg horder]
      exact ⟨fun _ => by omega, fun _ => ⟨rfl, rfl⟩⟩

/-- Nothing is due exactly if the numbers go up by at most one. -/
theorem dueReports_eq_nil_iff (pair : PairInfo) (previous : Option Int) (messages : List Message) :
    dueReports api pair previous messages = messages.map (fun _ => []) ↔
      (previous.toList ++ messages.filterMap (level2Number api pair)).IsChain InStep := by
  induction messages generalizing previous with
  | nil =>
      refine ⟨fun _ => ?_, fun _ => rfl⟩
      cases previous with
      | none => exact List.IsChain.nil
      | some p => exact List.IsChain.singleton p
  | cons message messages ih =>
      rw [dueReports]
      cases hn : level2Number api pair message with
      | none =>
          rw [List.filterMap_cons_none hn, ← ih previous, List.map_cons]
          exact ⟨fun h => (List.cons.inj h).2, fun h => congrArg _ h⟩
      | some n =>
          rw [List.filterMap_cons_some hn, List.map_cons, List.cons_eq_cons, ih (some n)]
          cases previous with
          | none => exact ⟨fun h => h.2, fun h => ⟨rfl, h⟩⟩
          | some p =>
              rw [dueAfter_eq_nil_iff]
              exact List.isChain_cons_cons.symm

/-! ## The code -/

variable {api}

/-- Against the initial number nothing is reported. -/
theorem checkSequenceNum_reports (json : Json ν) :
    (Coinbase.checkSequenceNum api json (-1)).2.1 = [] := by
  unfold Coinbase.checkSequenceNum
  cases Coinbase.sequenceNum api json with
  | none | some n => rfl

theorem mapMessage_reports (pair : PairInfo) (book : CoinbaseOrderBookData) (message : Message) :
    (Coinbase.mapMessage api pair book (-1) message).reports = [] := by
  unfold Coinbase.mapMessage
  cases parseJsonFromMessage api pair message with
  | error e => rfl
  | ok json? =>
      cases json? with
      | none => rfl
      | some json =>
          dsimp only
          cases (json.field "events").asArray.bind (·.head?) with
          | none => rfl
          | some event =>
              dsimp only
              cases (event.field "updates").asArray with
              | none => rfl
              | some updates => exact checkSequenceNum_reports json

theorem reports_eq_nil {closure : StreamClosure} (h : closure.lastSequenceNum = -1)
    (messages : List Message) : closure.reports api messages = messages.map fun _ => [] := by
  induction messages generalizing closure with
  | nil => rfl
  | cons message messages ih =>
      have hkept : (closure.call api message).2.lastSequenceNum = -1 := h
      rw [StreamClosure.reports, ih hkept, List.map_cons]
      refine congrArg (· :: _) ?_
      show (Coinbase.mapMessage api _ _ closure.lastSequenceNum message).reports = []
      rw [h]
      exact mapMessage_reports ..

/--
**The reports are the ones that are due exactly if none is**: if each number is that of the
`level2` message before it, or one more.
-/
theorem sequence_reports_iff (pair : PairInfo) (messages : List Message) :
    (StreamClosure.new pair).reports api messages = dueReports api pair none messages ↔
      (messages.filterMap (level2Number api pair)).IsChain InStep := by
  rw [reports_eq_nil rfl, eq_comm, dueReports_eq_nil_iff]
  rfl

end Messages

/-- Every text is a message of the channel without updates, numbered by its length. -/
def lengthApi : Api Int where
  fromStr text := .ok (.object [("events", .array [.object [("updates", .array [])]]),
    ("sequence_num", .number text.length)])
  toText _ := ""
  asI64 := some
  parseF64 _ := none
  parseF32 _ := none
  exchangeName _ := "coinbase"
  tokenName ticker := ticker
  durationText _ := ""
  exchangeTicker ticker _ := some ticker
  canonicalExchange _ := .ok .coinbase
  defaultStable _ := "USDC"
  newDefaultStable exchange ticker := .ok ⟨exchange, ticker, "USDC"⟩
  watch := .latest

/-- Numbers 1, 5 and 2: three messages are dropped and one comes late, and nothing is reported. -/
theorem dropped_not_reported :
    let pair : PairInfo := ⟨.coinbase, "WETH", "USDC"⟩
    let messages := [.text "1", .text "12345", .text "12"]
    (StreamClosure.new pair).reports lengthApi messages = [[], [], []] ∧
      dueReports lengthApi pair none messages = [[], [.dropped 5 1], [.outOfOrder 2 5]] := by
  decide

end RelayerExtensions.Prices
