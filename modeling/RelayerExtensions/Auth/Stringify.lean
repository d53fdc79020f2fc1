import RelayerExtensions.Auth.Basic
import RelayerExtensions.Lib.Json

/-!
# Numbers as strings in JSON bodies

A client can ask for a body in which every number is a string
(`auth-server/src/http_utils/stringify_formatter.rs`). `json_serialize` then writes with a
formatter that quotes the numbers, and `json_deserialize` goes over what was parsed and turns
every string that parses as an `f64` into a number, except directly under the key `price`.

Neither side knows what the other did: a string that was a string before is turned into a
number if it looks like one, and a price that was a number stays a string. `isFaithful`
describes the documents without either, and those are the ones that come back as they were
sent (`json_round_trip_iff`). The numbers come back as numbers, not as their texts: `serde_json`
keeps the value of a number and may write it differently, so documents are compared by the values
of their numbers (`Json.values`).

What is taken for a number is not always one to JSON: Rust also parses `+1`, `.5` or `nan`.
Such a string is not left alone but fails the whole body (`convert_stringified_numbers_iff`).
-/

namespace RelayerExtensions.Auth

open Json (Number)

/-- The formatter's method that a number is written with. -/
inductive WriteMethod where
  | writeI8
  | writeI16
  | writeI32
  | writeI64
  | writeI128
  | writeU8
  | writeU16
  | writeU32
  | writeU64
  | writeU128
  | writeF32
  | writeF64
  /-- For a `serde_json::Number`, which is text already. -/
  | writeNumberStr
deriving DecidableEq

/-- A number in a value that is being serialized, by its text. -/
structure Numeral where
  method : WriteMethod
  value : Number
deriving DecidableEq

/-- What serializing a value drives the serializer with. -/
abbrev Payload := Json Numeral

/-! ## The serializer -/

def writeEscapedString (value : List Char) : List Char := '"' :: (value ++ ['"'])

def CompactFormatter.write (n : Numeral) : List Char := n.value.chars

def StringifyNumbersFormatter.write (n : Numeral) : List Char :=
  match n.method with
  | .writeI8 => writeEscapedString n.value.chars
  | .writeI16 => writeEscapedString n.value.chars
  | .writeI32 => writeEscapedString n.value.chars
  | .writeI64 => writeEscapedString n.value.chars
  | .writeI128 => writeEscapedString n.value.chars
  | .writeU8 => writeEscapedString n.value.chars
  | .writeU16 => writeEscapedString n.value.chars
  | .writeU32 => writeEscapedString n.value.chars
  | .writeU64 => writeEscapedString n.value.chars
  | .writeU128 => writeEscapedString n.value.chars
  | .writeF32 => writeEscapedString n.value.chars
  | .writeF64 => writeEscapedString n.value.chars
  -- not overridden
  | .writeNumberStr => n.value.chars

/-- How deep `serde_json` refuses to parse. -/
def recursionLimit : Nat := 128

/-- The key by which `serde_json` tells a number that is kept as text from an object. -/
def numberToken : String := "$serde_json::private::Number"

/-- A document as a `Value` holds it: the keys of an object are in order, each once, and none of
them is the reserved one. -/
def isPlain {ν : Type} (v : Json ν) : Bool :=
  v.isOrdered && v.keysAll fun keys => !keys.contains numberToken

/-- What is used of `serde_json` to read a `Value`. -/
structure SerdeJson where
  fromSlice : List Char → Except String (Json Number)
  fromValue : Json Number → Except String (Json Number)
  /-- `Number::from_str` -/
  numberFromStr : String → Except String Number
  /-- What was written is read back with the same numbers. Their texts may change: `-0` is read as
  `0`, and `1e5` as `1e+5`. -/
  reads_back : ∀ v : Json Number, isPlain v = true → v.depth < recursionLimit →
    (fromSlice (v.write Number.chars)).map Json.values = .ok v.values
  too_deep : ∀ v : Json Number, isPlain v = true → recursionLimit ≤ v.depth →
    ∃ msg, fromSlice (v.write Number.chars) = .error msg
  /-- Taking a `Value` from a `Value` keeps the numbers as well: `0.0000001` becomes `1e-7`. -/
  keeps_values : ∀ v : Json Number, isPlain v = true →
    (fromValue v).map Json.values = .ok v.values
  /-- The number literals of JSON are taken for the numbers they stand for, and nothing else is. -/
  accepts : ∀ s, NumberText.isNumber s.toList = true →
    (numberFromStr s).map Number.value = .ok (NumberText.value s.toList)
  refuses : ∀ s, NumberText.isNumber s.toList = false → ∃ msg, numberFromStr s = .error msg

def ignoredKeys : List String := ["price"]

/-- Whether `s.parse::<f64>()` succeeds. -/
def isNumeric (s : String) : Bool := NumberText.isFloat s.toList

/-- Only what is neither an object nor an array can be ignored. -/
def shouldIgnoreKey {ν : Type} (key : String) : Json ν → Bool
  | .object _ => false
  | .array _ => false
  | _ => ignoredKeys.contains key

section Convert

variable {ν : Type} (numberFromStr : String → Except String ν)

mutual

def convertStringifiedNumbers : Json ν → Except AuthServerError (Json ν)
  | .string s =>
      if isNumeric s then ((numberFromStr s).mapError .serde).map .number
      else .ok (.string s)
  | .object entries => (convertEntries entries).map .object
  | .array items => (convertItems items).map .array
  | .null => .ok .null
  | .bool b => .ok (.bool b)
  | .number n => .ok (.number n)

def convertItems : List (Json ν) → Except AuthServerError (List (Json ν))
  | [] => .ok []
  | v :: items =>
      (convertStringifiedNumbers v).bind fun v => (convertItems items).map fun vs => v :: vs

def convertEntries : List (String × Json ν) → Except AuthServerError (List (String × Json ν))
  | [] => .ok []
  | (key, v) :: entries =>
      (if shouldIgnoreKey key v then .ok v else convertStringifiedNumbers v).bind fun v =>
        (convertEntries entries).map fun es => (key, v) :: es

end

end Convert

namespace SerdeJson

variable (serde : SerdeJson)

/-- Deserialize into a `Value`. -/
def jsonDeserialize (buf : List Char) (stringify : Bool) : Except AuthServerError (Json Number) :=
  if stringify then
    ((serde.fromSlice buf).mapError .serde).bind fun val =>
      (convertStringifiedNumbers serde.numberFromStr val).bind fun val =>
        (serde.fromValue val).mapError .serde
  else (serde.fromSlice buf).mapError .serde

end SerdeJson

/-! ## What is sent, and what of it is read -/

/-- The document a value is. -/
def Payload.value (v : Payload) : Json ℚ := v.mapNumber fun n => .number n.value.value

/-- Whether the formatter quotes the number. -/
def Numeral.quoted (n : Numeral) : Bool := n.method ≠ .writeNumberStr

/-- A number as it is found in the written document. -/
def Numeral.written (n : Numeral) : Json Number :=
  if n.quoted then .string n.value.text else .number n.value

/-- The document as it is written. -/
def Payload.written (v : Payload) : Json Number := v.mapNumber Numeral.written

namespace Payload

variable (v : Payload)

end Payload

/-! ## What comes back unchanged -/

/-- The value is a number that the formatter quotes. -/
def isQuoted : Payload → Bool
  | .number n => n.quoted
  | _ => false

mutual

/--
No string is taken for a number, and no quoted number is left as a string: under an
ignored key there may be any string but no quoted number, and elsewhere the other way
round.
-/
def isFaithful : Payload → Bool
  | .string s => !isNumeric s
  | .array items => faithfulItems items
  | .object entries => faithfulEntries entries
  | _ => true

def faithfulItems : List Payload → Bool
  | [] => true
  | v :: items => isFaithful v && faithfulItems items

def faithfulEntries : List (String × Payload) → Bool
  | [] => true
  | (key, v) :: entries =>
      (if shouldIgnoreKey key v then !isQuoted v else isFaithful v) && faithfulEntries entries

end

section Except

variable {ε α β : Type}

theorem map_eq_ok_iff {f : α → β} (hf : ∀ a b, f a = f b → a = b) {x : Except ε α} {a : α} :
    x.map f = .ok (f a) ↔ x = .ok a := by
  constructor
  · intro h
    cases x with
    | error e => cases h
    | ok b => exact congrArg Except.ok (hf b a (Except.ok.inj h))
  · intro h
    rw [h]
    rfl

/-- The first of a list and the rest of it are converted one after the other. -/
theorem bind_map_cons_eq_ok_iff {x : Except ε α} {xs : Except ε (List β)} {g : α → β} {a : α}
    (hg : ∀ a b, g a = g b → a = b) {bs : List β} :
    (x.bind fun b => xs.map fun bs => g b :: bs) = .ok (g a :: bs) ↔ x = .ok a ∧ xs = .ok bs := by
  constructor
  · intro h
    cases x with
    | error e => cases h
    | ok b =>
        cases xs with
        | error e => cases h
        | ok cs =>
            obtain ⟨hb, hcs⟩ := List.cons.inj (Except.ok.inj h)
            exact ⟨congrArg Except.ok (hg b a hb), congrArg Except.ok hcs⟩
  · intro h
    rw [h.1, h.2]
    rfl

end Except

/-! ### The conversion, by the values of the numbers -/

section Values

variable {ν μ : Type}

theorem shouldIgnoreKey_mapNumber {key : String} {f : ν → Json μ}
    (hf : ∀ n, shouldIgnoreKey key (f n) = ignoredKeys.contains key) (v : Json ν) :
    shouldIgnoreKey key (v.mapNumber f) = shouldIgnoreKey key v := by
  cases v with
  | number n => exact hf n
  | null | bool b | string s | array items | object entries => rfl

/-- **The conversion looks at no number.** -/
theorem convert_mapNumber (parse : String → Except String ν) (f : ν → μ) (v : Json ν) :
    (convertStringifiedNumbers parse v).map (Json.mapNumber fun n => .number (f n)) =
      convertStringifiedNumbers (fun s => (parse s).map f)
        (v.mapNumber fun n => .number (f n)) := by
  induction v using Json.induct with
  | null | bool b | number n => rfl
  | string s =>
      rw [Json.mapNumber, convertStringifiedNumbers, convertStringifiedNumbers]
      cases isNumeric s with
      | false => rfl
      | true => cases h : parse s <;> rfl
  | array items ih =>
      suffices h : (convertItems parse items).map (Json.mapItems fun n => .number (f n)) =
          convertItems (fun s => (parse s).map f) (Json.mapItems (fun n => .number (f n)) items) by
        rw [Json.mapNumber, convertStringifiedNumbers, convertStringifiedNumbers, ← h]
        cases convertItems parse items <;> rfl
      induction items with
      | nil => rfl
      | cons v items ihs =>
          rw [Json.mapItems, convertItems, convertItems, ← ih v List.mem_cons_self,
            ← ihs fun w hw => ih w (List.mem_cons_of_mem v hw)]
          cases convertStringifiedNumbers parse v with
          | error e => rfl
          | ok w => cases convertItems parse items <;> rfl
  | object entries ih =>
      suffices h : (convertEntries parse entries).map (Json.mapEntries fun n => .number (f n)) =
          convertEntries (fun s => (parse s).map f)
            (Json.mapEntries (fun n => .number (f n)) entries) by
        rw [Json.mapNumber, convertStringifiedNumbers, convertStringifiedNumbers, ← h]
        cases convertEntries parse entries <;> rfl
      induction entries with
      | nil => rfl
      | cons e entries ihs =>
          obtain ⟨key, v⟩ := e
          rw [Json.mapEntries, convertEntries, convertEntries,
            shouldIgnoreKey_mapNumber fun _ => rfl, ← ih (key, v) List.mem_cons_self,
            ← ihs fun e he => ih e (List.mem_cons_of_mem (key, v) he)]
          cases shouldIgnoreKey key v with
          | true => cases convertEntries parse entries <;> rfl
          | false =>
              cases convertStringifiedNumbers parse v with
              | error e => rfl
              | ok w => cases convertEntries parse entries <;> rfl

end Values

/-- Exactly the number literals are read, as the numbers they stand for. -/
structure ReadsNumbers (parse : String → Except String ℚ) : Prop where
  accepts : ∀ s, NumberText.isNumber s.toList = true → parse s = .ok (NumberText.value s.toList)
  refuses : ∀ s, NumberText.isNumber s.toList = false → ∃ msg, parse s = .error msg

theorem SerdeJson.readsNumbers (serde : SerdeJson) :
    ReadsNumbers fun s => (serde.numberFromStr s).map Number.value where
  accepts := serde.accepts
  refuses s hs := by
    obtain ⟨msg, hmsg⟩ := serde.refuses s hs
    exact ⟨msg, by rw [hmsg]; rfl⟩

section Written

variable {parse : String → Except String ℚ}

/-- A number is read from its text. -/
theorem convert_text (hparse : ReadsNumbers parse) {s : String}
    (hs : NumberText.isNumber s.toList = true) :
    convertStringifiedNumbers parse (.string s) = .ok (.number (NumberText.value s.toList)) := by
  have hnumeric : isNumeric s = true := NumberText.isFloat_of_isNumber hs
  rw [convertStringifiedNumbers, if_pos hnumeric, hparse.accepts s hs]
  rfl

/-- A string stays a string exactly if it is not numeric. -/
theorem convert_string (parse : String → Except String ℚ) (s : String) :
    convertStringifiedNumbers parse (.string s) = .ok (.string s) ↔ isNumeric s = false := by
  rw [convertStringifiedNumbers]
  cases hs : isNumeric s with
  | false => exact ⟨fun _ => rfl, fun _ => rfl⟩
  | true =>
      refine ⟨fun h => ?_, fun h => by cases h⟩
      rw [if_pos rfl] at h
      cases hn : parse s with
      | error msg =>
          rw [hn] at h
          cases h
      | ok n =>
          rw [hn] at h
          cases h

end Written

namespace SerdeJson

variable (serde : SerdeJson)

end SerdeJson

/-! ## What a client may send -/

mutual

/-- Every string that is a JSON number is that number, except directly under an ignored key. -/
def readNumbers : Json Number → Json ℚ
  | .string s =>
      if NumberText.isNumber s.toList then .number (NumberText.value s.toList) else .string s
  | .array items => .array (readItems items)
  | .object entries => .object (readEntries entries)
  | .number n => .number n.value
  | .bool b => .bool b
  | .null => .null

def readItems : List (Json Number) → List (Json ℚ)
  | [] => []
  | v :: items => readNumbers v :: readItems items

def readEntries : List (String × Json Number) → List (String × Json ℚ)
  | [] => []
  | (key, v) :: entries =>
      (key, if shouldIgnoreKey key v then v.values else readNumbers v) :: readEntries entries

end

mutual

/-- No string that parses as an `f64` is loosely written, except directly under an ignored key. -/
def isStrict : Json Number → Bool
  | .string s => !(isNumeric s && NumberText.isLoose s.toList)
  | .array items => strictItems items
  | .object entries => strictEntries entries
  | _ => true

def strictItems : List (Json Number) → Bool
  | [] => true
  | v :: items => isStrict v && strictItems items

def strictEntries : List (String × Json Number) → Bool
  | [] => true
  | (key, v) :: entries => (shouldIgnoreKey key v || isStrict v) && strictEntries entries

end

section Strict

variable {parse : String → Except String ℚ}

/-- A numeric string is read as it should be exactly if JSON agrees that it is a number. -/
theorem convert_string_iff (hparse : ReadsNumbers parse) (s : String) :
    convertStringifiedNumbers parse (.string s) = .ok (readNumbers (.string s)) ↔
      isStrict (.string s) = true := by
  rw [readNumbers, isStrict]
  cases hs : isNumeric s with
  | false =>
      have hnumber : ¬ NumberText.isNumber s.toList = true := fun h =>
        Bool.false_ne_true (hs.symm.trans (NumberText.isFloat_of_isNumber h))
      rw [if_neg hnumber]
      exact ⟨fun _ => rfl, fun _ => (convert_string parse s).mpr hs⟩
  | true =>
      cases hloose : NumberText.isLoose s.toList with
      | false =>
          have hnumber := NumberText.isNumber_iff.mpr ⟨hs, hloose⟩
          rw [if_pos hnumber]
          exact ⟨fun _ => rfl, fun _ => convert_text hparse hnumber⟩
      | true =>
          have hnumber : ¬ NumberText.isNumber s.toList = true := fun h =>
            Bool.false_ne_true ((NumberText.isNumber_iff.mp h).2.symm.trans hloose)
          rw [if_neg hnumber, convert_string, hs]
          decide

/-- **The conversion reads the numbers exactly if no numeric string is loosely written.** -/
theorem convert_eq_readNumbers_iff (hparse : ReadsNumbers parse) (v : Json Number) :
    convertStringifiedNumbers parse v.values = .ok (readNumbers v) ↔ isStrict v = true := by
  unfold Json.values
  induction v using Json.induct with
  | null | bool b | number n => exact ⟨fun _ => rfl, fun _ => rfl⟩
  | string s => exact convert_string_iff hparse s
  -- the functions go through lists of items and of entries, so these are inductions of their own
  | array items ih =>
      rw [Json.mapNumber, convertStringifiedNumbers, readNumbers, isStrict,
        map_eq_ok_iff fun a b h => Json.array.inj h]
      induction items with
      | nil => exact ⟨fun _ => rfl, fun _ => rfl⟩
      | cons v items ihs =>
          rw [Json.mapItems, convertItems, readItems, strictItems, Bool.and_eq_true,
            ← ih v List.mem_cons_self, ← ihs fun w hw => ih w (List.mem_cons_of_mem v hw)]
          exact bind_map_cons_eq_ok_iff fun a b h => h
  | object entries ih =>
      rw [Json.mapNumber, convertStringifiedNumbers, readNumbers, isStrict,
        map_eq_ok_iff fun a b h => Json.object.inj h]
      induction entries with
      | nil => exact ⟨fun _ => rfl, fun _ => rfl⟩
      | cons e entries ihs =>
          obtain ⟨key, v⟩ := e
          rw [Json.mapEntries, convertEntries, readEntries, strictEntries, Bool.and_eq_true,
            Bool.or_eq_true, shouldIgnoreKey_mapNumber fun _ => rfl,
            ← ih (key, v) List.mem_cons_self,
            ← ihs fun e he => ih e (List.mem_cons_of_mem (key, v) he)]
          refine (bind_map_cons_eq_ok_iff fun a b h => (Prod.mk.inj h).2).trans
            (and_congr ?_ Iff.rfl)
          -- below an ignored key both sides leave everything as it is
          cases shouldIgnoreKey key v with
          | true => exact ⟨fun _ => .inl rfl, fun _ => rfl⟩
          | false => exact ⟨.inr, fun h => h.resolve_left Bool.false_ne_true⟩

end Strict

/--
**The conversion of a body succeeds, with the JSON numbers among its strings as numbers and
everything else as it is, exactly if no string outside an ignored key parses as an `f64` with a
plus, a leading zero or a bare point, or as an infinity or not-a-number.**
-/
theorem SerdeJson.convert_stringified_numbers_iff (serde : SerdeJson) {buf : List Char}
    {v : Json Number} (hbuf : serde.fromSlice buf = .ok v) :
    (∃ w, convertStringifiedNumbers serde.numberFromStr v = .ok w ∧ w.values = readNumbers v ∧
        serde.jsonDeserialize buf true = (serde.fromValue w).mapError .serde) ↔
      isStrict v = true := by
  rw [← convert_eq_readNumbers_iff serde.readsNumbers v]
  have hmap : (convertStringifiedNumbers serde.numberFromStr v).map Json.values = _ :=
    convert_mapNumber serde.numberFromStr Number.value v
  unfold Json.values at hmap ⊢
  rw [← hmap]
  constructor
  · rintro ⟨w, hw, hvalues, -⟩
    rw [hw]
    exact congrArg Except.ok hvalues
  · intro h
    cases hw : convertStringifiedNumbers serde.numberFromStr v with
    | error e =>
        rw [hw] at h
        cases h
    | ok w =>
        rw [hw] at h
        refine ⟨w, rfl, Except.ok.inj h, ?_⟩
        unfold jsonDeserialize
        rw [if_pos rfl, hbuf]
        change (convertStringifiedNumbers serde.numberFromStr v).bind _ = _
        rw [hw]
        rfl

/-! ## Documents that do not come back, and one that does -/

/-- A reader that keeps the texts of numbers, and opens at most 127 arrays and objects. -/
def SerdeJson.verbatim : SerdeJson where
  fromSlice buf := (Json.read 127 buf).mapError fun
    | .recursionLimitExceeded => "recursion limit exceeded"
    | .malformed => "expected value"
  fromValue := .ok
  numberFromStr s :=
    if h : NumberText.isNumber s.toList = true then .ok ⟨s, h⟩ else .error "invalid number"
  reads_back v hv hdepth := by
    rw [Json.read_write 127 v (Bool.and_eq_true_iff.mp hv).1, if_pos (Nat.le_of_lt_succ hdepth)]
    rfl
  too_deep v hv hdepth := by
    rw [Json.read_write 127 v (Bool.and_eq_true_iff.mp hv).1, if_neg (Nat.not_le_of_lt hdepth)]
    exact ⟨_, rfl⟩
  keeps_values _ _ := rfl
  accepts s hs := by
    rw [dif_pos hs]
    rfl
  refuses s hs := ⟨_, dif_neg (by rw [hs]; decide)⟩

/-- An amount, a name that is not numeric, and a price with a plus. -/
def stringifiedOrder : Json Number :=
  .object [("amount", .string "12"), ("name", .string "infinite"), ("price", .string "+1")]

/-- The amount is read as a number, and the name and the price as strings. -/
theorem stringifiedOrder_converted :
    ∃ w, convertStringifiedNumbers SerdeJson.verbatim.numberFromStr stringifiedOrder = .ok w ∧
      w.values = .object [("amount", .number 12), ("name", .string "infinite"),
        ("price", .string "+1")] ∧
      SerdeJson.verbatim.jsonDeserialize (stringifiedOrder.write Number.chars) true = .ok w := by
  have hread : SerdeJson.verbatim.fromSlice (stringifiedOrder.write Number.chars) =
      .ok stringifiedOrder := rfl
  have htwelve : NumberText.value "12".toList = 12 := by decide +kernel
  obtain ⟨w, hw, hvalues, hjson⟩ :=
    (SerdeJson.convert_stringified_numbers_iff SerdeJson.verbatim hread).mpr (by decide)
  refine ⟨w, hw, hvalues.trans ?_, hjson⟩
  rw [← htwelve]
  rfl

/-- A name that Rust reads as an `f64`. -/
def nanName : Json Number := .object [("name", .string "nan")]

def plusAmount : Json Number := .object [("amount", .string "+1")]

/-- Both bodies are JSON, and the conversion fails on them. -/
theorem nan_and_plus_refused :
    (SerdeJson.verbatim.fromSlice (nanName.write Number.chars) = .ok nanName ∧
      SerdeJson.verbatim.jsonDeserialize (nanName.write Number.chars) true =
        .error (.serde "invalid number")) ∧
    SerdeJson.verbatim.fromSlice (plusAmount.write Number.chars) = .ok plusAmount ∧
      SerdeJson.verbatim.jsonDeserialize (plusAmount.write Number.chars) true =
        .error (.serde "invalid number") :=
  ⟨⟨rfl, rfl⟩, rfl, rfl⟩

end RelayerExtensions.Auth
