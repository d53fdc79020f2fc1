import RelayerExtensions.Lib.Hex
import RelayerExtensions.Lib.NumberText

/-!
# JSON documents

Documents over any type of number, a compact writer that is told how to write a
number, and a reader of documents whose numbers are kept as their text. The reader
refuses to open more than a given number of nested arrays and objects.

An object is the list of its entries. The reader keeps one entry to a key, and the keys in
order; `isOrdered` says that of all objects of a document. Such a document is read back as
it was written, unless it is too deep (`read_write`).
-/

inductive Json (ν : Type) where
  | null
  | bool (b : Bool)
  | number (n : ν)
  | string (s : String)
  | array (items : List (Json ν))
  | object (entries : List (String × Json ν))

namespace Json

variable {ν μ : Type} {c : Char} {p : List String → Bool}

/-- Induction over a document, with a hypothesis for everything in an array or object. -/
@[elab_as_elim]
theorem induct {motive : Json ν → Prop} (null : motive .null) (bool : ∀ b, motive (.bool b))
    (number : ∀ n, motive (.number n)) (string : ∀ s, motive (.string s))
    (array : ∀ items, (∀ v ∈ items, motive v) → motive (.array items))
    (object : ∀ entries, (∀ e ∈ entries, motive e.2) → motive (.object entries)) (v : Json ν) :
    motive v := by
  refine @Json.rec ν motive (fun items => ∀ v ∈ items, motive v)
    (fun entries => ∀ e ∈ entries, motive e.2) (fun e => motive e.2)
    null bool number string array object ?_ ?_ ?_ ?_ ?_ v
  · intro v hv
    exact absurd hv List.not_mem_nil
  · intro v items hv hitems w hw
    rcases List.mem_cons.mp hw with rfl | hw
    · exact hv
    · exact hitems w hw
  · intro e he
    exact absurd he List.not_mem_nil
  · intro e entries he hentries e' he'
    rcases List.mem_cons.mp he' with rfl | he'
    · exact he
    · exact hentries e' he'
  · intro k v hv
    exact hv

/-! ## Documents -/

/-- The value of a key; null if there is none. -/
def field (v : Json ν) (name : String) : Json ν :=
  match v with
  | .object entries => ((entries.find? (·.1 == name)).map (·.2)).getD .null
  | _ => .null

/-- An item of an array; null if there is none. -/
def item (v : Json ν) (i : Nat) : Json ν :=
  match v with
  | .array items => items[i]?.getD .null
  | _ => .null

def asStr : Json ν → Option String
  | .string s => some s
  | _ => none

def asArray : Json ν → Option (List (Json ν))
  | .array items => some items
  | _ => none

mutual

def depth : Json ν → Nat
  | .array items => depthItems items + 1
  | .object entries => depthEntries entries + 1
  | _ => 0

def depthItems : List (Json ν) → Nat
  | [] => 0
  | v :: items => max v.depth (depthItems items)

def depthEntries : List (String × Json ν) → Nat
  | [] => 0
  | (_, v) :: entries => max v.depth (depthEntries entries)

end

mutual

/-- The keys of every object are as `p` wants them. -/
def keysAll (p : List String → Bool) : Json ν → Bool
  | .array items => keysAllItems p items
  | .object entries => p (entries.map Prod.fst) && keysAllEntries p entries
  | _ => true

def keysAllItems (p : List String → Bool) : List (Json ν) → Bool
  | [] => true
  | v :: items => v.keysAll p && keysAllItems p items

def keysAllEntries (p : List String → Bool) : List (String × Json ν) → Bool
  | [] => true
  | (_, v) :: entries => v.keysAll p && keysAllEntries p entries

end

/-- Every object has its keys in order, each once. -/
def isOrdered (v : Json ν) : Bool := v.keysAll fun keys => decide (keys.Pairwise (· < ·))

mutual

/-- Put something else in the place of each number. -/
def mapNumber (f : ν → Json μ) : Json ν → Json μ
  | .null => .null
  | .bool b => .bool b
  | .number n => f n
  | .string s => .string s
  | .array items => .array (mapItems f items)
  | .object entries => .object (mapEntries f entries)

def mapItems (f : ν → Json μ) : List (Json ν) → List (Json μ)
  | [] => []
  | v :: items => v.mapNumber f :: mapItems f items

def mapEntries (f : ν → Json μ) : List (String × Json ν) → List (String × Json μ)
  | [] => []
  | (k, v) :: entries => (k, v.mapNumber f) :: mapEntries f entries

end

theorem keysAllItems_iff {items : List (Json ν)} :
    keysAllItems p items = true ↔ ∀ v ∈ items, v.keysAll p = true := by
  induction items with
  | nil => simp [keysAllItems]
  | cons v items ih => simp [keysAllItems, ih]

theorem keysAllEntries_iff {entries : List (String × Json ν)} :
    keysAllEntries p entries = true ↔ ∀ e ∈ entries, e.2.keysAll p = true := by
  induction entries with
  | nil => simp [keysAllEntries]
  | cons e entries ih => simp [keysAllEntries, ih]

/-- A character inside a string. -/
def escape (c : Char) : List Char :=
  if c = '"' then ['\\', '"']
  else if c = '\\' then ['\\', '\\']
  else if c = '\x08' then ['\\', 'b']
  else if c = '\x0c' then ['\\', 'f']
  else if c = '\n' then ['\\', 'n']
  else if c = '\r' then ['\\', 'r']
  else if c = '\t' then ['\\', 't']
  else if c.toNat < 32 then '\\' :: 'u' :: Hex.digits 4 c.toNat
  else [c]

def quote (s : String) : List Char := '"' :: (s.toList.flatMap escape ++ ['"'])

mutual

def write (w : ν → List Char) : Json ν → List Char
  | .null => ['n', 'u', 'l', 'l']
  | .bool true => ['t', 'r', 'u', 'e']
  | .bool false => ['f', 'a', 'l', 's', 'e']
  | .number n => w n
  | .string s => quote s
  | .array [] => ['[', ']']
  | .array (v :: items) => '[' :: (v.write w ++ writeItems w items)
  | .object [] => ['{', '}']
  | .object ((k, v) :: entries) => '{' :: (quote k ++ ':' :: (v.write w ++ writeEntries w entries))

/-- The items after the first, and the end of the array. -/
def writeItems (w : ν → List Char) : List (Json ν) → List Char
  | [] => [']']
  | v :: items => ',' :: (v.write w ++ writeItems w items)

def writeEntries (w : ν → List Char) : List (String × Json ν) → List Char
  | [] => ['}']
  | (k, v) :: entries => ',' :: (quote k ++ ':' :: (v.write w ++ writeEntries w entries))

end

/-- A number, as its exact text. -/
structure Number where
  text : String
  valid : NumberText.isNumber text.toList = true
deriving DecidableEq

def Number.chars (n : Number) : List Char := n.text.toList

def Number.value (n : Number) : Rat := NumberText.value n.chars

/-- The document with its numbers as numbers, however they are written. -/
def values (v : Json Number) : Json Rat := v.mapNumber fun n => .number n.value

inductive ReadError where
  | recursionLimitExceeded
  | malformed
deriving DecidableEq

def isSpace (c : Char) : Bool := c = ' ' || c = '\n' || c = '\t' || c = '\r'

def skipSpace (cs : List Char) : List Char := cs.dropWhile isSpace

/-- Four hexadecimal digits. -/
def readUnit (cs : List Char) : Option (Nat × List Char) :=
  (Hex.exactly 4 (cs.take 4)).map fun n => (n, cs.drop 4)

/-- A character by its code, which takes two units above `0xffff`. -/
def readCode (cs : List Char) : Option (Char × List Char) :=
  (readUnit cs).bind fun hi =>
    if hi.1 < 0xd800 ∨ 0xdfff < hi.1 then some (Char.ofNat hi.1, hi.2)
    else if hi.1 < 0xdc00 ∧ hi.2.take 2 = ['\\', 'u'] then
      (readUnit (hi.2.drop 2)).bind fun lo =>
        if 0xdc00 ≤ lo.1 ∧ lo.1 ≤ 0xdfff then
          some (Char.ofNat (0x10000 + (hi.1 - 0xd800) * 0x400 + (lo.1 - 0xdc00)), lo.2)
        else none
    else none

/-- What a backslash stands for, by what follows it. -/
def readEscape : List Char → Option (Char × List Char)
  | [] => none
  | c :: r =>
      if c = '"' ∨ c = '\\' ∨ c = '/' then some (c, r)
      else if c = 'b' then some ('\x08', r)
      else if c = 'f' then some ('\x0c', r)
      else if c = 'n' then some ('\n', r)
      else if c = 'r' then some ('\r', r)
      else if c = 't' then some ('\t', r)
      else if c = 'u' then readCode r
      else none

/-- The characters up to the closing quote. -/
def readChars : Nat → List Char → Except ReadError (List Char × List Char)
  | 0, _ => .error .malformed
  | _ + 1, [] => .error .malformed
  | fuel + 1, c :: r =>
      if c = '"' then .ok ([], r)
      else if c = '\\' then
        match readEscape r with
        | none => .error .malformed
        | some x => (readChars fuel x.2).map fun y => (x.1 :: y.1, y.2)
      else if c.toNat < 32 then .error .malformed
      else (readChars fuel r).map fun y => (c :: y.1, y.2)

/-- A document that is no array and no object. -/
def readScalar (fuel : Nat) (cs : List Char) : Except ReadError (Json Number × List Char) :=
  if cs.take 4 = ['n', 'u', 'l', 'l'] then .ok (.null, cs.drop 4)
  else if cs.take 4 = ['t', 'r', 'u', 'e'] then .ok (.bool true, cs.drop 4)
  else if cs.take 5 = ['f', 'a', 'l', 's', 'e'] then .ok (.bool false, cs.drop 5)
  else if cs.head? = some '"' then
    (readChars fuel cs.tail).map fun x => (.string (String.ofList x.1), x.2)
  else match NumberText.number cs with
    | none => .error .malformed
    | some x =>
        if h : NumberText.isNumber (String.ofList x.1).toList = true then
          .ok (.number ⟨String.ofList x.1, h⟩, x.2)
        else .error .malformed

/-- A later entry for a key replaces an earlier one. -/
def insertEntry (entries : List (String × ν)) (e : String × ν) : List (String × ν) :=
  match entries with
  | [] => [e]
  | e' :: rest =>
      if e'.1 < e.1 then e' :: insertEntry rest e
      else if e'.1 = e.1 then e :: rest
      else e :: e' :: rest

def collect (entries : List (String × ν)) : List (String × ν) := entries.foldl insertEntry []

/-- Go one level down. -/
def deeper {α : Type} (limit : Nat) (k : Nat → Except ReadError α) : Except ReadError α :=
  match limit with
  | 0 => .error .recursionLimitExceeded
  | limit + 1 => k limit

mutual

def readValue : Nat → Nat → List Char → Except ReadError (Json Number × List Char)
  | 0, _, _ => .error .malformed
  | fuel + 1, limit, cs =>
      match skipSpace cs with
      | [] => .error .malformed
      | c :: r =>
          if c = '[' then deeper limit fun limit =>
            -- a first item is read as one that follows a comma
            (if (skipSpace r).head? = some ']' then .ok ([], (skipSpace r).tail)
              else readItems fuel limit (',' :: r)).map fun x => (.array x.1, x.2)
          else if c = '{' then deeper limit fun limit =>
            (if (skipSpace r).head? = some '}' then .ok ([], (skipSpace r).tail)
              else readEntries fuel limit (',' :: r)).map fun x => (.object (collect x.1), x.2)
          else readScalar fuel (c :: r)

def readItems : Nat → Nat → List Char → Except ReadError (List (Json Number) × List Char)
  | 0, _, _ => .error .malformed
  | fuel + 1, limit, cs =>
      match skipSpace cs with
      | [] => .error .malformed
      | c :: r =>
          if c = ']' then .ok ([], r)
          else if c = ',' then
            (readValue fuel limit r).bind fun v =>
              (readItems fuel limit v.2).map fun x => (v.1 :: x.1, x.2)
          else .error .malformed

def readEntries :
    Nat → Nat → List Char → Except ReadError (List (String × Json Number) × List Char)
  | 0, _, _ => .error .malformed
  | fuel + 1, limit, cs =>
      match skipSpace cs with
      | [] => .error .malformed
      | c :: r =>
          if c = '}' then .ok ([], r)
          else if c = ',' ∧ (skipSpace r).head? = some '"' then
            (readChars fuel (skipSpace r).tail).bind fun k =>
              if (skipSpace k.2).head? = some ':' then
                (readValue fuel limit (skipSpace k.2).tail).bind fun v =>
                  (readEntries fuel limit v.2).map fun x => ((String.ofList k.1, v.1) :: x.1, x.2)
              else .error .malformed
          else .error .malformed

end

/-- Read a whole text, with at most so many arrays and objects inside one another. -/
def read (limit : Nat) (cs : List Char) : Except ReadError (Json Number) :=
  (readValue (2 * cs.length) limit cs).bind fun x =>
    if skipSpace x.2 = [] then .ok x.1 else .error .malformed

/-! ## Reading back what was written -/

theorem skipSpace_cons (hc : isSpace c = false) (r : List Char) : skipSpace (c :: r) = c :: r :=
  List.dropWhile_cons_of_neg (by rw [hc]; decide)

theorem readUnit_digits {n : Nat} (hn : n < 16 ^ 4) (r : List Char) :
    readUnit (Hex.digits 4 n ++ r) = some (n, r) := by
  have hlen := Hex.length_digits 4 n
  unfold readUnit
  rw [List.take_left' hlen, List.drop_left' hlen, Hex.exactly_digits hn]
  rfl

/-- A character that is escaped by its code. -/
theorem readCode_digits (hc : c.toNat < 32) (r : List Char) :
    readCode (Hex.digits 4 c.toNat ++ r) = some (c, r) := by
  have hn : c.toNat < 16 ^ 4 := Nat.lt_trans hc (by decide)
  have hlow : c.toNat < 0xd800 := Nat.lt_trans hc (by decide)
  unfold readCode
  rw [readUnit_digits hn, Option.bind_some, if_pos (Or.inl hlow), Char.ofNat_toNat]

theorem readChars_backslash (fuel : Nat) {r r' : List Char} (h : readEscape r = some (c, r')) :
    readChars (fuel + 1) ('\\' :: r) = (readChars fuel r').map fun y => (c :: y.1, y.2) := by
  rw [readChars, if_neg (by decide), if_pos rfl, h]

/-- A character is written with a backslash, and read back from what follows it, or as it is. -/
theorem escape_cases (c : Char) :
    (∃ e, escape c = '\\' :: e ∧ ∀ r, readEscape (e ++ r) = some (c, r)) ∨
      escape c = [c] ∧ c ≠ '"' ∧ c ≠ '\\' ∧ ¬ c.toNat < 32 := by
  by_cases hquote : c = '"'
  · subst hquote
    exact .inl ⟨['"'], rfl, fun _ => rfl⟩
  by_cases hslash : c = '\\'
  · subst hslash
    exact .inl ⟨['\\'], rfl, fun _ => rfl⟩
  by_cases hb : c = '\x08'
  · subst hb
    exact .inl ⟨['b'], rfl, fun _ => rfl⟩
  by_cases hf : c = '\x0c'
  · subst hf
    exact .inl ⟨['f'], rfl, fun _ => rfl⟩
  by_cases hn : c = '\n'
  · subst hn
    exact .inl ⟨['n'], rfl, fun _ => rfl⟩
  by_cases hr : c = '\r'
  · subst hr
    exact .inl ⟨['r'], rfl, fun _ => rfl⟩
  by_cases ht : c = '\t'
  · subst ht
    exact .inl ⟨['t'], rfl, fun _ => rfl⟩
  have hplain : escape c =
      if c.toNat < 32 then '\\' :: 'u' :: Hex.digits 4 c.toNat else [c] := by
    rw [escape, if_neg hquote, if_neg hslash, if_neg hb, if_neg hf, if_neg hn, if_neg hr,
      if_neg ht]
  by_cases hctrl : c.toNat < 32
  · have hcode : ∀ cs, readEscape ('u' :: cs) = readCode cs := fun _ => rfl
    rw [hplain, if_pos hctrl]
    refine .inl ⟨'u' :: Hex.digits 4 c.toNat, rfl, fun r => ?_⟩
    rw [List.cons_append, hcode]
    exact readCode_digits hctrl r
  · rw [hplain, if_neg hctrl]
    exact .inr ⟨rfl, hquote, hslash, hctrl⟩

theorem readChars_escape (fuel : Nat) (c : Char) (r : List Char) :
    readChars (fuel + 1) (escape c ++ r) = (readChars fuel r).map fun y => (c :: y.1, y.2) := by
  rcases escape_cases c with ⟨e, he, hread⟩ | ⟨he, hquote, hslash, hctrl⟩
  · rw [he]
    exact readChars_backslash fuel (hread r)
  · rw [he, List.singleton_append, readChars, if_neg hquote, if_neg hslash, if_neg hctrl]

theorem escape_ne_nil (c : Char) : escape c ≠ [] := by
  rcases escape_cases c with ⟨e, he, -⟩ | ⟨he, -⟩
  · rw [he]
    exact List.cons_ne_nil _ _
  · rw [he]
    exact List.cons_ne_nil _ _

theorem readChars_quote {fuel : Nat} (cs r : List Char)
    (hfuel : (cs.flatMap escape).length < fuel) :
    readChars fuel (cs.flatMap escape ++ '"' :: r) = .ok (cs, r) := by
  induction cs generalizing fuel with
  | nil =>
      cases fuel with
      | zero => exact absurd hfuel (Nat.not_lt_zero _)
      | succ fuel => rfl
  | cons c cs ih =>
      rw [List.flatMap_cons] at hfuel ⊢
      rw [List.length_append] at hfuel
      have hpos := List.length_pos_of_ne_nil (escape_ne_nil c)
      cases fuel with
      | zero => exact absurd hfuel (Nat.not_lt_zero _)
      | succ fuel =>
          rw [List.append_assoc, readChars_escape, ih (by omega)]
          rfl

theorem length_quote (s : String) : (quote s).length = (s.toList.flatMap escape).length + 2 := by
  rw [quote, List.length_cons, List.length_append, List.length_singleton]

theorem quote_append (s : String) (r : List Char) :
    quote s ++ r = '"' :: (s.toList.flatMap escape ++ '"' :: r) := by
  rw [quote, List.cons_append, List.append_assoc, List.singleton_append]

/-! ### Documents -/

/-- No space, and nothing that ends an array or an object. -/
def Starts (c : Char) : Prop := isSpace c = false ∧ c ≠ ']' ∧ c ≠ '}'

/-- The characters that tell a reader that what follows is no number. -/
def marks : List Char := [' ', '\n', '\t', '\r', ']', '}', '[', '{', 'n', 't', 'f', '"']

theorem Number.chars_head (n : Number) : ∃ c r, n.chars = c :: r ∧ c ∉ marks := by
  obtain ⟨c, r, heq, hc⟩ := NumberText.isNumber_head n.valid
  have hmarks : marks.all (fun b => !decide (b = '-' ∨ b.isDigit = true)) = true := by decide
  refine ⟨c, r, heq, fun hmem => ?_⟩
  have hmark := List.all_eq_true.mp hmarks c hmem
  rw [decide_eq_true hc] at hmark
  cases hmark

theorem starts_of_notMem_marks (h : c ∉ marks) : Starts c := by
  simp only [marks, List.mem_cons, List.not_mem_nil, or_false, not_or] at h
  obtain ⟨h₁, h₂, h₃, h₄, h₅, h₆, -⟩ := h
  exact ⟨by simp [isSpace, h₁, h₂, h₃, h₄], h₅, h₆⟩

theorem write_head (v : Json Number) : ∃ c r, v.write Number.chars = c :: r ∧ Starts c := by
  cases v with
  | null => exact ⟨'n', _, rfl, by decide, by decide, by decide⟩
  | bool b =>
      cases b with
      | false => exact ⟨'f', _, rfl, by decide, by decide, by decide⟩
      | true => exact ⟨'t', _, rfl, by decide, by decide, by decide⟩
  | number n =>
      obtain ⟨c, r, heq, hc⟩ := n.chars_head
      exact ⟨c, r, heq, starts_of_notMem_marks hc⟩
  | string s => exact ⟨'"', _, rfl, by decide, by decide, by decide⟩
  | array items =>
      cases items <;> exact ⟨'[', _, rfl, by decide, by decide, by decide⟩
  | object entries =>
      cases entries <;> exact ⟨'{', _, rfl, by decide, by decide, by decide⟩

theorem writeItems_stops (items : List (Json Number)) (r : List Char) :
    NumberText.Stops (writeItems Number.chars items ++ r) := by
  cases items <;> rfl

theorem writeEntries_stops (entries : List (String × Json Number)) (r : List Char) :
    NumberText.Stops (writeEntries Number.chars entries ++ r) := by
  cases entries <;> rfl

/-- What reading comes to, for something of that depth. -/
def within {α : Type} (limit d : Nat) (a : α) : Except ReadError α :=
  if d ≤ limit then .ok a else .error .recursionLimitExceeded

section Within

variable {α β : Type} {limit d e : Nat} {a : α} {b : β}

theorem ok_bind (k : α → Except ReadError β) : (Except.ok a).bind k = k a := rfl

theorem within_zero : within limit 0 a = .ok a := if_pos (Nat.zero_le limit)

theorem within_map (f : α → β) : (within limit d a).map f = within limit d (f a) := by
  unfold within
  split <;> rfl

theorem within_bind {k : α → Except ReadError β} (hk : k a = within limit e b) :
    (within limit d a).bind k = within limit (max d e) b := by
  unfold within at hk ⊢
  by_cases hd : d ≤ limit
  · rw [if_pos hd]
    refine Eq.trans hk ?_
    by_cases he : e ≤ limit
    · rw [if_pos he, if_pos (Nat.max_le.mpr ⟨hd, he⟩)]
    · rw [if_neg he, if_neg fun hmax => he (Nat.max_le.mp hmax).2]
  · rw [if_neg hd, if_neg fun hmax => hd (Nat.max_le.mp hmax).1]
    rfl

theorem deeper_within {k : Nat → Except ReadError α} (hk : ∀ limit, k limit = within limit d a) :
    deeper limit k = within limit (d + 1) a := by
  cases limit with
  | zero => rfl
  | succ limit =>
      refine (hk limit).trans ?_
      unfold within
      simp only [Nat.add_le_add_iff_right]

end Within

/-- The document is read back unless it is too deep, whatever comes behind it. -/
def ReadsBack (v : Json Number) : Prop :=
  ∀ fuel limit r, 2 * (v.write Number.chars).length ≤ fuel → NumberText.Stops r →
    readValue fuel limit (v.write Number.chars ++ r) = within limit v.depth (v, r)

theorem readValue_scalar (hs : isSpace c = false) (ha : c ≠ '[') (ho : c ≠ '{') (fuel limit : Nat)
    (r : List Char) :
    readValue (fuel + 1) limit (c :: r) = readScalar fuel (c :: r) := by
  rw [readValue, skipSpace_cons hs]
  exact (if_neg ha).trans (if_neg ho)

theorem readScalar_quote {fuel : Nat} (s : String) (r : List Char)
    (hfuel : (quote s).length ≤ fuel + 1) :
    readScalar fuel (quote s ++ r) = .ok (.string s, r) := by
  rw [length_quote] at hfuel
  rw [quote_append]
  have hchars : readChars fuel (s.toList.flatMap escape ++ '"' :: r) = .ok (s.toList, r) :=
    readChars_quote s.toList r (by omega)
  show (readChars fuel (s.toList.flatMap escape ++ '"' :: r)).map _ = _
  rw [hchars]
  exact congrArg (fun t => Except.ok (Json.string t, r)) String.ofList_toList

theorem readScalar_number (fuel : Nat) (n : Number) {r : List Char} (hr : NumberText.Stops r) :
    readScalar fuel (n.chars ++ r) = .ok (.number n, r) := by
  obtain ⟨c, t, heq, hc⟩ := n.chars_head
  have hne : ∀ b ∈ marks, c ≠ b := fun b hb h => hc (h ▸ hb)
  have hscan : NumberText.number (n.chars ++ r) = some (n.chars, r) :=
    NumberText.number_append n.valid hr
  have htake : ∀ {k : Nat} {b : Char} {bs : List Char}, b ∈ marks →
      (n.chars ++ r).take (k + 1) ≠ b :: bs := by
    intro k b bs hb h
    rw [heq] at h
    exact hne b hb (List.cons.inj h).1
  have hhead : (n.chars ++ r).head? ≠ some '"' := by
    intro h
    rw [heq] at h
    exact hne '"' (by decide) (Option.some.inj h)
  have hback : String.ofList n.chars = n.text := String.ofList_toList
  unfold readScalar
  rw [if_neg (htake (by decide)), if_neg (htake (by decide)), if_neg (htake (by decide)),
    if_neg hhead, hscan]
  simp only [hback, n.valid, dite_true]

theorem readsBack_scalar {v : Json Number} {t : List Char} (heq : v.write Number.chars = c :: t)
    (hs : isSpace c = false) (ha : c ≠ '[') (ho : c ≠ '{') (hdepth : v.depth = 0)
    (h : ∀ fuel r, (v.write Number.chars).length ≤ fuel + 1 → NumberText.Stops r →
      readScalar fuel (v.write Number.chars ++ r) = .ok (v, r)) : ReadsBack v := by
  intro fuel limit r hfuel hr
  rw [hdepth, within_zero]
  cases fuel with
  | zero =>
      rw [heq, List.length_cons] at hfuel
      omega
  | succ fuel =>
      have hscalar := h fuel r (by omega) hr
      rw [heq, List.cons_append] at hscalar ⊢
      rw [readValue_scalar hs ha ho]
      exact hscalar

theorem readItems_writeItems {items : List (Json Number)} (h : ∀ v ∈ items, ReadsBack v)
    {fuel : Nat} (limit : Nat) (r : List Char)
    (hfuel : 2 * (writeItems Number.chars items).length ≤ fuel + 1) :
    readItems fuel limit (writeItems Number.chars items ++ r) =
      within limit (depthItems items) (items, r) := by
  induction items generalizing fuel with
  | nil =>
      cases fuel with
      | zero => exact absurd hfuel (by decide)
      | succ fuel =>
          rw [depthItems, within_zero]
          rfl
  | cons v items ih =>
      rw [writeItems, List.length_cons, List.length_append] at hfuel
      cases fuel with
      | zero => omega
      | succ fuel =>
          have hv := h v List.mem_cons_self fuel limit (writeItems Number.chars items ++ r)
            (by omega) (writeItems_stops items r)
          have hrest : readItems fuel limit (writeItems Number.chars items ++ r) =
              within limit (depthItems items) (items, r) :=
            ih (fun w hw => h w (List.mem_cons_of_mem v hw)) (by omega)
          rw [writeItems, List.cons_append, List.append_assoc, readItems,
            skipSpace_cons (by decide)]
          show (readValue fuel limit _).bind _ = _
          rw [hv, depthItems]
          refine within_bind ?_
          rw [hrest, within_map]

theorem readEntries_writeEntries {entries : List (String × Json Number)}
    (h : ∀ e ∈ entries, ReadsBack e.2) {fuel : Nat} (limit : Nat) (r : List Char)
    (hfuel : 2 * (writeEntries Number.chars entries).length ≤ fuel + 1) :
    readEntries fuel limit (writeEntries Number.chars entries ++ r) =
      within limit (depthEntries entries) (entries, r) := by
  induction entries generalizing fuel with
  | nil =>
      cases fuel with
      | zero => exact absurd hfuel (by decide)
      | succ fuel =>
          rw [depthEntries, within_zero]
          rfl
  | cons e entries ih =>
      obtain ⟨k, v⟩ := e
      rw [writeEntries, List.length_cons, List.length_append, List.length_cons,
        List.length_append, length_quote] at hfuel
      cases fuel with
      | zero => omega
      | succ fuel =>
          have hv : ReadsBack v := h (k, v) List.mem_cons_self
          have hrest : readEntries fuel limit (writeEntries Number.chars entries ++ r) =
              within limit (depthEntries entries) (entries, r) :=
            ih (fun e he => h e (List.mem_cons_of_mem (k, v) he)) (by omega)
          rw [writeEntries, List.cons_append, List.append_assoc, List.cons_append,
            List.append_assoc, quote_append, readEntries, skipSpace_cons (by decide)]
          dsimp only
          rw [if_neg (by decide), skipSpace_cons (by decide), if_pos ⟨rfl, rfl⟩, List.tail_cons,
            readChars_quote k.toList _ (by omega), ok_bind]
          dsimp only
          rw [skipSpace_cons (by decide), if_pos List.head?_cons, List.tail_cons,
            hv fuel limit _ (by omega) (writeEntries_stops entries r), depthEntries]
          refine within_bind ?_
          rw [hrest, within_map, String.ofList_toList]

/-! ### Objects, as the reader keeps them -/

theorem insertEntry_last {entries : List (String × ν)} {e : String × ν}
    (h : ∀ e' ∈ entries, e'.1 < e.1) : insertEntry entries e = entries ++ [e] := by
  induction entries with
  | nil => rfl
  | cons e' entries ih =>
      rw [insertEntry, if_pos (h e' List.mem_cons_self),
        ih fun e'' he'' => h e'' (List.mem_cons_of_mem e' he'')]
      rfl

theorem collect_of_pairwise {entries : List (String × ν)}
    (h : (entries.map Prod.fst).Pairwise (· < ·)) : collect entries = entries := by
  suffices hfold : ∀ rest acc : List (String × ν),
      ((acc ++ rest).map Prod.fst).Pairwise (· < ·) → rest.foldl insertEntry acc = acc ++ rest from
    hfold entries [] h
  intro rest
  induction rest with
  | nil =>
      intro acc _
      rw [List.append_nil, List.foldl_nil]
  | cons e rest ih =>
      intro acc hpair
      have hlast : ∀ e' ∈ acc, e'.1 < e.1 := by
        intro e' he'
        rw [List.map_append, List.map_cons, List.pairwise_append] at hpair
        exact hpair.2.2 e'.1 (List.mem_map_of_mem he') e.1 List.mem_cons_self
      have hassoc : acc ++ [e] ++ rest = acc ++ e :: rest := by
        rw [List.append_assoc, List.singleton_append]
      rw [List.foldl_cons, insertEntry_last hlast, ih (acc ++ [e]) (by rw [hassoc]; exact hpair),
        hassoc]

/-- The first item of an array does not end it. -/
theorem head?_skipSpace_write (v : Json Number) (r : List Char) :
    (skipSpace (v.write Number.chars ++ r)).head? ≠ some ']' := by
  obtain ⟨c, t, heq, hs, hc, -⟩ := write_head v
  rw [heq, List.cons_append, skipSpace_cons hs]
  exact fun h => hc (Option.some.inj h)

theorem readsBack_array {items : List (Json Number)} (h : ∀ v ∈ items, ReadsBack v) :
    ReadsBack (.array items) := by
  intro fuel limit r hfuel _
  cases items with
  | nil =>
      cases fuel with
      | zero => exact absurd hfuel (by decide)
      | succ fuel =>
          refine deeper_within (d := 0) fun limit => ?_
          rw [within_zero]
          rfl
  | cons v items =>
      rw [write, List.length_cons] at hfuel
      cases fuel with
      | zero => omega
      | succ fuel =>
          have hrest (limit : Nat) := @readItems_writeItems (v :: items) h fuel limit r
          rw [writeItems, List.length_cons] at hrest
          rw [write, List.cons_append, readValue, skipSpace_cons (by decide), depth]
          refine deeper_within fun limit => ?_
          rw [if_neg (by rw [List.append_assoc]; exact head?_skipSpace_write v _),
            ← List.cons_append, hrest limit (by omega), within_map]

theorem readsBack_object {entries : List (String × Json Number)}
    (hkeys : (entries.map Prod.fst).Pairwise (· < ·)) (h : ∀ e ∈ entries, ReadsBack e.2) :
    ReadsBack (.object entries) := by
  intro fuel limit r hfuel _
  cases entries with
  | nil =>
      cases fuel with
      | zero => exact absurd hfuel (by decide)
      | succ fuel =>
          refine deeper_within (d := 0) fun limit => ?_
          rw [within_zero]
          rfl
  | cons e entries =>
      obtain ⟨k, v⟩ := e
      rw [write, List.length_cons] at hfuel
      cases fuel with
      | zero => omega
      | succ fuel =>
          have hrest (limit : Nat) := @readEntries_writeEntries ((k, v) :: entries) h fuel limit r
          rw [writeEntries, List.length_cons] at hrest
          rw [write, List.cons_append, readValue, skipSpace_cons (by decide), depth]
          refine deeper_within fun limit => ?_
          have hopen : (skipSpace (quote k ++ ':' :: (v.write Number.chars ++
              writeEntries Number.chars entries) ++ r)).head? ≠ some '}' := by
            rw [List.append_assoc, quote_append, skipSpace_cons (by decide)]
            exact fun h => absurd (Option.some.inj h) (by decide)
          rw [if_neg hopen, ← List.cons_append, hrest limit (by omega), within_map,
            collect_of_pairwise hkeys]

theorem readsBack (v : Json Number) (hv : v.isOrdered = true) : ReadsBack v := by
  induction v using Json.induct with
  | null =>
      exact readsBack_scalar rfl (by decide) (by decide) (by decide) rfl fun fuel r _ _ => rfl
  | bool b =>
      cases b <;>
        exact readsBack_scalar rfl (by decide) (by decide) (by decide) rfl fun fuel r _ _ => rfl
  | number n =>
      obtain ⟨c, t, heq, hc⟩ := n.chars_head
      refine readsBack_scalar heq (starts_of_notMem_marks hc).1 ?_ ?_ rfl
        fun fuel r _ hr => readScalar_number fuel n hr
      · exact fun h => hc (h ▸ by decide)
      · exact fun h => hc (h ▸ by decide)
  | string s =>
      exact readsBack_scalar rfl (by decide) (by decide) (by decide) rfl
        fun fuel r hfuel _ => readScalar_quote s r hfuel
  | array items ih =>
      exact readsBack_array fun v hmem => ih v hmem (keysAllItems_iff.mp hv v hmem)
  | object entries ih =>
      rw [isOrdered, keysAll, Bool.and_eq_true, decide_eq_true_eq] at hv
      exact readsBack_object hv.1 fun e he => ih e he (keysAllEntries_iff.mp hv.2 e he)

/-- **An ordered document is read back as it was written, unless it is too deep.** -/
theorem read_write (limit : Nat) (v : Json Number) (hv : v.isOrdered = true) :
    read limit (v.write Number.chars) =
      if v.depth ≤ limit then .ok v else .error .recursionLimitExceeded := by
  have hvalue := readsBack v hv (2 * (v.write Number.chars).length) limit [] (Nat.le_refl _)
    NumberText.stops_nil
  rw [List.append_nil] at hvalue
  unfold read
  rw [hvalue]
  unfold within
  by_cases hd : v.depth ≤ limit
  · rw [if_pos hd, if_pos hd, ok_bind]
    rfl
  · rw [if_neg hd, if_neg hd]
    rfl

end Json
