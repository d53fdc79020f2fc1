import Mathlib.Algebra.Field.Rat
import Mathlib.Data.List.Basic
import Mathlib.Data.List.TakeWhile

/-!
# Numbers as text

Two grammars for the text of a number. JSON's (`number`): an optional minus, an integer
without leading zeros, then a fraction and an exponent, each with at least one digit.
And that of a parser of floating-point numbers (`isFloat`), which also takes a plus, leading
zeros, a point with digits on one side only, and the names of what is not finite. These are
all the differences between the two (`isNumber_iff`).

A scanner takes the longest piece it can off the front of a text. What it takes does
not depend on what follows, as long as what follows could not be part of a number
(`Stops`); `Local` says so, and holds of a sequence if it holds of the parts.

Different texts may stand for the same number (`value`).
-/

namespace NumberText

/-- What is taken off the front of a text, and the rest. -/
abbrev Scanner := List Char → Option (List Char × List Char)

def one (p : Char → Bool) : Scanner
  | [] => none
  | c :: cs => if p c then some ([c], cs) else none

/-- As many digits as there are, and at least one. -/
def digits : Scanner := fun cs =>
  if cs.takeWhile Char.isDigit = [] then none
  else some (cs.takeWhile Char.isDigit, cs.dropWhile Char.isDigit)

def seq (f g : Scanner) : Scanner := fun cs =>
  (f cs).bind fun x => (g x.2).map fun y => (x.1 ++ y.1, y.2)

/-- A piece that is there if its first character is. -/
def opt (p : Char → Bool) (f : Scanner) : Scanner := fun cs =>
  if cs.head?.any p then f cs else some ([], cs)

def isSign (c : Char) : Bool := c = '+' || c = '-'

def isE (c : Char) : Bool := c = 'e' || c = 'E'

/-- No digit may follow a leading zero. -/
def integer : Scanner := fun cs =>
  if cs.head? = some '0' && cs.tail.head?.any Char.isDigit then none else digits cs

def fraction : Scanner := seq (one (· = '.')) digits

def exponent : Scanner := seq (one isE) (seq (opt isSign (one isSign)) digits)

def number : Scanner :=
  seq (opt (· = '-') (one (· = '-')))
    (seq integer (seq (opt (· = '.') fraction) (opt isE exponent)))

/-- The whole text is a JSON number. -/
def isNumber (cs : List Char) : Bool := number cs = some (cs, [])

/-- Digits with a point before, between or after them, or with none. -/
def mantissa : Scanner := fun cs =>
  if (cs.dropWhile Char.isDigit).head? = some '.' then
    if cs.takeWhile Char.isDigit = [] ∧
        (cs.dropWhile Char.isDigit).tail.takeWhile Char.isDigit = [] then none
    else some (cs.takeWhile Char.isDigit ++
        '.' :: (cs.dropWhile Char.isDigit).tail.takeWhile Char.isDigit,
      (cs.dropWhile Char.isDigit).tail.dropWhile Char.isDigit)
  else digits cs

def unsigned (cs : List Char) : List Char := if cs.head?.any isSign then cs.tail else cs

/-- Infinity and not-a-number, in any case. -/
def isNonFinite (cs : List Char) : Bool :=
  ["inf".toList, "infinity".toList, "nan".toList].contains (cs.map Char.toLower)

/-- The whole text is a floating-point number. -/
def isFloat (cs : List Char) : Bool :=
  isNonFinite (unsigned cs) ||
    (seq mantissa (opt isE exponent) (unsigned cs)).any fun x => x.2.isEmpty

/-! ## What a number stands for -/

/-- Digits, in base ten. -/
def natValue (ds : List Char) : Nat := ds.foldl (fun n d => 10 * n + (d.toNat - '0'.toNat)) 0

def intValue (cs : List Char) : Int :=
  if cs.head? = some '-' then -(natValue (unsigned cs) : Int) else natValue (unsigned cs)

/-- The digits after the point. -/
def decimals (cs : List Char) : List Char :=
  let rest := (unsigned cs).dropWhile Char.isDigit
  if rest.head? = some '.' then rest.tail.takeWhile Char.isDigit else []

/-- The number that the text of a JSON number stands for: its digits without the point, shifted by
the exponent. -/
def value (cs : List Char) : Rat :=
  let exponent := intValue (cs.dropWhile fun c => !isE c).tail
  let digits := natValue ((unsigned cs).takeWhile Char.isDigit ++ decimals cs)
  (if cs.head? = some '-' then -1 else 1) * digits * 10 ^ (exponent - (decimals cs).length)

/-- Other ways to write a zero, a power of ten and a fraction. -/
example : value "-0".toList = value "0".toList ∧ value "1e5".toList = value "1e+5".toList ∧
    value "-0.00000012".toList = value "-1.2E-7".toList := by
  decide +kernel

/-! ## What follows a number -/

/-- A character that could be part of a number. -/
def isPart (c : Char) : Bool := c.isDigit || c = '.' || isE c || isSign c

/-- No number goes on into this text. -/
def Stops (r : List Char) : Prop := r.head?.any isPart = false

/-- Whatever follows is left alone. -/
def Local (f : Scanner) : Prop :=
  ∀ t u v r, f t = some (u, v) → Stops r → f (t ++ r) = some (u, v ++ r)

theorem stops_nil : Stops [] := rfl

theorem Stops.head {r : List Char} (h : Stops r) {p : Char → Bool}
    (hp : ∀ c, p c = true → isPart c = true) : r.head?.any p = false := by
  cases r with
  | nil => rfl
  | cons c r =>
      have hc : isPart c = false := h
      cases hpc : p c with
      | false => exact hpc
      | true => exact absurd (hp c hpc) (by rw [hc]; decide)

theorem isPart_of_isDigit (c : Char) (h : c.isDigit = true) : isPart c = true := by
  simp [isPart, h]

theorem takeWhile_append_stops {r : List Char} (h : Stops r) (t : List Char) :
    (t ++ r).takeWhile Char.isDigit = t.takeWhile Char.isDigit ∧
      (t ++ r).dropWhile Char.isDigit = t.dropWhile Char.isDigit ++ r := by
  induction t with
  | nil =>
      have hd := h.head isPart_of_isDigit
      cases r with
      | nil => exact ⟨rfl, rfl⟩
      | cons c r =>
          have hc : ¬ c.isDigit = true := by
            rw [show c.isDigit = false from hd]
            decide
          exact ⟨List.takeWhile_cons_of_neg hc, List.dropWhile_cons_of_neg hc⟩
  | cons c t ih =>
      by_cases hc : c.isDigit = true
      · rw [List.cons_append, List.takeWhile_cons_of_pos hc, List.takeWhile_cons_of_pos hc,
          List.dropWhile_cons_of_pos hc, List.dropWhile_cons_of_pos hc, ih.1, ih.2]
        exact ⟨rfl, rfl⟩
      · rw [List.cons_append, List.takeWhile_cons_of_neg hc, List.takeWhile_cons_of_neg hc,
          List.dropWhile_cons_of_neg hc, List.dropWhile_cons_of_neg hc]
        exact ⟨rfl, rfl⟩

theorem local_one (p : Char → Bool) : Local (one p) := by
  intro t u v r h hr
  cases t with
  | nil => exact absurd h (by simp [one])
  | cons c t =>
      rw [List.cons_append]
      rw [one] at h ⊢
      split at h
      · next hc =>
          cases h
          exact if_pos hc
      · cases h

theorem local_digits : Local digits := by
  intro t u v r h hr
  obtain ⟨htake, hdrop⟩ := takeWhile_append_stops hr t
  unfold digits at h ⊢
  rw [htake, hdrop]
  split at h
  · cases h
  · next hne =>
      cases h
      exact if_neg hne

variable {f g : Scanner}

theorem Local.seq (hf : Local f) (hg : Local g) : Local (seq f g) := by
  intro t u v r h hr
  obtain ⟨x, hx, h⟩ := Option.bind_eq_some_iff.mp h
  obtain ⟨y, hy, h⟩ := Option.map_eq_some_iff.mp h
  cases h
  unfold NumberText.seq
  rw [hf t x.1 x.2 r hx hr, Option.bind_some, hg x.2 y.1 y.2 r hy hr]
  rfl

theorem head?_append_any {t : List Char} (r : List Char) (ht : t ≠ []) (p : Char → Bool) :
    (t ++ r).head?.any p = t.head?.any p := by
  cases t with
  | nil => exact absurd rfl ht
  | cons c t => rfl

theorem Local.opt {p : Char → Bool} {f : Scanner} (hp : ∀ c, p c = true → isPart c = true)
    (hf : Local f) : Local (opt p f) := by
  intro t u v r h hr
  by_cases ht : t = []
  · subst ht
    obtain ⟨rfl, rfl⟩ : [] = u ∧ [] = v := Prod.mk.inj (Option.some.inj h)
    show (if r.head?.any p then f r else some ([], r)) = _
    rw [hr.head hp]
    rfl
  · unfold NumberText.opt at h ⊢
    rw [head?_append_any r ht]
    split at h
    · next hany =>
        rw [if_pos hany]
        exact hf t u v r h hr
    · next hany =>
        cases h
        exact if_neg hany

theorem isPart_of_isE (c : Char) (h : isE c = true) : isPart c = true := by
  simp [isPart, h]

theorem isPart_of_isSign (c : Char) (h : isSign c = true) : isPart c = true := by
  simp [isPart, h]

theorem local_integer : Local integer := by
  intro t u v r h hr
  unfold integer at h ⊢
  have hzero : ((t ++ r).head? = some '0' && (t ++ r).tail.head?.any Char.isDigit) =
      (t.head? = some '0' && t.tail.head?.any Char.isDigit) := by
    cases t with
    | nil =>
        split at h <;> cases h
    | cons c t =>
        rw [List.cons_append, List.tail_cons, List.tail_cons, List.head?_cons, List.head?_cons]
        by_cases ht : t = []
        · subst ht
          rw [List.nil_append, hr.head isPart_of_isDigit]
          rfl
        · rw [head?_append_any r ht]
  rw [hzero]
  split at h
  · cases h
  · next hne =>
      rw [if_neg hne]
      exact local_digits t u v r h hr

theorem local_exponent : Local exponent :=
  (local_one isE).seq (((local_one isSign).opt isPart_of_isSign).seq local_digits)

/-- A number is read the same whatever it is followed by. -/
theorem local_number : Local number := by
  have hsign : Local (opt (· = '-') (one (· = '-'))) :=
    (local_one _).opt fun c hc => isPart_of_isSign c (by simp_all [isSign])
  have hfraction : Local (opt (· = '.') fraction) :=
    ((local_one _).seq local_digits).opt fun c hc => by simp_all [isPart]
  exact hsign.seq (local_integer.seq (hfraction.seq (local_exponent.opt isPart_of_isE)))

theorem number_append {t r : List Char} (ht : isNumber t = true) (hr : Stops r) :
    number (t ++ r) = some (t, r) :=
  local_number t t [] r (of_decide_eq_true ht) hr

/-! ## What a number is made of -/

/-- Only characters of numbers are taken. -/
def Takes (f : Scanner) : Prop := ∀ t u r, f t = some (u, r) → ∀ c ∈ u, isPart c = true

theorem seq_some {t w r : List Char} (h : seq f g t = some (w, r)) :
    ∃ u v s, f t = some (u, s) ∧ g s = some (v, r) ∧ w = u ++ v := by
  obtain ⟨x, hx, h⟩ := Option.bind_eq_some_iff.mp h
  obtain ⟨y, hy, h⟩ := Option.map_eq_some_iff.mp h
  cases h
  exact ⟨x.1, y.1, x.2, hx, hy, rfl⟩

variable {t u r : List Char}

theorem digits_some (h : digits t = some (u, r)) :
    t.takeWhile Char.isDigit = u ∧ t.dropWhile Char.isDigit = r ∧ u ≠ [] := by
  unfold digits at h
  split at h
  · cases h
  · next hne =>
      cases h
      exact ⟨rfl, rfl, hne⟩

theorem integer_some (h : integer t = some (u, r)) : digits t = some (u, r) := by
  unfold integer at h
  split at h
  · cases h
  · exact h

theorem Takes.seq (hf : Takes f) (hg : Takes g) : Takes (seq f g) := by
  intro t u r h c hc
  obtain ⟨x, y, s, hx, hy, rfl⟩ := seq_some h
  rcases List.mem_append.mp hc with hc | hc
  · exact hf t x s hx c hc
  · exact hg s y r hy c hc

theorem Takes.opt {f : Scanner} (hf : Takes f) (p : Char → Bool) : Takes (opt p f) := by
  intro t u r h c hc
  unfold NumberText.opt at h
  split at h
  · exact hf t u r h c hc
  · obtain ⟨rfl, -⟩ := Prod.mk.inj (Option.some.inj h)
    exact absurd hc List.not_mem_nil

theorem digits_head (h : digits t = some (u, r)) : ∃ c t', t = c :: t' ∧ c.isDigit = true := by
  obtain ⟨htake, -, hne⟩ := digits_some h
  cases t with
  | nil => exact absurd htake.symm hne
  | cons c t =>
      refine ⟨c, t, rfl, ?_⟩
      by_contra hc
      rw [List.takeWhile_cons_of_neg hc] at htake
      exact hne htake.symm

/-- The parts of a number, behind the minus if there is one. -/
theorem number_some {t w r : List Char} (h : number t = some (w, r)) :
    ∃ t₁ i t₂ f t₃ e, (t = '-' :: t₁ ∨ t = t₁) ∧ integer t₁ = some (i, t₂) ∧
      opt (· = '.') fraction t₂ = some (f, t₃) ∧ opt isE exponent t₃ = some (e, r) := by
  obtain ⟨m, _, t₁, hm, hrest, _⟩ := seq_some h
  obtain ⟨i, _, t₂, hi, hrest', _⟩ := seq_some hrest
  obtain ⟨f, e, t₃, hf, he, _⟩ := seq_some hrest'
  refine ⟨t₁, i, t₂, f, t₃, e, ?_, hi, hf, he⟩
  cases t with
  | nil => exact .inr (Prod.mk.inj (Option.some.inj hm)).2
  | cons c t =>
      by_cases hc : c = '-'
      · subst hc
        obtain ⟨-, rfl⟩ : ['-'] = m ∧ t = t₁ := Prod.mk.inj (Option.some.inj hm)
        exact .inl rfl
      · have hnone : ((c :: t).head?.any fun c => decide (c = '-')) = false := by
          simpa using hc
        unfold opt at hm
        rw [hnone] at hm
        exact .inr (Prod.mk.inj (Option.some.inj hm)).2

theorem isNumber_head {t : List Char} (h : isNumber t = true) :
    ∃ c t', t = c :: t' ∧ (c = '-' ∨ c.isDigit = true) := by
  obtain ⟨t₁, i, t₂, f, t₃, e, hm, hi, -⟩ := number_some (of_decide_eq_true h)
  rcases hm with rfl | rfl
  · exact ⟨'-', t₁, rfl, .inl rfl⟩
  · obtain ⟨c, t', rfl, hc⟩ := digits_head (integer_some hi)
    exact ⟨c, t', rfl, .inr hc⟩

/-- What starts with a digit has no sign. -/
theorem unsigned_of_digits (h : digits t = some (u, r)) : unsigned t = t := by
  obtain ⟨c, t', rfl, hc⟩ := digits_head h
  have hsign : isSign c = false := by
    cases hs : isSign c with
    | false => rfl
    | true =>
        rcases (by simpa [isSign] using hs : c = '+' ∨ c = '-') with rfl | rfl
        · exact absurd hc (by decide)
        · exact absurd hc (by decide)
  unfold unsigned
  rw [List.head?_cons, Option.any_some, hsign]
  rfl

theorem unsigned_of_number {t t₁ u r : List Char} (hm : t = '-' :: t₁ ∨ t = t₁)
    (hi : digits t₁ = some (u, r)) : unsigned t = t₁ := by
  rcases hm with rfl | rfl
  · rfl
  · exact unsigned_of_digits hi

/-- There is no point, or there are digits after it. -/
theorem fraction_cases {r v s : List Char} (hf : opt (· = '.') fraction r = some (v, s)) :
    (r.head? ≠ some '.' ∧ v = [] ∧ s = r) ∨
      ∃ r' d, r = '.' :: r' ∧ digits r' = some (d, s) ∧ v = '.' :: d := by
  cases r with
  | nil =>
      obtain ⟨rfl, rfl⟩ : [] = v ∧ [] = s := Prod.mk.inj (Option.some.inj hf)
      exact .inl ⟨(Option.some_ne_none _).symm, rfl, rfl⟩
  | cons c r =>
      by_cases hc : c = '.'
      · subst hc
        have hf : seq (one (· = '.')) digits ('.' :: r) = some (v, s) := hf
        obtain ⟨x, d, z, hx, hd, rfl⟩ := seq_some hf
        obtain ⟨rfl, rfl⟩ : ['.'] = x ∧ r = z := Prod.mk.inj (Option.some.inj hx)
        exact .inr ⟨r, d, rfl, hd, rfl⟩
      · have hnone : ((c :: r).head?.any fun c => decide (c = '.')) = false := by
          simpa using hc
        unfold opt at hf
        rw [hnone] at hf
        obtain ⟨rfl, rfl⟩ : [] = v ∧ c :: r = s := Prod.mk.inj (Option.some.inj hf)
        exact .inl ⟨fun h => hc (Option.some.inj h), rfl, rfl⟩

theorem mantissa_of_integer {t u r v s : List Char} (hi : digits t = some (u, r))
    (hf : opt (· = '.') fraction r = some (v, s)) : mantissa t = some (u ++ v, s) := by
  obtain ⟨htake, hdrop, hne⟩ := digits_some hi
  unfold mantissa
  rw [htake, hdrop]
  rcases fraction_cases hf with ⟨hpoint, rfl, rfl⟩ | ⟨r', d, rfl, hd, rfl⟩
  · rw [if_neg hpoint, List.append_nil]
    exact hi
  · obtain ⟨htake', hdrop', -⟩ := digits_some hd
    rw [List.head?_cons, if_pos rfl, List.tail_cons, htake', hdrop', if_neg (fun h => hne h.1)]

/-- **Every JSON number parses as a floating-point number.** -/
theorem isFloat_of_isNumber {t : List Char} (h : isNumber t = true) : isFloat t = true := by
  obtain ⟨t₁, i, t₂, f, t₃, e, hm, hi, hf, he⟩ := number_some (of_decide_eq_true h)
  have hi := integer_some hi
  -- behind the minus, if there is one, both parsers see the same text
  have hbody : unsigned t = t₁ := unsigned_of_number hm hi
  have hall : seq mantissa (opt isE exponent) t₁ = some (i ++ f ++ e, []) := by
    unfold seq
    rw [mantissa_of_integer hi hf, Option.bind_some, he]
    rfl
  unfold isFloat
  rw [hbody, hall]
  simp

/-! ## Where the two grammars differ -/

/-- A digit follows a leading zero. -/
def hasLeadingZero (cs : List Char) : Bool :=
  cs.head? = some '0' && cs.tail.head?.any Char.isDigit

/-- The point has no digit before it, or none after it. -/
def hasBarePoint (cs : List Char) : Bool :=
  (cs.dropWhile Char.isDigit).head? = some '.' &&
    (cs.takeWhile Char.isDigit = [] || (cs.dropWhile Char.isDigit).tail.takeWhile Char.isDigit = [])

/-- What the second grammar is more generous with. -/
def isLoose (cs : List Char) : Bool :=
  cs.head? = some '+' || isNonFinite (unsigned cs) || hasLeadingZero (unsigned cs) ||
    hasBarePoint (unsigned cs)

/-- What is taken and the rest are the text. -/
def Splits (f : Scanner) : Prop := ∀ t u r, f t = some (u, r) → t = u ++ r

theorem splits_one (p : Char → Bool) : Splits (one p) := by
  intro t u r h
  cases t with
  | nil => cases h
  | cons c t =>
      rw [one] at h
      split at h
      · cases h
        rfl
      · cases h

theorem splits_digits : Splits digits := by
  intro t u r h
  obtain ⟨rfl, rfl, -⟩ := digits_some h
  exact List.takeWhile_append_dropWhile.symm

theorem Splits.seq (hf : Splits f) (hg : Splits g) : Splits (seq f g) := by
  intro t u r h
  obtain ⟨x, y, s, hx, hy, rfl⟩ := seq_some h
  rw [hf t x s hx, hg s y r hy, List.append_assoc]

theorem Splits.opt {f : Scanner} (hf : Splits f) (p : Char → Bool) : Splits (opt p f) := by
  intro t u r h
  unfold NumberText.opt at h
  split at h
  · exact hf t u r h
  · cases h
    rfl

theorem splits_number : Splits number := by
  have hexponent : Splits exponent :=
    (splits_one isE).seq (((splits_one isSign).opt isSign).seq splits_digits)
  have hfraction : Splits fraction := (splits_one _).seq splits_digits
  have hinteger : Splits integer := fun t u r h => splits_digits t u r (integer_some h)
  exact ((splits_one _).opt _).seq (hinteger.seq ((hfraction.opt _).seq (hexponent.opt _)))

theorem seq_eq_some {t u v s r : List Char} (hf : f t = some (u, s))
    (hg : g s = some (v, r)) : seq f g t = some (u ++ v, r) := by
  unfold seq
  rw [hf, Option.bind_some, hg]
  rfl

/-- Behind the sign, a mantissa without a bare point is an integer and perhaps a fraction. -/
theorem digits_of_mantissa {t m r : List Char} (hm : mantissa t = some (m, r))
    (hpoint : hasBarePoint t = false) :
    ∃ i s f, digits t = some (i, s) ∧ opt (· = '.') fraction s = some (f, r) := by
  unfold mantissa at hm
  by_cases hdot : (t.dropWhile Char.isDigit).head? = some '.'
  · obtain ⟨s, hs⟩ : ∃ s, t.dropWhile Char.isDigit = '.' :: s := by
      cases hd : t.dropWhile Char.isDigit with
      | nil =>
          rw [hd] at hdot
          cases hdot
      | cons c s =>
          rw [hd] at hdot
          cases hdot
          exact ⟨s, rfl⟩
    unfold hasBarePoint at hpoint
    rw [hs, List.head?_cons, List.tail_cons] at hm hpoint
    have hsides : t.takeWhile Char.isDigit ≠ [] ∧ s.takeWhile Char.isDigit ≠ [] := by
      simpa using hpoint
    rw [if_pos rfl, if_neg fun h => hsides.1 h.1] at hm
    obtain ⟨-, rfl⟩ := Prod.mk.inj (Option.some.inj hm)
    refine ⟨t.takeWhile Char.isDigit, '.' :: s, '.' :: s.takeWhile Char.isDigit, ?_, ?_⟩
    · unfold digits
      rw [if_neg hsides.1, hs]
    · have hone : one (· = '.') ('.' :: s) = some (['.'], s) := rfl
      exact seq_eq_some hone (if_neg hsides.2)
  · rw [if_neg hdot] at hm
    refine ⟨m, r, [], hm, ?_⟩
    obtain ⟨-, rfl, -⟩ := digits_some hm
    unfold opt
    rw [if_neg]
    cases hd : t.dropWhile Char.isDigit with
    | nil => exact Bool.false_ne_true
    | cons c s =>
        rw [hd] at hdot
        simpa using hdot

/-- A text that starts with a digit does not name what is not finite. -/
theorem isNonFinite_of_digits (h : digits t = some (u, r)) : isNonFinite t = false := by
  obtain ⟨c, t', rfl, hc⟩ := digits_head h
  have hlower : c.toLower = c := by
    refine dif_neg fun hupper => ?_
    have hnine : c.val ≤ 57 := (by simpa [Char.isDigit] using hc : _ ∧ _).2
    exact absurd (UInt32.le_trans hupper.1 hnine) (by decide)
  have hi : c ≠ 'i' := fun h => absurd hc (by rw [h]; decide)
  have hn : c ≠ 'n' := fun h => absurd hc (by rw [h]; decide)
  simp [isNonFinite, hlower, hi, hn]

theorem hasBarePoint_of_integer {t u r v s : List Char} (hi : digits t = some (u, r))
    (hf : opt (· = '.') fraction r = some (v, s)) : hasBarePoint t = false := by
  obtain ⟨htake, hdrop, hne⟩ := digits_some hi
  unfold hasBarePoint
  rw [htake, hdrop]
  rcases fraction_cases hf with ⟨hpoint, -, -⟩ | ⟨r', d, rfl, hd, -⟩
  · simp [hpoint]
  · obtain ⟨htake', -, hne'⟩ := digits_some hd
    simp [htake', hne, hne']

theorem integer_of_digits (h : digits t = some (u, r))
    (hzero : hasLeadingZero t = false) : integer t = some (u, r) := by
  have hplain : integer t = if hasLeadingZero t then none else digits t := rfl
  rw [hplain, hzero]
  exact h

theorem sign_of_not_plus {t : List Char} (hplus : t.head? ≠ some '+') :
    ∃ sign, opt (· = '-') (one (· = '-')) t = some (sign, unsigned t) := by
  cases t with
  | nil => exact ⟨[], rfl⟩
  | cons c t =>
      by_cases hc : c = '-'
      · subst hc
        exact ⟨['-'], rfl⟩
      · have hplus : c ≠ '+' := fun h => hplus (congrArg some h)
        refine ⟨[], ?_⟩
        simp [opt, unsigned, isSign, hc, hplus]

/-- **A JSON number is a floating-point number that nothing is loose about.** -/
theorem isNumber_iff {t : List Char} :
    isNumber t = true ↔ isFloat t = true ∧ isLoose t = false := by
  constructor
  · intro h
    obtain ⟨t₁, i, t₂, f, t₃, e, hm, hi, hf, he⟩ := number_some (of_decide_eq_true h)
    have hdigits := integer_some hi
    have hplus : t.head? ≠ some '+' := by
      intro hhead
      obtain ⟨c, t', rfl, hc⟩ := isNumber_head h
      cases hhead
      exact absurd hc (by decide)
    have hzero : hasLeadingZero t₁ = false := by
      cases hz : hasLeadingZero t₁ with
      | false => rfl
      | true =>
          have hnone : integer t₁ = none := if_pos hz
          rw [hnone] at hi
          cases hi
    refine ⟨isFloat_of_isNumber h, ?_⟩
    unfold isLoose
    rw [unsigned_of_number hm hdigits, isNonFinite_of_digits hdigits, hzero,
      hasBarePoint_of_integer hdigits hf]
    simpa using hplus
  · rintro ⟨hfloat, hloose⟩
    unfold isLoose at hloose
    obtain ⟨⟨⟨hplus, hnonFinite⟩, hzero⟩, hpoint⟩ :
        ((t.head? ≠ some '+' ∧ isNonFinite (unsigned t) = false) ∧
          hasLeadingZero (unsigned t) = false) ∧ hasBarePoint (unsigned t) = false := by
      simpa [Bool.or_eq_false_iff] using hloose
    unfold isFloat at hfloat
    rw [hnonFinite, Bool.false_or] at hfloat
    obtain ⟨⟨w, rest⟩, hscan, hrest⟩ := Option.any_eq_true _ _ |>.mp hfloat
    obtain rfl : rest = [] := List.isEmpty_iff.mp hrest
    obtain ⟨m, e, s, hm, he, -⟩ := seq_some hscan
    obtain ⟨i, s', f, hi, hf⟩ := digits_of_mantissa hm hpoint
    -- the pieces the second grammar has found are those of the first
    have hbody := seq_eq_some (integer_of_digits hi hzero) (seq_eq_some hf he)
    obtain ⟨sign, hsign⟩ := sign_of_not_plus hplus
    have hnumber : number t = some (sign ++ (i ++ (f ++ e)), []) := seq_eq_some hsign hbody
    have ht := splits_number t _ [] hnumber
    rw [List.append_nil] at ht
    rw [← ht] at hnumber
    exact decide_eq_true hnumber

/-- Each of the ways the second grammar is more generous. -/
example : ∀ t ∈ ["+1", "007", ".5", "1.", "inf", "-NaN"],
    isFloat t.toList = true ∧ isNumber t.toList = false := by
  decide

end NumberText
