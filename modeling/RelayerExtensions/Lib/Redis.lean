import Mathlib.Algebra.Order.Ring.Rat
import Mathlib.Algebra.Group.Nat.Defs
import Mathlib.Logic.Function.Basic

/-!
# A Redis store of counters

The four commands a counter needs, each of them atomic: `GET`, `SET`, `INCRBYFLOAT`
and `EXPIREAT`. An entry is a number and the instant it expires at, if it has one. A
command runs at an instant of its own, and an entry that has expired by then is not
there for it, whether or not it was collected yet. Instants are in nanoseconds since the
epoch.

What is assumed of the commands is in `Commands`. They differ in what they do to an expiry, and
that is most of what there is to say: `INCRBYFLOAT` keeps the one it finds and gives a new entry
none, `SET` drops it, and `EXPIREAT` on an instant that is over deletes the entry.

The last part is what a script needs: replies reach Lua as strings, and in Lua a string
never equals a number, whatever it spells.
-/

namespace Redis

structure Entry where
  value : ℚ
  expiry : Option Nat
deriving DecidableEq

abbrev Store (κ : Type) := κ → Option Entry

/-- The entry is still there at that instant. -/
def Entry.live (e : Entry) (now : Nat) : Bool :=
  match e.expiry with
  | none => true
  | some x => decide (now ≤ x)

variable {κ : Type}

/-- What a command at `now` finds under `k`. -/
def Store.find (s : Store κ) (now : Nat) (k : κ) : Option Entry :=
  (s k).filter fun e => e.live now

/-- A counter that is not there counts as zero. -/
def Store.counter (s : Store κ) (now : Nat) (k : κ) : ℚ :=
  ((s.find now k).map Entry.value).getD 0

variable {now : Nat}

theorem Entry.live_of_no_expiry {e : Entry} (h : e.expiry = none) : e.live now = true := by
  rw [Entry.live, h]

variable {s : Store κ}

theorem find_eq_some {k : κ} {e : Entry} :
    s.find now k = some e ↔ s k = some e ∧ e.live now = true := by
  rw [Store.find, Option.filter_eq_some_iff]

/-- Nothing under `k` has expired by `now`. -/
def Store.Fresh (s : Store κ) (now : Nat) (k : κ) : Prop :=
  ∀ e, s k = some e → e.live now = true

instance (s : Store κ) (now : Nat) (k : κ) : Decidable (s.Fresh now k) :=
  match h : s k with
  | none => .isTrue fun _ he => nomatch h.symm.trans he
  | some e =>
      if hl : e.live now = true then .isTrue fun _ he => (Option.some.inj (h.symm.trans he)) ▸ hl
      else .isFalse fun hf => hl (hf e h)

/-- Without expired entries a command finds what the store holds. -/
theorem Store.Fresh.find_eq {k : κ} (h : s.Fresh now k) : s.find now k = s k := by
  rw [Store.find]
  cases hk : s k with
  | none => rfl
  | some e => rw [Option.filter_some, if_pos (h e hk)]

theorem Store.Fresh.counter_eq {k : κ} (h : s.Fresh now k) :
    s.counter now k = ((s k).map Entry.value).getD 0 := by
  rw [Store.counter, h.find_eq]

theorem counter_of_find {k : κ} {e : Entry}
    (h : s.find now k = some e) : s.counter now k = e.value := by
  rw [Store.counter, h, Option.map_some, Option.getD_some]

theorem counter_of_none {k : κ} (h : s.find now k = none) : s.counter now k = 0 := by
  rw [Store.counter, h, Option.map_none, Option.getD_none]

/-- The entry `INCRBYFLOAT` leaves. -/
def Store.bumped (s : Store κ) (now : Nat) (k : κ) (d : ℚ) : Entry :=
  { value := s.counter now k + d, expiry := (s.find now k).bind Entry.expiry }

/-- A bumped entry is as live as the one it was made from. -/
theorem bumped_live (s : Store κ) (now : Nat) (k : κ) (d : ℚ) :
    (s.bumped now k d).live now = true := by
  cases hf : s.find now k with
  | none => exact Entry.live_of_no_expiry (by rw [Store.bumped, hf]; rfl)
  | some e =>
      have hl := (find_eq_some.mp hf).2
      rw [Entry.live] at hl ⊢
      rw [Store.bumped, hf]
      exact hl

/-! ## Commands -/

/-- The commands, with what they have to do. `GET` and `EXPIREAT` find nothing under a key that
has expired; `EXPIREAT` changes no number, it sets the expiry or deletes the entry. -/
structure Commands (κ : Type) where
  get : Store κ → Nat → κ → Option ℚ
  set : Store κ → κ → ℚ → Store κ
  incrByFloat : Store κ → Nat → κ → ℚ → ℚ × Store κ
  expireAt : Store κ → Nat → κ → Nat → Bool × Store κ
  get_eq : ∀ s now k, get s now k = (s.find now k).map Entry.value
  set_self : ∀ s k v, set s k v k = some ⟨v, none⟩
  set_of_ne : ∀ {s k k' v}, k' ≠ k → set s k v k' = s k'
  incrByFloat_value : ∀ s now k d, (incrByFloat s now k d).1 = s.counter now k + d
  incrByFloat_self : ∀ s now k d, (incrByFloat s now k d).2 k = some (s.bumped now k d)
  incrByFloat_of_ne : ∀ {s now k k' d}, k' ≠ k → (incrByFloat s now k d).2 k' = s k'
  expireAt_self : ∀ s now k x,
    (s.find now k = none ∧ (expireAt s now k x).2 k = s k) ∨
      (x ≤ now ∧ (expireAt s now k x).2 k = none) ∨
      ∃ e, s.find now k = some e ∧ now < x ∧
        (expireAt s now k x).2 k = some { e with expiry := some x }
  expireAt_of_ne : ∀ {s now k k' x}, k' ≠ k → (expireAt s now k x).2 k' = s k'

namespace Commands

variable (redis : Commands κ) (s : Store κ) (now : Nat) (k : κ) (d : ℚ)

theorem getD_get : (redis.get s now k).getD 0 = s.counter now k := by
  rw [redis.get_eq, Store.counter]

theorem find_incrByFloat : (redis.incrByFloat s now k d).2.find now k = some (s.bumped now k d) :=
  find_eq_some.mpr ⟨redis.incrByFloat_self s now k d, bumped_live s now k d⟩

/-- **An increment taken back restores the number**, and leaves the expiry of the first. -/
theorem bumped_back :
    (redis.incrByFloat s now k d).2.bumped now k (-d) =
      { value := s.counter now k, expiry := (s.find now k).bind Entry.expiry } := by
  have hf := redis.find_incrByFloat s now k d
  rw [Store.bumped, hf, counter_of_find hf]
  have hv : (s.bumped now k d).value + -d = s.counter now k := by
    rw [Store.bumped, add_neg_cancel_right]
  rw [hv]
  rfl

end Commands

variable [DecidableEq κ]

def Store.expireAt (s : Store κ) (now : Nat) (k : κ) (x : Nat) : Bool × Store κ :=
  match s.find now k with
  | none => (false, s)
  | some e =>
      if x ≤ now then (true, Function.update s k none)
      else (true, Function.update s k (some { e with expiry := some x }))

theorem Store.expireAt_of_ne {k k' : κ} {x : Nat} (h : k' ≠ k) :
    (s.expireAt now k x).2 k' = s k' := by
  rw [Store.expireAt]
  cases s.find now k with
  | none => rfl
  | some e =>
      dsimp only
      split <;> exact Function.update_of_ne h ..

theorem Store.expireAt_self (s : Store κ) (now : Nat) (k : κ) (x : Nat) :
    (s.find now k = none ∧ (s.expireAt now k x).2 k = s k) ∨
      (x ≤ now ∧ (s.expireAt now k x).2 k = none) ∨
      ∃ e, s.find now k = some e ∧ now < x ∧
        (s.expireAt now k x).2 k = some { e with expiry := some x } := by
  rw [Store.expireAt]
  cases hf : s.find now k with
  | none => exact .inl ⟨rfl, rfl⟩
  | some e =>
      dsimp only
      by_cases hx : x ≤ now
      · rw [if_pos hx]
        exact .inr (.inl ⟨hx, Function.update_self ..⟩)
      · rw [if_neg hx]
        exact .inr (.inr ⟨e, rfl, not_le.mp hx, Function.update_self ..⟩)

/-- The commands as updates of the store. -/
def Commands.updates : Commands κ where
  get s now k := (s.find now k).map Entry.value
  set s k v := Function.update s k (some ⟨v, none⟩)
  incrByFloat s now k d :=
    ((s.bumped now k d).value, Function.update s k (some (s.bumped now k d)))
  expireAt := Store.expireAt
  get_eq _ _ _ := rfl
  set_self _ _ _ := Function.update_self ..
  set_of_ne h := Function.update_of_ne h ..
  incrByFloat_value _ _ _ _ := rfl
  incrByFloat_self _ _ _ _ := Function.update_self ..
  incrByFloat_of_ne h := Function.update_of_ne h ..
  expireAt_self := Store.expireAt_self
  expireAt_of_ne h := Store.expireAt_of_ne h

/-! ## Scripts -/

/-- The values a Lua script handles: numbers, and the strings that spell them. -/
inductive Lua where
  | number (q : ℚ)
  | string (q : ℚ)
deriving DecidableEq

/-- `tonumber` -/
def Lua.tonumber : Lua → ℚ
  | .number q => q
  | .string q => q

/-- `==` of Lua, which does not convert: values of different types are different. -/
def Lua.eq : Lua → Lua → Bool
  | .number a, .number b => decide (a = b)
  | .string a, .string b => decide (a = b)
  | _, _ => false

end Redis
