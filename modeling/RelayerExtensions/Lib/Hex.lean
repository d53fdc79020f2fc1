import Mathlib.Algebra.Group.Nat.Defs
import Mathlib.Data.Nat.Basic

/-!
# Fixed-width hexadecimal text

Numbers below `16 ^ w` written with exactly `w` digits, most significant first and
in lower case, behind `0x`. Reading is more generous than writing: the marker may
be missing and the digits may be in either case, but there have to be `w` of them.
-/

namespace Hex

/-- The lowest `w` digits of a number. -/
def digits : Nat → Nat → List Char
  | 0, _ => []
  | w + 1, n => digits w (n / 16) ++ [Nat.digitChar (n % 16)]

def digitVal (c : Char) : Option Nat :=
  if '0' ≤ c ∧ c ≤ '9' then some (c.toNat - '0'.toNat)
  else if 'a' ≤ c ∧ c ≤ 'f' then some (c.toNat - 'a'.toNat + 10)
  else if 'A' ≤ c ∧ c ≤ 'F' then some (c.toNat - 'A'.toNat + 10)
  else none

/-- The number a list of digits stands for. -/
def value (cs : List Char) : Option Nat :=
  cs.foldlM (fun acc c => (digitVal c).map (16 * acc + ·)) 0

def format (w n : Nat) : String := String.ofList ('0' :: 'x' :: digits w n)

/-- Read exactly `w` digits. -/
def exactly (w : Nat) (cs : List Char) : Option Nat := if cs.length = w then value cs else none

def parse (w : Nat) (s : String) : Option Nat :=
  match s.toList with
  | '0' :: 'x' :: cs => exactly w cs
  | cs => exactly w cs

@[simp] theorem length_digits : ∀ w n, (digits w n).length = w
  | 0, _ => rfl
  | w + 1, n => by rw [digits, List.length_append, length_digits w, List.length_singleton]

theorem digitVal_digitChar {d : Nat} (h : d < 16) : digitVal (Nat.digitChar d) = some d := by
  revert d
  decide

theorem value_append_singleton (cs : List Char) (c : Char) :
    value (cs ++ [c]) = (value cs).bind fun acc => (digitVal c).map (16 * acc + ·) := by
  unfold value
  rw [List.foldlM_append]
  simp

/-- Reading back the lowest `w` digits of a number loses what is above them. -/
theorem value_digits : ∀ w n, value (digits w n) = some (n % 16 ^ w)
  | 0, n => by
      rw [Nat.pow_zero, Nat.mod_one]
      rfl
  | w + 1, n => by
      have hlow : n % 16 < 16 := Nat.mod_lt _ (by decide)
      rw [digits, value_append_singleton, value_digits w, digitVal_digitChar hlow,
        Option.bind_some, Option.map_some, Nat.pow_succ, Nat.mul_comm (16 ^ w), Nat.mod_mul,
        Nat.add_comm]

theorem exactly_digits {w n : Nat} (h : n < 16 ^ w) : exactly w (digits w n) = some n := by
  rw [exactly, if_pos (length_digits w n), value_digits, Nat.mod_eq_of_lt h]

/-- **What was written is read back.** -/
theorem parse_format {w n : Nat} (h : n < 16 ^ w) : parse w (format w n) = some n := by
  unfold parse format
  rw [String.toList_ofList]
  exact exactly_digits h

example : format 4 0xbeef = "0xbeef" := by decide

example : parse 4 "BeEf" = some 0xbeef ∧ parse 4 "0xbee" = none := by decide

end Hex
