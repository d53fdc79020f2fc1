import Mathlib.Logic.Function.Basic

/-!
# Readers that undo writers

A value is written as a list of bytes and read off the front of one. `Reads` relates
a reader to what was written: whatever follows, the reader takes exactly that off and
returns the value. Records are written field after field and read the same way, and
`Reads.bind` puts the fields together.

Numbers are written in unary, ended by a zero. That is not how anybody sends them, but
every number has one such form and reading it back is a single induction.
-/

namespace Codec

variable {α β : Type}

/-- Take a value off the front. -/
abbrev Reader (α : Type) := StateT (List UInt8) Option α

/-- The reader undoes what was written, and leaves alone what comes after. -/
def Reads (r : Reader α) (written : List UInt8) (a : α) : Prop :=
  ∀ rest, r.run (written ++ rest) = some (a, rest)

/-- Read a value that has to be all there is. -/
def whole (r : Reader α) (s : List UInt8) : Option α :=
  match r.run s with
  | some (a, []) => some a
  | _ => none

theorem reads_pure (a : α) : Reads (pure a) [] a := fun _ => rfl

theorem Reads.bind {r : Reader α} {k : α → Reader β} {written more : List UInt8} {a : α} {b : β}
    (hr : Reads r written a) (hk : Reads (k a) more b) : Reads (r >>= k) (written ++ more) b := by
  intro rest
  rw [StateT.run_bind, List.append_assoc, hr (more ++ rest)]
  exact hk rest

theorem Reads.whole {r : Reader α} {written : List UInt8} {a : α} (h : Reads r written a) :
    Codec.whole r written = some a := by
  have hall := h []
  rw [List.append_nil] at hall
  unfold Codec.whole
  rw [hall]

/-! ## Numbers -/

def writeNat : Nat → List UInt8
  | 0 => [0]
  | n + 1 => 1 :: writeNat n

/-- The number of bytes before the first zero. -/
def takeNat : List UInt8 → Option (Nat × List UInt8)
  | [] => none
  | b :: rest =>
      if b = 0 then some (0, rest) else (takeNat rest).map fun p => (p.1 + 1, p.2)

def readNat : Reader Nat := takeNat

theorem reads_nat : ∀ n, Reads readNat (writeNat n) n
  | 0, _ => rfl
  | n + 1, rest => by
      have ih := reads_nat n rest
      change takeNat (1 :: (writeNat n ++ rest)) = some (n + 1, rest)
      change takeNat (writeNat n ++ rest) = some (n, rest) at ih
      rw [takeNat, if_neg (by decide), ih]
      rfl

def writeBool (b : Bool) : List UInt8 := writeNat b.toNat

def readBool : Reader Bool := do return (← readNat) != 0

theorem reads_bool (b : Bool) : Reads readBool (writeBool b) b := by
  have h : Reads readBool (writeNat b.toNat ++ []) (b.toNat != 0) :=
    (reads_nat b.toNat).bind (reads_pure _)
  rw [List.append_nil] at h
  cases b <;> exact h

/-! ## Bytes, behind their length -/

def writeBytes (s : List UInt8) : List UInt8 := writeNat s.length ++ s

def takeBytes (n : Nat) (s : List UInt8) : Option (List UInt8 × List UInt8) :=
  if n ≤ s.length then some (s.take n, s.drop n) else none

def readBytes : Reader (List UInt8) := do
  let n ← readNat
  takeBytes n

theorem reads_bytes (s : List UInt8) : Reads readBytes (writeBytes s) s := by
  have htake : Reads (takeBytes s.length) s s := by
    intro rest
    change takeBytes s.length (s ++ rest) = some (s, rest)
    rw [takeBytes, if_pos (by simp)]
    simp
  exact (reads_nat s.length).bind htake

end Codec
