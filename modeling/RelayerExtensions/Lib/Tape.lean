import Mathlib.Data.Stream.Init

/-!
# Computations that draw from a random tape

All the randomness a computation will ever see is fixed in advance, as two
infinite streams: one of field elements, one of coin flips. A draw takes the
next element of a stream. Quantifying over the tape is then quantifying over
every outcome of the draws.

`Yields m t k b a` says that on the tape `t` the computation `m` returns `a`,
having used exactly `k` elements and `b` coins. Keeping the counts is what lets a
later draw be located on the original tape.
-/

/-- The draws a computation will see. -/
structure Tape (F : Type) where
  /-- The field elements, in the order they are drawn. -/
  scalars : Stream' F
  /-- The coin flips, in the order they are drawn. -/
  bits : Stream' Bool

namespace Tape

variable {ε F α β : Type}

/-- The tape after `k` elements and `b` coins have been used. -/
def skip (t : Tape F) (k b : Nat) : Tape F := ⟨t.scalars.drop k, t.bits.drop b⟩

theorem skip_skip (t : Tape F) (k b k' b' : Nat) :
    (t.skip k b).skip k' b' = t.skip (k + k') (b + b') := by
  simp [skip, Stream'.drop_drop]

/-- A computation that draws from a tape, and may stop with an `ε`. -/
abbrev Draw (ε F α : Type) := StateT (Tape F) (Except ε) α

def scalar : Draw ε F F := fun t => .ok (t.scalars.head, t.skip 1 0)

def bit : Draw ε F Bool := fun t => .ok (t.bits.head, t.skip 0 1)

/-- Draw `n` times from the same source. -/
def repeatDraw (m : Draw ε F α) : Nat → Draw ε F (List α)
  | 0 => pure []
  | n + 1 => do
      let x ← m
      let xs ← repeatDraw m n
      return x :: xs

/-- On the tape `t`, `m` returns `a` and uses exactly `k` elements and `b` coins. -/
def Yields (m : Draw ε F α) (t : Tape F) (k b : Nat) (a : α) : Prop :=
  m t = .ok (a, t.skip k b)

theorem yields_pure (t : Tape F) (a : α) : Yields (pure a : Draw ε F α) t 0 0 a := rfl

theorem yields_ok (t : Tape F) (a : α) :
    Yields (liftM (Except.ok a : Except ε α) : Draw ε F α) t 0 0 a := rfl

variable {m : Draw ε F α} {f : α → Draw ε F β} {t : Tape F}

/-- **Running on**: what follows a computation starts at the value it returned, on the
rest of the tape. -/
theorem Yields.bind_eq {k b : Nat} {a : α}
    (hm : Yields m t k b a) : (m >>= f) t = f a (t.skip k b) := by
  change (m t >>= fun p => f p.1 p.2) = _
  rw [hm]
  rfl

/-- A computation that stops, stops everything after it. -/
theorem bind_error {e : ε} (hm : m t = .error e) : (m >>= f) t = .error e := by
  change (m t >>= fun p => f p.1 p.2) = _
  rw [hm]
  rfl

theorem Yields.bind {k b k' b' : Nat} {a : α} {c : β} (hm : Yields m t k b a)
    (hf : Yields (f a) (t.skip k b) k' b' c) :
    Yields (m >>= f) t (k + k') (b + b') c := by
  unfold Yields
  rw [hm.bind_eq, hf, skip_skip]

/-- The counts may be written in any way that adds up. -/
theorem Yields.cast {k b k' b' : Nat} {a : α} (h : Yields m t k b a) (hk : k = k')
    (hb : b = b') : Yields m t k' b' a := by
  subst hk; subst hb; exact h

/-- One more draw, in front of the others. -/
theorem Yields.cons {n : Nat} {k b k' b' : Nat} {x : α} {xs : List α} (hx : Yields m t k b x)
    (hxs : Yields (repeatDraw m n) (t.skip k b) k' b' xs) :
    Yields (repeatDraw m (n + 1)) t (k + k') (b + b') (x :: xs) :=
  hx.bind (f := fun x => repeatDraw m n >>= fun xs => pure (x :: xs))
    (hxs.bind (f := fun xs => pure (x :: xs)) (yields_pure _ _))

theorem yields_scalars : ∀ (n : Nat) (t : Tape F),
    Yields (repeatDraw (scalar : Draw ε F F) n) t n 0 (t.scalars.take n)
  | 0, t => yields_pure t []
  | n + 1, t => by
      have hhead : Yields (scalar : Draw ε F F) t 1 0 t.scalars.head := rfl
      exact (hhead.cons (yields_scalars n _)).cast (Nat.add_comm 1 n) rfl

theorem yields_bits : ∀ (n : Nat) (t : Tape F),
    Yields (repeatDraw (bit : Draw ε F Bool) n) t 0 n (t.bits.take n)
  | 0, t => yields_pure t []
  | n + 1, t => by
      have hhead : Yields (bit : Draw ε F Bool) t 0 1 t.bits.head := rfl
      exact (hhead.cons (yields_bits n _)).cast rfl (Nat.add_comm 1 n)

end Tape
