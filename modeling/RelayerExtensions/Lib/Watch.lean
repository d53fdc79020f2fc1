/-!
# Watch channels

A channel that keeps only the last value sent, and counts what was sent. A reader has a
cursor: the version it saw last, or nothing before its first read. What is assumed of a read is
a `Reader`: it returns the value if this version has not been seen, and otherwise waits, or ends
if nothing more can come. So a reader always gets the latest value and gets it once, and its
first read always returns something.
-/

namespace Watch

variable {α : Type}

structure Chan (α : Type) where
  value : α
  version : Nat
  /-- The sender is gone. -/
  closed : Bool
deriving DecidableEq

def Chan.new (init : α) : Chan α := ⟨init, 0, false⟩

def Chan.send (c : Chan α) (a : α) : Chan α := { c with value := a, version := c.version + 1 }

def Chan.close (c : Chan α) : Chan α := { c with closed := true }

/-- The version seen last. -/
abbrev Cursor := Option Nat

inductive Poll (α : Type) where
  | pending
  | ended
  | item (a : α)
deriving DecidableEq

/-- The channel holds something the reader has not seen. -/
def Chan.Unseen (c : Chan α) (seen : Cursor) : Prop := seen ≠ some c.version

instance (c : Chan α) (seen : Cursor) : Decidable (c.Unseen seen) :=
  inferInstanceAs (Decidable (_ ≠ _))

/-- A way to read, with what it has to do. -/
structure Reader (α : Type) where
  poll : Chan α → Cursor → Poll α × Cursor
  poll_unseen : ∀ {c : Chan α} {seen}, c.Unseen seen →
    poll c seen = (.item c.value, some c.version)
  poll_seen : ∀ {c : Chan α} {seen}, ¬ c.Unseen seen →
    poll c seen = (if c.closed then .ended else .pending, seen)

/-- The reader that compares versions. -/
def Reader.latest : Reader α where
  poll c seen :=
    if c.Unseen seen then (.item c.value, some c.version)
    else (if c.closed then .ended else .pending, seen)
  poll_unseen h := if_pos h
  poll_seen h := if_neg h

namespace Reader

/-- Read on as long as what comes is to be skipped, so many times at most. -/
def pollSkipping (r : Reader α) (c : Chan α) (skip : α → Bool) : Nat → Cursor → Poll α × Cursor
  | 0, seen => (.pending, seen)
  | n + 1, seen =>
      match r.poll c seen with
      | (.item a, seen') => if skip a then r.pollSkipping c skip n seen' else (.item a, seen')
      | polled => polled

variable {r : Reader α} {c : Chan α} {seen : Cursor} {skip : α → Bool}

/-- A read that returns a value was of the current one, and the reader has now seen it. -/
theorem poll_item {a : α} {seen' : Cursor} (h : r.poll c seen = (.item a, seen')) :
    c.Unseen seen ∧ a = c.value ∧ seen' = some c.version := by
  by_cases hu : c.Unseen seen
  · rw [r.poll_unseen hu] at h
    obtain ⟨ha, hs⟩ := Prod.mk.inj h
    exact ⟨hu, (Poll.item.inj ha).symm, hs.symm⟩
  · rw [r.poll_seen hu] at h
    have ha := (Prod.mk.inj h).1
    split at ha <;> cases ha

/-- Nothing new: the reader waits. -/
theorem pollSkipping_seen (h : ¬ c.Unseen seen) (n : Nat) :
    r.pollSkipping c skip (n + 1) seen = (if c.closed then .ended else .pending, seen) := by
  rw [pollSkipping, r.poll_seen h]
  cases c.closed <;> rfl

/-- Something new that is not skipped. -/
theorem pollSkipping_item (h : c.Unseen seen) (hskip : skip c.value = false) (n : Nat) :
    r.pollSkipping c skip (n + 1) seen = (.item c.value, some c.version) := by
  rw [pollSkipping, r.poll_unseen h]
  show (if skip c.value then _ else _) = _
  rw [hskip]
  rfl

/-- Something new that is skipped: the second read finds nothing. -/
theorem pollSkipping_skip (h : c.Unseen seen) (hskip : skip c.value = true) (n : Nat) :
    r.pollSkipping c skip (n + 2) seen =
      (if c.closed then .ended else .pending, some c.version) := by
  rw [pollSkipping, r.poll_unseen h]
  show (if skip c.value then r.pollSkipping c skip (n + 1) (some c.version) else _) = _
  rw [if_pos hskip, pollSkipping_seen fun h => h rfl]

/-- What is not skipped is the current value. -/
theorem pollSkipping_eq_item {n : Nat} {a : α} {seen' : Cursor}
    (h : r.pollSkipping c skip n seen = (.item a, seen')) :
    a = c.value ∧ skip a = false ∧ seen' = some c.version := by
  induction n generalizing seen with
  | zero => cases h
  | succ n ih =>
      rw [pollSkipping] at h
      split at h
      · next b seen₁ hp =>
          obtain ⟨-, hb, hs⟩ := poll_item hp
          split at h
          · exact ih h
          · next hkeep =>
              obtain ⟨hab, hss⟩ := Prod.mk.inj h
              have hab := Poll.item.inj hab
              subst hab
              exact ⟨hb, Bool.eq_false_iff.mpr hkeep, hss ▸ hs⟩
      · next hne =>
          exact absurd h (hne a seen')

end Reader

end Watch
