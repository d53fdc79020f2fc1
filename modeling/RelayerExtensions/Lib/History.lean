import Mathlib.Data.List.Basic

/-!
# Histories

A history is a list of entries, the oldest first, that grows at its end. What an entry has to
be often depends on the entries before it; `Each` says that every entry is as it should be.
-/

namespace History

variable {α : Type}

/-- Every entry is in the relation to the entries before it. -/
def Each (P : List α → α → Prop) (h : List α) : Prop :=
  ∀ before a after, h = before ++ a :: after → P before a

theorem each_nil (P : List α → α → Prop) : Each P [] := by
  intro before a after h
  exact absurd h.symm (List.append_ne_nil_of_right_ne_nil before (List.cons_ne_nil a after))

/-- A history that has grown by one entry. -/
theorem each_concat {P : List α → α → Prop} {h : List α} {a : α} :
    Each P (h ++ [a]) ↔ Each P h ∧ P h a := by
  constructor
  · intro hall
    refine ⟨fun before b after hb => ?_, hall h a [] rfl⟩
    exact hall before b (after ++ [a]) (by rw [hb, List.append_assoc, List.cons_append])
  · rintro ⟨hall, ha⟩ before b after hb
    rcases List.eq_nil_or_concat after with rfl | ⟨after, c, rfl⟩
    · obtain ⟨rfl, hlast⟩ := List.append_inj' hb rfl
      cases hlast
      exact ha
    · rw [List.concat_eq_append, ← List.cons_append, ← List.append_assoc] at hb
      exact hall before b after (List.append_inj' hb rfl).1

theorem each_iff {P : List α → α → Prop} {h : List α} :
    Each P h ↔ ∀ i (hi : i < h.length), P (h.take i) h[i] := by
  constructor
  · intro hall i hi
    refine hall (h.take i) h[i] (h.drop (i + 1)) ?_
    rw [← List.drop_eq_getElem_cons, List.take_append_drop]
  · intro hall before a after heq
    subst heq
    have hlt : before.length < (before ++ a :: after).length := by simp
    have hP := hall before.length hlt
    rw [List.take_left] at hP
    simpa using hP

/-- A history can be checked entry by entry. -/
instance decidableEach (P : List α → α → Prop) [∀ before a, Decidable (P before a)]
    (h : List α) : Decidable (Each P h) :=
  decidable_of_iff _ each_iff.symm

end History
