import Mathlib.Data.List.Pairwise
import Mathlib.Order.Bounds.Basic

/-!
# Ordered sets of levels

A finite set of elements of a linear order, as the list of them in ascending order. The order
is part of the type, so the first element is the least of all and the last the greatest
(`front_eq_some_iff`, `back_eq_some_iff`).
-/

variable {α : Type}

structure Levels (α : Type) [LinearOrder α] where
  toList : List α
  sorted : toList.Pairwise (· < ·)

namespace Levels

variable [LinearOrder α] {levels : Levels α}

/-- Put an element in its place, if it is not there. -/
def insertList (a : α) : List α → List α
  | [] => [a]
  | b :: bs => if a < b then a :: b :: bs else if a = b then a :: bs else b :: insertList a bs

theorem mem_insertList {a c : α} {bs : List α} : c ∈ insertList a bs ↔ c = a ∨ c ∈ bs := by
  induction bs with
  | nil => exact List.mem_singleton.trans (by simp)
  | cons b bs ih =>
      rw [insertList]
      split
      · exact List.mem_cons
      · split
        · next h =>
            subst h
            simp
        · rw [List.mem_cons, ih, List.mem_cons]
          exact or_left_comm

theorem pairwise_insertList {a : α} {bs : List α} (h : bs.Pairwise (· < ·)) :
    (insertList a bs).Pairwise (· < ·) := by
  induction bs with
  | nil => exact List.pairwise_singleton _ _
  | cons b bs ih =>
      obtain ⟨hb, hbs⟩ := List.pairwise_cons.mp h
      rw [insertList]
      split
      · next hlt =>
          refine List.pairwise_cons.mpr ⟨fun c hc => ?_, h⟩
          rcases List.mem_cons.mp hc with rfl | hc
          · exact hlt
          · exact hlt.trans (hb c hc)
      · split
        · next heq =>
            subst heq
            exact h
        · next hlt hne =>
            refine List.pairwise_cons.mpr ⟨fun c hc => ?_, ih hbs⟩
            rcases mem_insertList.mp hc with rfl | hc
            · exact lt_of_le_of_ne (not_lt.mp hlt) (Ne.symm hne)
            · exact hb c hc

instance : Membership α (Levels α) := ⟨fun levels a => a ∈ levels.toList⟩

theorem mem_toList {a : α} : a ∈ levels.toList ↔ a ∈ levels := Iff.rfl

def empty : Levels α := ⟨[], List.Pairwise.nil⟩

def insert (levels : Levels α) (a : α) : Levels α :=
  ⟨insertList a levels.toList, pairwise_insertList levels.sorted⟩

def remove (levels : Levels α) (a : α) : Levels α :=
  ⟨levels.toList.filter (· ≠ a), levels.sorted.filter _⟩

def front (levels : Levels α) : Option α := levels.toList.head?

def back (levels : Levels α) : Option α := levels.toList.getLast?

theorem not_mem_empty (a : α) : ¬ a ∈ (empty : Levels α) := List.not_mem_nil

theorem mem_insert {a c : α} : c ∈ levels.insert a ↔ c = a ∨ c ∈ levels :=
  mem_insertList

theorem mem_remove {a c : α} : c ∈ levels.remove a ↔ c ∈ levels ∧ c ≠ a := by
  show c ∈ levels.toList.filter _ ↔ _
  rw [List.mem_filter, decide_eq_true_iff, mem_toList]

/-- **The front is the least element.** -/
theorem front_eq_some_iff {a : α} : levels.front = some a ↔ IsLeast {c | c ∈ levels} a := by
  obtain ⟨bs, hbs⟩ := levels
  have hleast : ∀ b, bs.head? = some b → IsLeast {c | c ∈ bs} b := by
    intro b hb
    refine ⟨List.mem_of_head? hb, fun c hc => ?_⟩
    cases bs with
    | nil => cases hb
    | cons b' bs =>
        cases hb
        rcases List.mem_cons.mp hc with rfl | hc
        · exact le_refl c
        · exact ((List.pairwise_cons.mp hbs).1 c hc).le
  refine ⟨hleast a, fun h => ?_⟩
  show bs.head? = some a
  cases hb : bs.head? with
  | none =>
      have hmem : a ∈ bs := h.1
      rw [List.head?_eq_none_iff.mp hb] at hmem
      exact absurd hmem List.not_mem_nil
  | some b => rw [(hleast b hb).unique h]

/-- **The back is the greatest element.** -/
theorem back_eq_some_iff {a : α} : levels.back = some a ↔ IsGreatest {c | c ∈ levels} a := by
  obtain ⟨bs, hbs⟩ := levels
  have hgreatest : ∀ b, bs.getLast? = some b → IsGreatest {c | c ∈ bs} b := by
    intro b hb
    refine ⟨List.mem_of_getLast? hb, fun c hc => ?_⟩
    obtain ⟨cs, rfl⟩ := List.getLast?_eq_some_iff.mp hb
    rcases List.mem_append.mp hc with hc | hc
    · exact ((List.pairwise_append.mp hbs).2.2 c hc b (List.mem_singleton.mpr rfl)).le
    · exact (List.mem_singleton.mp hc).le
  refine ⟨hgreatest a, fun h => ?_⟩
  show bs.getLast? = some a
  cases hb : bs.getLast? with
  | none =>
      have hmem : a ∈ bs := h.1
      rw [List.getLast?_eq_none_iff.mp hb] at hmem
      exact absurd hmem List.not_mem_nil
  | some b => rw [(hgreatest b hb).unique h]

theorem nonempty_iff : {c | c ∈ levels}.Nonempty ↔ levels.toList ≠ [] :=
  ⟨fun ⟨_, h⟩ => List.ne_nil_of_mem h, fun h => List.exists_mem_of_ne_nil _ h⟩

theorem front_isSome_iff : levels.front.isSome = true ↔ {c | c ∈ levels}.Nonempty :=
  List.isSome_head?.trans nonempty_iff.symm

theorem back_isSome_iff : levels.back.isSome = true ↔ {c | c ∈ levels}.Nonempty :=
  List.getLast?_isSome.trans nonempty_iff.symm

end Levels
