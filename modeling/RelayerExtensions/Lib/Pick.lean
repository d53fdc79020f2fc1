import Mathlib.Logic.Function.Basic

/-!
# Picking the best of a list in one pass

The first element is the best so far, and a later one replaces it if it is better. What is
picked is in the list (`pick_mem`). Nothing is asked of `better` beyond what the elements of the
list satisfy: where it is irreflexive and transitive among them, no element is better than the
one that is picked (`pick_best`).
-/

namespace Pick

variable {α : Type} (better : α → α → Prop) [DecidableRel better]

/-- The better one of the best so far and the next one. -/
def keep (best : Option α) (x : α) : Option α :=
  match best with
  | none => some x
  | some b => if better x b then some x else some b

def pick (xs : List α) : Option α := xs.foldl (keep better) none

variable {better}

theorem keep_cases {o : Option α} {x c : α} (h : keep better o x = some c) :
    c = x ∨ o = some c := by
  unfold keep at h
  split at h
  · exact .inl (Option.some.inj h).symm
  · split at h
    · exact .inl (Option.some.inj h).symm
    · exact .inr h

theorem foldl_keep_mem : ∀ {xs : List α} {o : Option α} {c : α},
    xs.foldl (keep better) o = some c → o = some c ∨ c ∈ xs
  | [], _, _, h => .inl h
  | x :: xs, o, c, h => by
      rw [List.foldl_cons] at h
      rcases foldl_keep_mem h with hkeep | hmem
      · rcases keep_cases hkeep with rfl | ho
        · exact .inr List.mem_cons_self
        · exact .inl ho
      · exact .inr (List.mem_cons_of_mem _ hmem)

theorem pick_mem {xs : List α} {c : α} (h : pick better xs = some c) : c ∈ xs :=
  (foldl_keep_mem h).resolve_left nofun

/-- The pass, from any point of it on: if nothing seen so far is better than the best so far,
nothing in the end is better than what is picked. -/
theorem foldl_keep_best {P : α → Prop} (hirrefl : ∀ x, ¬ better x x)
    (htrans : ∀ x y z, P x → P y → better x y → better y z → better x z) :
    ∀ (xs seen : List α) (b c : α), (∀ x ∈ seen ++ xs, P x) → (∀ x ∈ seen, ¬ better x b) →
      xs.foldl (keep better) (some b) = some c → ∀ x ∈ seen ++ xs, ¬ better x c
  | [], seen, b, c, _, hbest, h => by
      obtain rfl : b = c := Option.some.inj h
      rwa [List.append_nil]
  | x :: xs, seen, b, c, hP, hbest, h => by
      rw [List.append_cons] at hP ⊢
      rw [List.foldl_cons] at h
      have hseen : ∀ y ∈ seen, P y := fun y hy =>
        hP y (List.mem_append_left _ (List.mem_append_left _ hy))
      have hx : P x := hP x (List.mem_append_left _ (by simp))
      by_cases hxb : better x b
      · rw [keep, if_pos hxb] at h
        refine foldl_keep_best hirrefl htrans xs (seen ++ [x]) x c hP (fun y hy hyx => ?_) h
        rcases List.mem_append.mp hy with hy | hy
        · exact hbest y hy (htrans y x b (hseen y hy) hx hyx hxb)
        · exact hirrefl x (List.mem_singleton.mp hy ▸ hyx)
      · rw [keep, if_neg hxb] at h
        refine foldl_keep_best hirrefl htrans xs (seen ++ [x]) b c hP (fun y hy => ?_) h
        rcases List.mem_append.mp hy with hy | hy
        · exact hbest y hy
        · exact List.mem_singleton.mp hy ▸ hxb

/-- **Nothing in the list is better than the pick.** -/
theorem pick_best {P : α → Prop} (hirrefl : ∀ x, ¬ better x x)
    (htrans : ∀ x y z, P x → P y → better x y → better y z → better x z) {xs : List α} {c : α}
    (hP : ∀ x ∈ xs, P x) (h : pick better xs = some c) : ∀ x ∈ xs, ¬ better x c := by
  cases xs with
  | nil => cases h
  | cons x xs =>
      exact foldl_keep_best hirrefl htrans xs [x] x c hP (by simpa using hirrefl x) h

end Pick
