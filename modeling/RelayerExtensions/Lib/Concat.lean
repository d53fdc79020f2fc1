import Mathlib.Algebra.Group.Nat.Defs
import Mathlib.Data.List.Basic

/-!
# Texts put together without separators

Pieces written one after the other can be told apart without any escaping if the first
comes from a family in which no member begins another (`PrefixFree`), or if it is known
how long the last one is. A number has a known length if it is written with leading
zeros (`padded`), and below the bound of its width it can be told from its digits.
-/

namespace Concat

variable {ι α : Type}

/-- No member of the family begins another. -/
def PrefixFree (p : ι → List α) : Prop := ∀ i j, p i <+: p j → i = j

/-- Behind a member of such a family, whatever follows can be told apart. -/
theorem PrefixFree.append_inj {p : ι → List α} (hp : PrefixFree p) {i j : ι} {u v : List α}
    (h : p i ++ u = p j ++ v) : i = j ∧ u = v := by
  -- of two beginnings of one text, one begins the other
  have hij : i = j := by
    obtain ⟨w, hw, -⟩ | ⟨w, hw, -⟩ := List.append_eq_append_iff.mp h
    · exact hp i j ⟨w, hw.symm⟩
    · exact (hp j i ⟨w, hw.symm⟩).symm
  subst hij
  exact ⟨rfl, List.append_cancel_left h⟩

/-- The lowest `w` decimal digits of a number. -/
def padded : Nat → Nat → List Char
  | 0, _ => []
  | w + 1, n => padded w (n / 10) ++ [Nat.digitChar (n % 10)]

@[simp] theorem length_padded : ∀ w n, (padded w n).length = w
  | 0, _ => rfl
  | w + 1, n => by rw [padded, List.length_append, length_padded w, List.length_singleton]

theorem digitChar_inj {a b : Nat} (ha : a < 10) (hb : b < 10)
    (h : Nat.digitChar a = Nat.digitChar b) : a = b := by
  have hcode := congrArg Char.toNat h
  rw [Nat.toNat_digitChar_of_lt_ten ha, Nat.toNat_digitChar_of_lt_ten hb] at hcode
  omega

theorem padded_inj {w : Nat} : ∀ {a b : Nat}, a < 10 ^ w → b < 10 ^ w →
    padded w a = padded w b → a = b := by
  induction w with
  | zero =>
      intro a b ha hb _
      omega
  | succ w ih =>
      intro a b ha hb h
      rw [Nat.pow_succ] at ha hb
      obtain ⟨hhigh, hlow⟩ := List.append_inj' h rfl
      have hdiv : a / 10 = b / 10 := ih (by omega) (by omega) hhigh
      have hmod : a % 10 = b % 10 :=
        digitChar_inj (Nat.mod_lt _ (by decide)) (Nat.mod_lt _ (by decide))
          (List.head_eq_of_cons_eq hlow)
      omega

example : padded 4 70 = ['0', '0', '7', '0'] := by decide

end Concat
