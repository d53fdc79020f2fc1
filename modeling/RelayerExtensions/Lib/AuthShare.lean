import Mathlib.Algebra.Ring.Basic
import Mathlib.Data.List.Zip
import Mathlib.Tactic.Ring

/-!
# Authenticated additive shares between two parties

A value `v` is held as two additive shares, and so is its tag `α * v` under a
key `α` that neither party knows. `Shares α vs xs ys` says this of whole
vectors: `xs` and `ys` are the two halves of an authenticated sharing of `vs`.

The one construction is `shares_of_split`: mask the values with one vector and
the tags with another, hand the masks to the first party and the differences to
the second. It holds whatever the masks are; that they are random only matters
for secrecy, which is not the subject here.
-/

/-- One party's half of an authenticated value. -/
structure AuthShare (F : Type) where
  /-- The additive share of the value. -/
  share : F
  /-- The additive share of the value's tag. -/
  mac : F
deriving DecidableEq

namespace AuthShare

variable {F : Type} [CommRing F] {xs ys : List (AuthShare F)}

/-- Pair value shares with tag shares. -/
def collect (values macs : List F) : List (AuthShare F) := List.zipWith AuthShare.mk values macs

/-- The values two vectors of shares open to. -/
def recover (xs ys : List (AuthShare F)) : List F :=
  List.zipWith (fun x y => x.share + y.share) xs ys

/-- `xs` and `ys` are the two halves of a sharing of `vs`, authenticated under `α`. -/
inductive Shares (α : F) : List F → List (AuthShare F) → List (AuthShare F) → Prop where
  | nil : Shares α [] [] []
  | cons {v : F} {x y : AuthShare F} {vs : List F} {xs ys : List (AuthShare F)} :
      x.share + y.share = v → x.mac + y.mac = α * v → Shares α vs xs ys →
      Shares α (v :: vs) (x :: xs) (y :: ys)

theorem Shares.length_eq {α : F} {vs : List F}
    (h : Shares α vs xs ys) : xs.length = vs.length ∧ ys.length = vs.length := by
  induction h with
  | nil => exact ⟨rfl, rfl⟩
  | cons _ _ _ ih => exact ⟨congrArg (· + 1) ih.1, congrArg (· + 1) ih.2⟩

/-- Opening a sharing gives the values that were shared. -/
theorem Shares.recover_eq {α : F} {vs : List F} (h : Shares α vs xs ys) : recover xs ys = vs := by
  induction h with
  | nil => rfl
  | cons hv _ _ ih =>
      change (_ + _) :: recover _ _ = _
      rw [hv, ih]

/-- Every position carries a valid tag. -/
theorem Shares.mac_eq {α : F} {vs : List F} (h : Shares α vs xs ys) :
    ∀ (i : Nat) (x y : AuthShare F), xs[i]? = some x → ys[i]? = some y →
      x.mac + y.mac = α * (x.share + y.share) := by
  induction h with
  | nil => intro i x y hx; simp at hx
  | cons hv hm _ ih =>
      intro i x y hx hy
      cases i with
      | zero =>
          simp only [List.getElem?_cons_zero, Option.some.injEq] at hx hy
          subst hx; subst hy
          rw [hm, hv]
      | succ i =>
          simp only [List.getElem?_cons_succ] at hx hy
          exact ih i x y hx hy

/--
**Splitting a vector and its tags gives an authenticated sharing of it**, for any
masks of the right length.
-/
theorem shares_of_split (α : F) : ∀ (vs masks tagMasks : List F),
    masks.length = vs.length → tagMasks.length = vs.length →
    Shares α vs (collect masks tagMasks)
      (collect (List.zipWith (· - ·) vs masks)
        (List.zipWith (· - ·) (vs.map (· * α)) tagMasks))
  | [], masks, tagMasks, hm, ht => by
      rw [List.length_nil, List.length_eq_zero_iff] at hm ht
      subst hm; subst ht
      exact .nil
  | v :: vs, m :: masks, t :: tagMasks, hm, ht => by
      refine .cons ?_ ?_ (shares_of_split α vs masks tagMasks ?_ ?_)
      · show m + (v - m) = v
        ring
      · show t + (v * α - t) = α * v
        ring
      · simpa using hm
      · simpa using ht
  | _ :: _, [], _, hm, _ => by simp at hm
  | _ :: _, _ :: _, [], _, ht => by simp at ht

end AuthShare
