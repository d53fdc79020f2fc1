import Mathlib.Algebra.BigOperators.Group.List.Basic
import Mathlib.Logic.Function.Basic

/-!
# Balances, and payments out of one account

`pay` moves an amount from one account to another, and `payAll` makes payments from one source
one after the other. A payment is not refused: whether the source can afford it is for the payer
to know.

If the source pays every account at most once and itself never, the payments do not see each
other: each account ends with what it had and what it was paid.
-/

namespace Ledger

variable {κ R : Type} [DecidableEq κ] [AddCommGroup R]

/-- Moves `p.2` from the source to the account `p.1`. -/
def pay (source : κ) (balance : κ → R) (p : κ × R) : κ → R :=
  let paid := Function.update balance source (balance source - p.2)
  Function.update paid p.1 (paid p.1 + p.2)

def payAll (source : κ) (balance : κ → R) (ps : List (κ × R)) : κ → R :=
  ps.foldl (pay source) balance

variable {source a : κ} {balance : κ → R} {p : κ × R}

theorem pay_other (hs : a ≠ source) (hp : a ≠ p.1) : pay source balance p a = balance a := by
  unfold pay
  rw [Function.update_of_ne hp, Function.update_of_ne hs]

theorem pay_payee (hs : p.1 ≠ source) : pay source balance p p.1 = balance p.1 + p.2 := by
  unfold pay
  rw [Function.update_self, Function.update_of_ne hs]

@[simp] theorem payAll_nil : payAll source balance [] = balance := rfl

@[simp] theorem payAll_cons (ps : List (κ × R)) :
    payAll source balance (p :: ps) = payAll source (pay source balance p) ps := rfl

/-- An account that is not concerned. -/
theorem payAll_other {ps : List (κ × R)} (hs : a ≠ source) (ha : a ∉ ps.map Prod.fst) :
    payAll source balance ps a = balance a := by
  induction ps generalizing balance with
  | nil => rfl
  | cons p ps ih =>
      rw [List.map_cons, List.mem_cons, not_or] at ha
      rw [payAll_cons, ih ha.2, pay_other hs ha.1]

/-- **What an account ends with** if it is paid once. -/
theorem payAll_payee {ps : List (κ × R)} (hs : source ∉ ps.map Prod.fst)
    (hnd : (ps.map Prod.fst).Nodup) (hp : p ∈ ps) :
    payAll source balance ps p.1 = balance p.1 + p.2 := by
  induction ps generalizing balance with
  | nil => cases hp
  | cons q ps ih =>
      rw [List.map_cons, List.mem_cons, not_or] at hs
      rw [List.map_cons, List.nodup_cons] at hnd
      rw [payAll_cons]
      rcases List.mem_cons.mp hp with rfl | hp
      · rw [payAll_other (Ne.symm hs.1) hnd.1, pay_payee (Ne.symm hs.1)]
      · -- the payment comes later, and this one goes elsewhere
        have hmem : p.1 ∈ ps.map Prod.fst := List.mem_map_of_mem hp
        have hsource : p.1 ≠ source := fun h => hs.2 (h ▸ hmem)
        have hq : p.1 ≠ q.1 := fun h => hnd.1 (h ▸ hmem)
        rw [ih hs.2 hnd.2 hp, pay_other hsource hq]

end Ledger
