import RelayerExtensions.Lib.Tape
import RelayerExtensions.Dealer.Api
import Mathlib.Algebra.Field.Basic

/-!
# Generating correlated randomness

The `gen_*` helpers of `Dealer` and the generation half of `handle_ready_pair`
(`dealer/renegade-dealer/src/dealer.rs`). The generator is `thread_rng`: one
tape, read in the order the source reads it. `Scalar::inverse` is library code;
it enters as `inverse`, with `none` where it has no value to return.
-/

namespace RelayerExtensions.Dealer

/-- A computation that draws random scalars and coins, and may panic. -/
abbrev Gen (F α : Type) := Tape.Draw Panic F α

variable {F : Type} [Field F]

/-- `Scalar::random` -/
def random : Gen F F := Tape.scalar

/-- `Scalar::from(bool)` -/
def ofBool (b : Bool) : F := if b then 1 else 0

/-- The tags of a set of values. -/
def computeMacs (macKey : F) (values : List F) : List F := values.map (· * macKey)

/-- Additive shares of a set of values: a random one, and what is left. -/
def genSecretShares : List F → Gen F (List F × List F)
  | [] => return ([], [])
  | value :: rest => do
      let share ← random
      let (share1, share2) ← genSecretShares rest
      return (share :: share1, (value - share) :: share2)

/-- Pair up values and tags; the longer of the two is cut off. -/
def collectShares (values macs : List F) : List (ScalarShare F) := AuthShare.collect values macs

def genAuthenticatedSecretShares (macKey : F) (values : List F) :
    Gen F (List (ScalarShare F) × List (ScalarShare F)) := do
  let macs := computeMacs macKey values
  let (shares1, shares2) ← genSecretShares values
  let (macShares1, macShares2) ← genSecretShares macs
  return (collectShares shares1 macShares1, collectShares shares2 macShares2)

/-- The two responses under construction. -/
abbrev Responses (F : Type) := DealerResponse F × DealerResponse F

def genRandomBits (n : Nat) (macKey : F) (r : Responses F) : Gen F (Responses F) := do
  let bits := (← Tape.repeatDraw Tape.bit n).map ofBool
  let (share1, share2) ← genAuthenticatedSecretShares macKey bits
  return (r.1.setRandomBits share1, r.2.setRandomBits share2)

def genRandomValues (n : Nat) (macKey : F) (r : Responses F) : Gen F (Responses F) := do
  let values ← Tape.repeatDraw random n
  let (share1, share2) ← genAuthenticatedSecretShares macKey values
  return (r.1.setRandomValues share1, r.2.setRandomValues share2)

def genInputMasks (n : Nat) (macKey : F) (r : Responses F) : Gen F (Responses F) := do
  let masks1 ← Tape.repeatDraw random n
  let masks2 ← Tape.repeatDraw random n
  let (mask1Share1, mask1Share2) ← genAuthenticatedSecretShares macKey masks1
  let (mask2Share1, mask2Share2) ← genAuthenticatedSecretShares macKey masks2
  return (r.1.setInputMasks masks1 mask1Share1 mask2Share1,
    r.2.setInputMasks masks2 mask2Share2 mask1Share2)

/-- `r.iter().map(|r| r.inverse()).collect_vec()` -/
def invertAll (inverse : F → Option F) : List F → Except Panic (List F)
  | [] => .ok []
  | x :: xs =>
      match inverse x with
      | none => .error .noInverse
      | some y => (invertAll inverse xs).map (y :: ·)

def genInversePairs (inverse : F → Option F) (n : Nat) (macKey : F) (r : Responses F) :
    Gen F (Responses F) := do
  let x ← Tape.repeatDraw random n
  let xInv ← liftM (invertAll inverse x)
  let (xShares1, xShares2) ← genAuthenticatedSecretShares macKey x
  let (xInvShares1, xInvShares2) ← genAuthenticatedSecretShares macKey xInv
  return (r.1.setInversePairs xShares1 xInvShares1, r.2.setInversePairs xShares2 xInvShares2)

def genTriples (n : Nat) (macKey : F) (r : Responses F) : Gen F (Responses F) := do
  let a ← Tape.repeatDraw random n
  let b ← Tape.repeatDraw random n
  let c := List.zipWith (· * ·) a b
  let (aShares1, aShares2) ← genAuthenticatedSecretShares macKey a
  let (bShares1, bShares2) ← genAuthenticatedSecretShares macKey b
  let (cShares1, cShares2) ← genAuthenticatedSecretShares macKey c
  let r1 ← liftM (r.1.setTriples aShares1 bShares1 cShares1)
  let r2 ← liftM (r.2.setTriples aShares2 bShares2 cShares2)
  return (r1, r2)

/-- The generation half of `handle_ready_pair`: everything up to the two sends. -/
def genResponses {PK : Type} (inverse : F → Option F) (req : DealerRequest PK) :
    Gen F (Responses F) := do
  let macKey ← random
  let macShare1 ← random
  let macShare2 := macKey - macShare1
  let r : Responses F := ({ macKeyShare := macShare1 }, { macKeyShare := macShare2 })
  let r ← genRandomBits req.nRandomBits.toNat macKey r
  let r ← genRandomValues req.nRandomValues.toNat macKey r
  let r ← genInputMasks req.nInputMasks.toNat macKey r
  let r ← genInversePairs inverse req.nInversePairs.toNat macKey r
  genTriples req.nTriples.toNat macKey r

end RelayerExtensions.Dealer
