import Mathlib.Algebra.Order.Floor.Semiring
import Mathlib.Data.Nat.ModEq
import Mathlib.Data.Rat.Floor
import RelayerExtensions.Lib.Floats
import RelayerExtensions.Auth.Types

/-!
# What fixed-point numbers are

A fixed-point number is a scalar of the circuit's field that stands for its integer divided by
`2 ^ precision`. The operations are library code; `FixedPointLib.Lawful` is what the library says
about those of them that turn up in results about amounts. They round down, sums are sums in the
field, and a product that is returned as an amount has to fit one.

`fieldFixedPoint` is such a library, to run the model with.
-/

namespace RelayerExtensions.Auth

/-- What the fixed-point library guarantees, at a precision and for a field. -/
structure FixedPointLib.Lawful (fp : FixedPointLib) (precision modulus : Nat) : Prop where
  fromIntegerRatio : ∀ a b : Amount, b ≠ 0 →
    (fp.fromIntegerRatio a b).repr = a.toNat * 2 ^ precision / b.toNat
  fromF64RoundDown : ∀ x : Float, x.IsGood → x.value < 2 ^ 128 →
    (fp.fromF64RoundDown x).repr = ⌊x.value * 2 ^ precision⌋₊
  fromF64RoundDown_eq_zero : ∀ x : Float, x.IsGood →
    (fp.fromF64RoundDown x = fp.zero ↔ x.value * 2 ^ precision < 1)
  add : ∀ x y, (fp.add x y).repr ≡ x.repr + y.repr [MOD modulus]
  add_of_lt : ∀ x y, x.repr + y.repr < modulus → (fp.add x y).repr = x.repr + y.repr
  mulFloor : ∀ x (a : Amount), x.repr * a.toNat / 2 ^ precision < 2 ^ 128 →
    (fp.mulFloor x a).toNat = x.repr * a.toNat / 2 ^ precision

/-- Sixty-three fractional bits, in the integers modulo a number. -/
def fieldFixedPoint (modulus : Nat) : FixedPointLib where
  fromIntegerRatio a b := ⟨a.toNat * 2 ^ 63 / b.toNat⟩
  fromF64RoundDown x := ⟨⌊x.value * 2 ^ 63⌋₊⟩
  toF64 x := .ofModel (Float.Model.ofNat x.repr) / 9223372036854775808
  zero := ⟨0⟩
  one := ⟨2 ^ 63⟩
  add x y := ⟨(x.repr + y.repr) % modulus⟩
  sub x y := ⟨(x.repr + modulus - y.repr) % modulus⟩
  ge x y := decide (y.repr ≤ x.repr)
  mulFloor x a := BitVec.ofNat 128 (x.repr * a.toNat / 2 ^ 63)
  floorDivInt x a := BitVec.ofNat 128 (a.toNat * 2 ^ 63 / x.repr)

theorem fieldFixedPoint_lawful (modulus : Nat) : (fieldFixedPoint modulus).Lawful 63 modulus where
  fromIntegerRatio _ _ _ := rfl
  fromF64RoundDown _ _ _ := rfl
  fromF64RoundDown_eq_zero x _ := by
    rw [← Nat.floor_eq_zero]
    exact FixedPoint.mk.injEq _ _ ▸ Iff.rfl
  add x y := Nat.mod_modEq ..
  add_of_lt x y h := Nat.mod_eq_of_lt h
  mulFloor x a h := by
    change (BitVec.ofNat 128 _).toNat = _
    rw [BitVec.toNat_ofNat, Nat.mod_eq_of_lt h]

end RelayerExtensions.Auth
