import RowMapper.Number.Binary

/-!
# Wide numbers

Positive binary numbers with 64 significant bits, eleven more than doubles have, and with exponents without bound.
Products and powers of ten are rounded to the nearest wide number, ties to the even significand.
-/

namespace RowMapper.Number

/-- The number `significand * 2 ^ exponent`. -/
structure Wide where
  significand : Nat
  exponent : Int
deriving DecidableEq

namespace Wide

/-- A wide number is `num / den`. -/
def num (x : Wide) : Nat := x.significand * Nat.pow 2 x.exponent.toNat

def den (x : Wide) : Nat := Nat.pow 2 (-x.exponent).toNat

instance : LE Wide where
  le x y := x.num * y.den ≤ y.num * x.den

instance : LT Wide where
  lt x y := ¬ y ≤ x

instance (x y : Wide) : Decidable (x ≤ y) := inferInstanceAs (Decidable (x.num * y.den ≤ y.num * x.den))

instance (x y : Wide) : Decidable (x < y) := inferInstanceAs (Decidable (¬ y ≤ x))

/-- The wide number nearest to `num / den * 2 ^ exponent`. -/
def nearest (num den : Nat) (exponent : Int) : Wide :=
  -- The quotient lies between `2 ^ (top - 1)` and `2 ^ (top + 1)`.
  let top : Int := num.log2 - den.log2
  let scaledNum (shift : Int) := num * Nat.pow 2 (-shift).toNat
  let scaledDen (shift : Int) := den * Nat.pow 2 shift.toNat
  let guess := top - 64
  let shift := if UInt64.size ≤ scaledNum guess / scaledDen guess then guess + 1 else guess
  ⟨roundHalfEven (scaledNum shift) (scaledDen shift), exponent + shift⟩

def mul (x y : Wide) : Wide := nearest (x.significand * y.significand) 1 (x.exponent + y.exponent)

def tenTo (places : Int) : Wide := nearest (Nat.pow 10 places.toNat) (Nat.pow 10 (-places).toNat) 0

def floor (x : Wide) : Nat := x.num / x.den

def greatestDouble : Wide := ⟨Nat.pow 2 53 - 1, 971⟩

/-- The nearest double, with a sign. Beyond the greatest double there is only infinity. -/
def toDouble (negative : Bool) (x : Wide) : Double :=
  if x ≤ greatestDouble then .ofRatio negative x.num x.den else .infinity negative

end Wide

end RowMapper.Number
