/-!
# Binary floating-point numbers

Single and double precision numbers as bit patterns, decoded into a significand and a power of two, and the rounding of
a ratio to the nearest number of a format, ties to the even significand. All arithmetic is on natural numbers.
-/

namespace RowMapper.Number

/-- A binary interchange format: how many bits the stored significand and the exponent take. -/
structure BinaryFormat where
  significandBits : Nat
  exponentBits : Nat
deriving DecidableEq

def BinaryFormat.single : BinaryFormat := ⟨23, 8⟩

def BinaryFormat.double : BinaryFormat := ⟨52, 11⟩

/-- The exponent of the unit of the smallest numbers, as a positive number: they are multiples of `2 ^ -minExponent`. -/
def BinaryFormat.minExponent (f : BinaryFormat) : Nat :=
  Nat.pow 2 (f.exponentBits - 1) - 2 + f.significandBits

def BinaryFormat.infinityBits (f : BinaryFormat) : Nat :=
  (Nat.pow 2 f.exponentBits - 1) * Nat.pow 2 f.significandBits

def BinaryFormat.signBit (f : BinaryFormat) : Nat := Nat.pow 2 (f.exponentBits + f.significandBits)

/-- What a bit pattern stands for. A finite number is `significand * 2 ^ (exponent - minExponent)`. -/
inductive Class where
  | nan
  | infinite (negative : Bool)
  | finite (negative : Bool) (significand exponent : Nat)
deriving DecidableEq

def BinaryFormat.decode (f : BinaryFormat) (bits : Nat) : Class :=
  let negative := f.signBit ≤ bits
  let magnitude := bits % f.signBit
  let stored := magnitude % Nat.pow 2 f.significandBits
  let e := magnitude / Nat.pow 2 f.significandBits
  if magnitude == f.infinityBits then .infinite negative
  else if f.infinityBits < magnitude then .nan
  else if e == 0 then .finite negative stored 0
  else .finite negative (Nat.pow 2 f.significandBits + stored) (e - 1)

/-- The quotient rounded to the nearest natural number, a tie to the even one. -/
def roundHalfEven (num den : Nat) : Nat :=
  let q := num / den
  let r := num % den
  if 2 * r < den then q
  else if den < 2 * r then q + 1
  else q + q % 2

/-- The bits of the number nearest to `num / den`, without a sign; infinity when it is too large. -/
def BinaryFormat.ofRatio (f : BinaryFormat) (num den : Nat) : Nat :=
  if num == 0 then 0
  else
    -- The quotient scaled by `2 ^ minExponent` lies between `2 ^ (top - 1)` and `2 ^ (top + 1)`.
    let scaled := num * Nat.pow 2 f.minExponent
    let top := (scaled.log2 + 1) - den.log2
    let guess := top - 1 - (f.significandBits + 1)
    let exponent := if Nat.pow 2 (f.significandBits + 1) ≤ scaled / (den * Nat.pow 2 guess) then guess + 1 else guess
    let bits := exponent * Nat.pow 2 f.significandBits + roundHalfEven scaled (den * Nat.pow 2 exponent)
    min bits f.infinityBits

def BinaryFormat.withSign (f : BinaryFormat) (negative : Bool) (bits : Nat) : Nat :=
  if negative then f.signBit + bits else bits

def BinaryFormat.ofInt (f : BinaryFormat) (n : Int) : Nat :=
  f.withSign (n < 0) (f.ofRatio n.natAbs 1)

def BinaryFormat.nanBits (f : BinaryFormat) : Nat := f.infinityBits + Nat.pow 2 (f.significandBits - 1)

/-- The bits in format `g` of the number nearest to the one with these bits in format `f`. -/
def BinaryFormat.convert (f g : BinaryFormat) (bits : Nat) : Nat :=
  match f.decode bits with
  | .nan => g.nanBits
  | .infinite negative => g.withSign negative g.infinityBits
  | .finite negative m e => g.withSign negative (g.ofRatio (m * Nat.pow 2 e) (Nat.pow 2 f.minExponent))

structure Single where
  bits : UInt32
deriving DecidableEq, Inhabited

structure Double where
  bits : UInt64
deriving DecidableEq, Inhabited

namespace Single

def decode (x : Single) : Class := BinaryFormat.single.decode x.bits.toNat

def isNaN (x : Single) : Bool := x.decode == .nan

end Single

namespace Double

def ofBits (bits : Nat) : Double := ⟨UInt64.ofNat bits⟩

def decode (x : Double) : Class := BinaryFormat.double.decode x.bits.toNat

def isNaN (x : Double) : Bool := x.decode == .nan

def ofInt (n : Int) : Double := ofBits (BinaryFormat.double.ofInt n)

def ofRatio (negative : Bool) (num den : Nat) : Double :=
  ofBits (BinaryFormat.double.withSign negative (BinaryFormat.double.ofRatio num den))

def nan : Double := ofBits BinaryFormat.double.nanBits

def infinity (negative : Bool) : Double :=
  ofBits (BinaryFormat.double.withSign negative BinaryFormat.double.infinityBits)

end Double

def Single.toDouble (x : Single) : Double := .ofBits (BinaryFormat.single.convert .double x.bits.toNat)

def Double.toSingle (x : Double) : Single := ⟨UInt32.ofNat (BinaryFormat.double.convert .single x.bits.toNat)⟩

end RowMapper.Number
