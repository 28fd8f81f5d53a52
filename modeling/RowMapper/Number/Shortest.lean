import RowMapper.Number.Binary

/-!
# Shortest decimals

The decimal with the fewest digits among those that round to a given binary number, and of those the nearest to it.
-/

namespace RowMapper.Number

/-- A positive number `value / den` with the reals that round to it, from `low / den` to `high / den`. -/
structure RoundingRange where
  low : Nat
  value : Nat
  high : Nat
  den : Nat
  /-- Whether both ends round to the number too. -/
  closed : Bool

/-- The reals that round to a finite number. Below a power of two the gap is half as wide. -/
def BinaryFormat.roundingRange (f : BinaryFormat) (significand exponent : Nat) : RoundingRange :=
  let unit := Nat.pow 2 exponent
  let below := if significand == Nat.pow 2 f.significandBits && exponent != 0 then unit else 2 * unit
  { low := 4 * significand * unit - below
    value := 4 * significand * unit
    high := 4 * significand * unit + 2 * unit
    den := 4 * Nat.pow 2 f.minExponent
    closed := significand % 2 == 0 }

/-- The decimal `digits * 10 ^ exponent`. -/
structure Decimal where
  digits : Nat
  exponent : Int
deriving DecidableEq

/-- The place of the first digit: the least `k` with `num / den < 10 ^ k`. -/
def leadingPlace (num den : Nat) : Int :=
  if den ≤ num then (Nat.toDigits 10 (num / den)).length
  else
    let zeros := (Nat.toDigits 10 (den / num)).length
    if den ≤ num * Nat.pow 10 (zeros - 1) then 2 - (zeros : Int) else 1 - (zeros : Int)

def RoundingRange.contains (r : RoundingRange) (d : Decimal) : Bool :=
  let x := d.digits * Nat.pow 10 d.exponent.toNat * r.den
  let shift := Nat.pow 10 (-d.exponent).toNat
  if r.closed then r.low * shift ≤ x && x ≤ r.high * shift else r.low * shift < x && x < r.high * shift

def RoundingRange.onGrid (r : RoundingRange) (tieUp : Bool) (exponent : Int) : Option Decimal :=
  let unit := Nat.pow 10 exponent.toNat * r.den
  let value := r.value * Nat.pow 10 (-exponent).toNat
  -- The best multiple of the unit is one of the two neighbours of the value.
  let below : Decimal := ⟨value / unit, exponent⟩
  let above : Decimal := ⟨value / unit + 1, exponent⟩
  let nearer := if 2 * (value % unit) < unit then below else if unit < 2 * (value % unit) then above
    else if tieUp || (value / unit) % 2 == 1 then above else below
  match r.contains below, r.contains above with
  | true, true => some nearer
  | true, false => some below
  | false, true => some above
  | false, false => none

def Decimal.strip (d : Decimal) : Decimal :=
  if h : d.digits ≠ 0 ∧ d.digits % 10 = 0 then Decimal.strip ⟨d.digits / 10, d.exponent + 1⟩ else d
termination_by d.digits
decreasing_by omega

/-- The shortest decimal in the range; seventeen digits are always enough for the formats in use. -/
def RoundingRange.shortest (r : RoundingRange) (tieUp : Bool) : Decimal :=
  let place := leadingPlace r.value r.den
  let found := (List.range 17).findSome? fun n => r.onGrid tieUp (place - (n + 1 : Nat))
  (found.getD ⟨r.value / r.den, 0⟩).strip

structure Layout where
  /-- The least and greatest exponent of the first digit that are written without an exponent part. -/
  plainFrom : Int
  plainTo : Int
  /-- Whether an integral number ends in a point and a zero. -/
  pointZero : Bool
  /-- Whether a positive exponent has a sign. -/
  exponentSign : Bool
  /-- Which of two equally near shortest decimals is taken: the upper one, or the one with an even last digit. -/
  tieUp : Bool
  notANumber : String
  infinite : String

def signed (negative : Bool) (text : String) : String := if negative then "-" ++ text else text

def Layout.decimal (l : Layout) (d : Decimal) : String :=
  let digits := Nat.toDigits 10 d.digits
  let count : Int := digits.length
  let point := count + d.exponent
  let text : List Char :=
    if l.plainFrom ≤ point - 1 && point - 1 ≤ l.plainTo then
      if point ≤ 0 then '0' :: '.' :: List.replicate (-point).toNat '0' ++ digits
      else if point < count then digits.take point.toNat ++ '.' :: digits.drop point.toNat
      else digits ++ List.replicate (point - count).toNat '0' ++ (if l.pointZero then ['.', '0'] else [])
    else
      digits.take 1 ++ (if count == 1 then [] else '.' :: digits.drop 1) ++ 'e' ::
        (if point - 1 < 0 then ['-'] else if l.exponentSign then ['+'] else []) ++
        Nat.toDigits 10 (point - 1).natAbs
  String.ofList text

def Layout.number (l : Layout) (f : BinaryFormat) : Class → String
  | .nan => l.notANumber
  | .infinite negative => signed negative l.infinite
  | .finite negative m e =>
    signed negative (l.decimal (if m == 0 then ⟨0, 0⟩ else (f.roundingRange m e).shortest l.tieUp))

def Layout.single (l : Layout) (x : Single) : String := l.number .single x.decode

def Layout.double (l : Layout) (x : Double) : String := l.number .double x.decode

end RowMapper.Number
