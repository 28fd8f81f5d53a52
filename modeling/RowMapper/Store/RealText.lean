import RowMapper.Number.Numeral
import RowMapper.Number.Shortest
import RowMapper.Number.Wide

/-!
# Real numbers in text

How a store reads and writes real numbers. Both ways take a wide number to another power of ten by one rounded product
after the other, so that the last digit is not always the nearest.
-/

namespace RowMapper.Store

open Number

/-- Takes digits into a significand of 64 bits for as long as another one surely fits. Also counts those left over. -/
def takeDigits (significand : Nat) : List Char → Nat × Nat
  | [] => (significand, 0)
  | c :: rest =>
    if significand < (UInt64.size - 10) / 10 then takeDigits (10 * significand + (digit? c).getD 0) rest
    else (significand, rest.length + 1)

def takeTens (significand : Nat) : (n : Nat) → Nat × Nat
  | 0 => (significand, 0)
  | n + 1 => if significand < (UInt64.size - 1) / 10 then takeTens (10 * significand) n else (significand, n + 1)

/-- Divides a significand by up to `n` factors of ten while that is exact, and counts those left over. -/
def cancelTens (significand : Nat) : (n : Nat) → Nat × Nat
  | 0 => (significand, 0)
  | n + 1 => if significand % 10 = 0 then cancelTens (significand / 10) n else (significand, n + 1)

def timesTenTo (unit : Int) (n : Nat) (x : Wide) : Wide :=
  let steps (places : Nat) (count : Nat) (x : Wide) := Nat.repeat (·.mul (.tenTo (unit * places))) count x
  steps 1 (n % 10) (steps 10 (n / 10 % 10) (steps 100 (n / 100) x))

/-- The real number that a numeral stands for. Its exponent counts as ten thousand if it has more than five digits. -/
def realOfNumeral (negative : Bool) (n : Numeral) : Double :=
  let (significand, skipped) := takeDigits 0 n.whole
  let (significand, dropped) := takeDigits significand n.part
  let size := if n.exponent.natAbs < 100000 then n.exponent.natAbs else 10000
  let places := n.exponent.sign * size + skipped - (n.part.length - dropped : Nat)
  if significand = 0 then .ofRatio negative 0 1
  else if 0 ≤ places then
    let (significand, n) := takeTens significand places.toNat
    (timesTenTo 1 n ⟨significand, 0⟩).toDouble negative
  else
    let (significand, n) := cancelTens significand (-places).toNat
    (timesTenTo (-1) n ⟨significand, 0⟩).toDouble negative

def movePoint (places : Int) (goesOn : Wide → Bool) (x : Wide × Int) : Wide × Int :=
  -- No double needs more than eleven moves by places of one size.
  Nat.repeat (fun (x, moved) => if goesOn x then (x.mul (.tenTo places), moved + places) else (x, moved)) 11 x

def withEighteenDigits (x : Wide) : Wide × Int :=
  if .tenTo 19 ≤ x then
    movePoint (-1) (.tenTo 19 ≤ ·) (movePoint (-10) (.tenTo 29 ≤ ·) (movePoint (-100) (.tenTo 119 ≤ ·) (x, 0)))
  else
    movePoint 1 (· < .tenTo 17) (movePoint 10 (· < .tenTo 7) (movePoint 100 (· < .tenTo (-97)) (x, 0)))

def fifteenDigits (x : Wide) : Decimal :=
  let (x, moved) := withEighteenDigits x
  let extra := (Nat.toDigits 10 x.floor).length - 15
  Decimal.strip ⟨(x.floor / Nat.pow 10 (extra - 1) + 5) / 10, extra - moved⟩

/-- A decimal with its point, plain if its first digit stands between the fourteenth and the minus fourth place. -/
def decimalText (d : Decimal) : String :=
  let digits := Nat.toDigits 10 d.digits
  let first := digits.length + d.exponent - 1
  let withPoint (whole part : List Char) := String.ofList (whole ++ '.' :: (if part.isEmpty then ['0'] else part))
  if first < -4 || 14 < first then
    let exponent := Nat.toDigits 10 first.natAbs
    withPoint (digits.take 1) (digits.drop 1) ++ (if first < 0 then "e-" else "e+") ++
      String.ofList (List.replicate (2 - exponent.length) '0' ++ exponent)
  else if first < 0 then withPoint ['0'] (List.replicate (-first - 1).toNat '0' ++ digits)
  else withPoint ((digits ++ List.replicate 15 '0').take (first.toNat + 1)) (digits.drop (first.toNat + 1))

def realText (x : Double) : String :=
  match x.decode with
  | .nan => ""
  | .infinite negative => signed negative "Inf"
  | .finite negative m e =>
    if m = 0 then "0.0"
    else signed negative (decimalText (fifteenDigits ⟨m, (e : Int) - BinaryFormat.double.minExponent⟩))

end RowMapper.Store
