import RowMapper.Json.Basic
import RowMapper.Number.Numeral

/-!
# JSON numbers

How a numeral becomes a number: an integer if it is written as one and fits in 64 bits, otherwise a double. A double is
computed from the leading digits that fit in 64 bits and one power of ten, each rounded, so its last bit may differ from
that of the nearest double.
-/

namespace RowMapper.Json

open Number

/-- Digits collected so far, and the power of ten that they are short of the numeral. -/
structure Leading where
  digits : Nat
  scale : Int
  full : Bool

/-- The digits before the point: those that no longer fit count as zeros. -/
def Leading.whole (l : Leading) (d : Nat) : Leading :=
  if l.full then { l with scale := l.scale + 1 }
  else if 10 * l.digits + d < UInt64.size then { l with digits := 10 * l.digits + d }
  else { l with scale := 1, full := true }

/-- The digits after the point: those that no longer fit are dropped. -/
def Leading.part (l : Leading) (d : Nat) : Leading :=
  if l.full then l
  else if 10 * l.digits + d < UInt64.size then { l with digits := 10 * l.digits + d, scale := l.scale - 1 }
  else { l with full := true }

def scaled (x : Double) (up : Bool) (power : Nat) : Double :=
  match x.decode, (Double.ofRatio false (Nat.pow 10 power) 1).decode with
  | .finite _ m e, .finite _ n k =>
    let one := Nat.pow 2 BinaryFormat.double.minExponent
    if up then .ofRatio false (m * Nat.pow 2 e * (n * Nat.pow 2 k)) (one * one)
    else .ofRatio false (m * Nat.pow 2 e) (n * Nat.pow 2 k)
  | _, _ => .infinity false

/-- A positive double scaled by a power of ten, in steps of at most 308 places; nothing when it grows out of range. -/
def scaleBy? (x : Double) (exponent : Int) : Option Double :=
  if x == .ofInt 0 then some x
  else if exponent < -308 then scaleBy? (scaled x false 308) (exponent + 308)
  else if exponent < 0 then some (scaled x false exponent.natAbs)
  else if 308 < exponent then none
  else
    let y := scaled x true exponent.toNat
    if y == .infinity false then none else some y
termination_by (-exponent).toNat
decreasing_by omega

def negateIf (negative : Bool) (x : Double) : Double :=
  if negative then ⟨x.bits ^^^ 0x8000000000000000⟩ else x

def digitValues (s : List Char) : List Nat := s.filterMap digit?

/-- An exponent that is not limited to 32 bits is out of range, or makes the number zero. -/
def exponentFits (n : Nat) : Bool := 2 * n < UInt32.size

def ofParts? (negative : Bool) (whole : List Char) (part : Option (List Char)) (exponent : Option Int) : Option Json :=
  let l := (digitValues whole).foldl Leading.whole ⟨0, 0, false⟩
  match part, exponent with
  | none, none =>
    if l.full then (scaleBy? (.ofInt l.digits) l.scale).map fun x => .real (negateIf negative x)
    else if !negative then some (.integer l.digits)
    else if l.digits == 0 || UInt64.size < 2 * l.digits then some (.real (negateIf true (.ofInt l.digits)))
    else some (.integer (-(l.digits : Int)))
  | part, exponent =>
    let l := (digitValues (part.getD [])).foldl Leading.part { l with full := false }
    let e := exponent.getD 0
    if exponentFits e.natAbs then
      (scaleBy? (.ofInt l.digits) (l.scale + e)).map fun x => .real (negateIf negative x)
    else if l.digits == 0 || e < 0 then some (.real (negateIf negative (.ofInt 0)))
    else none

def ofNumeral? (s : List Char) : Option Json := do
  let (negative, body) := match s with
    | '-' :: rest => (true, rest)
    | s => (false, s)
  let (whole, rest) := digitRun body
  if whole.isEmpty || (whole.head? == some '0' && whole.length != 1) then none
  let (part, rest) ← match rest with
    | '.' :: rest =>
      let (part, rest) := digitRun rest
      if part.isEmpty then none else some (some part, rest)
    | rest => some (none, rest)
  if rest.isEmpty then ofParts? negative whole part none
  else ofParts? negative whole part (some (← exponent? rest))

end RowMapper.Json
