import RowMapper.Number.Binary

/-!
# Numerals

Integers and decimal fractions as they are written in text.
-/

namespace RowMapper.Number

def digit? (c : Char) : Option Nat :=
  if '0' ≤ c && c ≤ '9' then some (c.toNat - '0'.toNat) else none

def digitRun (s : List Char) : List Char × List Char :=
  (s.takeWhile (digit? · |>.isSome), s.dropWhile (digit? · |>.isSome))

def ofDigits (s : List Char) : Nat := s.foldl (fun n c => 10 * n + (digit? c).getD 0) 0

def integerText (n : Int) : String :=
  String.ofList ((if n < 0 then ['-'] else []) ++ Nat.toDigits 10 n.natAbs)

/-- An optional sign and what follows it; `true` stands for minus. -/
def splitSign : List Char → Bool × List Char
  | '-' :: rest => (true, rest)
  | '+' :: rest => (false, rest)
  | s => (false, s)

def integer? (s : List Char) : Option Int :=
  let (negative, body) := splitSign s
  match digitRun body with
  | ([], _) | (_, _ :: _) => none
  | (digits, []) => some (if negative then -(ofDigits digits : Int) else ofDigits digits)

/-- The double nearest to `digits * 10 ^ exponent`. Far beyond the range of doubles the answer is plain. -/
def nearestDouble (negative : Bool) (digits : Nat) (exponent : Int) : Double :=
  let size : Int := (Nat.toDigits 10 digits).length + exponent
  if digits == 0 || size < -400 then .ofRatio negative 0 1
  else if 400 < size then .infinity negative
  else .ofRatio negative (digits * Nat.pow 10 exponent.toNat) (Nat.pow 10 (-exponent).toNat)

/-- The exponent part of a numeral: nothing, or a letter, an optional sign and one or more digits. -/
def exponent? : List Char → Option Int
  | [] => some 0
  | c :: rest => if c == 'e' || c == 'E' then integer? rest else none

def wordNumber? (negative : Bool) (s : List Char) : Option Double :=
  match String.ofList (s.map Char.toLower) with
  | "nan" => some .nan
  | "inf" | "infinity" => some (.infinity negative)
  | _ => none

structure Numeral where
  whole : List Char
  part : List Char := []
  exponent : Int := 0
deriving DecidableEq

/-- Digits with an optional point among, before or after them, and an optional exponent. -/
def Numeral.read? (s : List Char) : Option Numeral :=
  let (whole, rest) := digitRun s
  let (part, rest) := match rest with
    | '.' :: rest => digitRun rest
    | rest => ([], rest)
  if whole.isEmpty && part.isEmpty then none
  else (exponent? rest).map fun exponent => { whole, part, exponent }

def fraction? (s : List Char) : Option Double :=
  let (negative, body) := splitSign s
  match Numeral.read? body with
  | some n => some (nearestDouble negative (ofDigits (n.whole ++ n.part)) (n.exponent - n.part.length))
  | none => wordNumber? negative body

end RowMapper.Number
