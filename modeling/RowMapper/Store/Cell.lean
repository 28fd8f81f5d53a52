import RowMapper.Store.RealText
import RowMapper.Value

/-!
# Cells

What a store keeps of a value: nothing, an integer, a real number, text or bytes. The affinity of a column turns a cell
into the kind that the column prefers, if nothing is lost.
-/

namespace RowMapper.Store

open Number

inductive Cell where
  | null
  | integer (n : Int64)
  | real (x : Double)
  | text (s : String)
  | blob (b : List UInt8)
deriving DecidableEq, Inhabited

namespace Cell

/-- Booleans and timestamps are kept as integers, documents as their text. -/
def ofValue : Value → Cell
  | .null => null
  | .bool b => integer (if b then 1 else 0)
  | .tinyInt n => integer n.toInt64
  | .smallInt n => integer n.toInt64
  | .int n => integer n.toInt64
  | .bigInt n => integer n
  | .timestamp n => integer n
  | .float x => real x.toDouble
  | .double x => real x
  | .text s => text s
  | .bytes b => blob b
  | .json j => text j.text

def toValue : Cell → Value
  | null => .null
  | integer n => .bigInt n
  | real x => .double x
  | text s => .text s
  | blob b => .bytes b

/-- An argument as it is kept: what is not a number becomes NULL. -/
def stored : Cell → Cell
  | real x => if x.isNaN then null else real x
  | c => c

end Cell

def ratio? (x : Double) : Option (Int × Nat) :=
  match x.decode with
  | .finite negative m e =>
    let magnitude : Int := m * Nat.pow 2 e
    some (if negative then -magnitude else magnitude, Nat.pow 2 BinaryFormat.double.minExponent)
  | _ => none

def fitsInt64 (n : Int) : Bool := Int64.minValue.toInt ≤ n && n ≤ Int64.maxValue.toInt

/-- The integer that a real number is equal to, if it fits. The least integer stays a real number. -/
def integral? (x : Double) : Option Int64 :=
  (ratio? x).bind fun (num, den) =>
    let n := num / den
    if num % den = 0 && fitsInt64 n && n != Int64.minValue.toInt then some (Int64.ofInt n) else none

/-- Equality as conditions and unique indexes see it: NULL equals nothing, and numbers are compared exactly. -/
def Cell.same : Cell → Cell → Bool
  | .integer a, .integer b => a == b
  | .integer a, .real b | .real b, .integer a =>
    match ratio? b with
    | some (num, den) => a.toInt * den == num
    | none => false
  | .real a, .real b =>
    match ratio? a, ratio? b with
    | some p, some q => p.1 == q.1
    | _, _ => a == b
  | .text a, .text b => a == b
  | .blob a, .blob b => a == b
  | _, _ => false

inductive Affinity where
  | integer
  | real
  | numeric
  | text
  | none
deriving DecidableEq

def isNumberBlank (c : Char) : Bool := c == ' ' || ('\t' ≤ c && c ≤ '\r')

/-- The number that a text spells as a whole: an integer if it is written as one that fits, or else a real number. -/
def spelledNumber? (s : String) : Option Cell :=
  let trimmed := Text.trimEnds isNumberBlank s.toList
  match (integer? trimmed).filter fitsInt64 with
  | some n => some (.integer (Int64.ofInt n))
  | none =>
    let (negative, body) := splitSign trimmed
    (Numeral.read? body).map fun n => .real (realOfNumeral negative n)

namespace Affinity

/-- The affinity of a declared type goes by the words that occur in it. -/
def ofType (declared : String) : Affinity :=
  let name := String.ofList (declared.toList.map Char.toUpper)
  let mentions (word : String) : Bool := (name.splitOn word).length != 1
  if mentions "INT" then integer
  else if mentions "CHAR" || mentions "CLOB" || mentions "TEXT" then text
  else if name.isEmpty || mentions "BLOB" then none
  else if mentions "REAL" || mentions "FLOA" || mentions "DOUB" then real
  else numeric

def readNumber : Cell → Cell
  | .text s => (spelledNumber? s).getD (.text s)
  | c => c

def preferInteger : Cell → Cell
  | .real x => (integral? x).elim (.real x) Cell.integer
  | c => c

def apply : Affinity → Cell → Cell
  | .integer, c | .numeric, c => preferInteger (readNumber c)
  | .real, c =>
    match preferInteger (readNumber c) with
    | .integer n => .real (Double.ofInt n.toInt)
    | c => c
  | .text, .integer n => .text (integerText n.toInt)
  | .text, .real x => .text (realText x)
  | .text, c => c
  | .none, c => c

def applyToCompared : Affinity → Cell → Cell
  | .text, c => Affinity.text.apply c
  | .none, c => c
  | _, c => Affinity.numeric.apply c

end Affinity

end RowMapper.Store
