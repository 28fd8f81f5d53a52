import RowMapper.Json.Printer
import RowMapper.Text.Basic
import RowMapper.Text.Quoted

/-!
# Values

A value is one cell on its way to or from a database: a statement argument or a scanned column.
-/

namespace RowMapper

open Number

inductive Value where
  | null
  | bool (b : Bool)
  | tinyInt (n : Int8)
  | smallInt (n : Int16)
  | int (n : Int32)
  | bigInt (n : Int64)
  | float (x : Single)
  | double (x : Double)
  | text (s : String)
  | bytes (b : List UInt8)
  /-- Microseconds since the epoch. -/
  | timestamp (micros : Int64)
  | json (document : Json)
deriving DecidableEq, Inhabited

namespace Value

def isNull : Value → Bool
  | null => true
  | _ => false

def typeName : Value → String
  | null => "Null"
  | bool _ => "Bool"
  | tinyInt _ => "TinyInt"
  | smallInt _ => "SmallInt"
  | int _ => "Int"
  | bigInt _ => "BigInt"
  | float _ => "Float"
  | double _ => "Double"
  | text _ => "Text"
  | bytes _ => "Bytes"
  | timestamp _ => "Timestamp"
  | json _ => "Json"

/-- The integer that a text spells, white space around it aside, if it fits in 64 bits. -/
def parseInt64? (s : String) : Option Int64 :=
  match integer? (Text.trimBlank s.toList) with
  | some n => if Int64.minValue.toInt ≤ n ∧ n ≤ Int64.maxValue.toInt then some (Int64.ofInt n) else none
  | none => none

/-- Booleans, integers and timestamps widen; text is read. -/
def asInt? : Value → Option Int64
  | bool b => some (if b then 1 else 0)
  | tinyInt n => some n.toInt64
  | smallInt n => some n.toInt64
  | int n => some n.toInt64
  | bigInt n => some n
  | timestamp n => some n
  | text s => parseInt64? s
  | _ => none

/-- Floating-point numbers, text read as one, and whatever is an integer. -/
def asDouble? : Value → Option Double
  | float x => some x.toDouble
  | double x => some x
  | text s => fraction? (Text.trimBlank s.toList)
  | v => v.asInt?.map fun n => Double.ofInt n.toInt

def asText? : Value → Option String
  | text s => some s
  | _ => none

def asBytes? : Value → Option (List UInt8)
  | bytes b => some b
  | text s => some s.toUTF8.toList
  | _ => none

/-- Numbers are shown with the fewest digits that tell them apart, never with an exponent. -/
def numberLayout : Layout where
  plainFrom := -400
  plainTo := 400
  pointZero := false
  exponentSign := false
  tieUp := true
  notANumber := "NaN"
  infinite := "inf"

def display : Value → String
  | null => "NULL"
  | bool b => if b then "true" else "false"
  | tinyInt n => integerText n.toInt
  | smallInt n => integerText n.toInt
  | int n => integerText n.toInt
  | bigInt n => integerText n.toInt
  | float x => numberLayout.single x
  | double x => numberLayout.double x
  | text s => Text.quoted s
  | bytes b => "<" ++ integerText b.length ++ " bytes>"
  | timestamp n => "@" ++ integerText n.toInt ++ "us"
  | json j => j.text

end Value

end RowMapper
