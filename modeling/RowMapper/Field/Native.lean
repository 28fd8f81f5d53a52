import RowMapper.Field.Semantic
import RowMapper.Number.Binary
import RowMapper.Json.Basic

/-!
# Native types

The types of record fields, and what a field of each type can hold.
-/

namespace RowMapper

open Number

inductive IntKind where
  | i8
  | i16
  | i32
  | i64
  | u8
  | u16
  | u32
  | u64
deriving DecidableEq

namespace IntKind

def min : IntKind → Int
  | i8 => Int8.minValue.toInt
  | i16 => Int16.minValue.toInt
  | i32 => Int32.minValue.toInt
  | i64 => Int64.minValue.toInt
  | _ => 0

def max : IntKind → Int
  | i8 => Int8.maxValue.toInt
  | i16 => Int16.maxValue.toInt
  | i32 => Int32.maxValue.toInt
  | i64 => Int64.maxValue.toInt
  | u8 => UInt8.size - 1
  | u16 => UInt16.size - 1
  | u32 => UInt32.size - 1
  | u64 => UInt64.size - 1

def name : IntKind → String
  | i8 => "i8"
  | i16 => "i16"
  | i32 => "i32"
  | i64 => "i64"
  | u8 => "u8"
  | u16 => "u16"
  | u32 => "u32"
  | u64 => "u64"

def semantic : IntKind → SemanticType
  | i8 => .int8
  | i16 => .int16
  | i32 => .int32
  | i64 => .int64
  | u8 => .uint8
  | u16 => .uint16
  | u32 => .uint32
  | u64 => .uint64

structure Num (k : IntKind) where
  val : Int
  min_le : k.min ≤ val
  le_max : val ≤ k.max
deriving DecidableEq

def zero (k : IntKind) : k.Num := ⟨0, by cases k <;> decide, by cases k <;> decide⟩

def ofInt? (k : IntKind) (n : Int) : Option k.Num :=
  if h : k.min ≤ n ∧ n ≤ k.max then some ⟨n, h.1, h.2⟩ else none

end IntKind

/-- A moment, as nanoseconds since the epoch. -/
structure Instant where
  nanos : Int
deriving DecidableEq

inductive NativeType where
  | bool
  | int (k : IntKind)
  | single
  | double
  | text
  | bytes
  | instant
  /-- Any JSON document. -/
  | document
  /-- A list of texts kept as a document. -/
  | textList
  /-- A list of 64-bit integers kept as a document. -/
  | intList
  /-- 64-bit integers by name, kept as a document. -/
  | intMap
  /-- A field that may be absent. -/
  | option (t : NativeType)
deriving DecidableEq

namespace NativeType

/-- The name that conversion errors give. -/
def name : NativeType → String
  | bool => "bool"
  | int k => k.name
  | single => "f32"
  | double => "f64"
  | text => "String"
  | bytes => "Vec<u8>"
  | instant => "SystemTime"
  | document => "serde_json::Value"
  | textList | intList | intMap => "Json"
  | option t => t.name

def semantic : NativeType → SemanticType
  | bool => .bool
  | int k => k.semantic
  | single => .float32
  | double => .float64
  | text => .text
  | bytes => .bytes
  | instant => .timestamp
  | document | textList | intList | intMap => .json
  | option t => t.semantic

def nullable : NativeType → Bool
  | option _ => true
  | _ => false

/-- What a field of the type holds. The names of an `intMap` are sorted and distinct. -/
def Carrier : NativeType → Type
  | bool => Bool
  | int k => k.Num
  | single => Single
  | double => Double
  | text => String
  | bytes => List UInt8
  | instant => Instant
  | document => Json
  | textList => List String
  | intList => List Int64
  | intMap => List (String × Int64)
  | option t => Option t.Carrier

/-- What a field of a fresh record holds. -/
def default : (t : NativeType) → t.Carrier
  | bool => false
  | int k => k.zero
  | single => (⟨0⟩ : Single)
  | double => (⟨0⟩ : Double)
  | text => ""
  | bytes => ([] : List UInt8)
  | instant => (⟨0⟩ : Instant)
  | document => Json.null
  | textList => ([] : List String)
  | intList => ([] : List Int64)
  | intMap => ([] : List (String × Int64))
  | option _ => none

end NativeType

end RowMapper
