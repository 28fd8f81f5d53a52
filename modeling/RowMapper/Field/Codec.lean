import RowMapper.Error
import RowMapper.Field.Native
import RowMapper.Json.Reader

/-!
# Fields as values

How the content of a field becomes a value, and which values become the content of a field.
-/

namespace RowMapper

open Number

/-- The error for a value of the wrong kind: an absent value is reported as such. -/
def mismatch (expected : String) (v : Value) : ValueError :=
  if v.isNull then .unexpectedNull expected else .typeMismatch expected v.typeName

namespace IntKind

/-- Integers are stored in the narrowest signed value that holds their kind, 64-bit unsigned ones bit for bit. -/
def store (k : IntKind) (n : k.Num) : Value :=
  match k with
  | i8 => .tinyInt (Int8.ofInt n.val)
  | i16 | u8 => .smallInt (Int16.ofInt n.val)
  | i32 | u16 => .int (Int32.ofInt n.val)
  | i64 | u32 | u64 => .bigInt (Int64.ofInt n.val)

def widen (k : IntKind) (n : Int64) : Int :=
  match k with
  | u64 => n.toInt % UInt64.size
  | _ => n.toInt

def load (k : IntKind) (v : Value) : Except ValueError k.Num :=
  match v.asInt? with
  | none => .error (mismatch k.name v)
  | some n =>
    match k.ofInt? (k.widen n) with
    | some m => .ok m
    | none => .error (.outOfRange (integerText n.toInt) k.name)

end IntKind

/-- Microseconds since the epoch, cut toward it; the least 64-bit number is not used. -/
def Instant.toMicros? (t : Instant) : Option Int64 :=
  let micros := t.nanos.tdiv 1000
  if 2 * micros.natAbs < UInt64.size then some (Int64.ofInt micros) else none

def Instant.ofMicros (n : Int64) : Instant := ⟨n.toInt * 1000⟩

/-- How errors show a moment: whole seconds, rounded down, and the nanoseconds after them. -/
def Instant.text (t : Instant) : String :=
  "SystemTime \x7b tv_sec: " ++ integerText (t.nanos / 1000000000) ++
    ", tv_nsec: " ++ integerText (t.nanos % 1000000000) ++ " \x7d"

def loadBool (v : Value) : Except ValueError Bool :=
  match v with
  | .bool b => .ok b
  | .text "true" | .text "t" | .text "1" => .ok true
  | .text "false" | .text "f" | .text "0" => .ok false
  | .text _ => .error (mismatch "bool" v)
  | v =>
    match v.asInt? with
    | some n => .ok (n != 0)
    | none => .error (mismatch "bool" v)

def loadDouble (expected : String) (v : Value) : Except ValueError Double :=
  match v.asDouble? with
  | some x => .ok x
  | none => .error (mismatch expected v)

/-- Text from text, from bytes that encode one, or as the text of a document. -/
def loadText (v : Value) : Except ValueError String :=
  match v with
  | .text s => .ok s
  | .bytes b =>
    match String.fromUTF8? ⟨b.toArray⟩ with
    | some s => .ok s
    | none => .error (.typeMismatch "String" "Bytes")
  | .json j => .ok j.text
  | v => .error (mismatch "String" v)

def loadBytes (v : Value) : Except ValueError (List UInt8) :=
  match v with
  | .bytes b => .ok b
  | .text s => .ok s.toUTF8.toList
  | v => .error (mismatch "Vec<u8>" v)

def loadInstant (v : Value) : Except ValueError Instant :=
  match v with
  | .timestamp n | .bigInt n => .ok (.ofMicros n)
  | v => .error (mismatch "SystemTime" v)

def loadJson (expected : String) (v : Value) : Except ValueError Json :=
  let spelled (s : Option String) : Except ValueError Json :=
    match s.bind Json.parse? with
    | some j => .ok j
    | none => .error (.json "malformed document")
  match v with
  | .json j => .ok j
  | .text s => spelled (some s)
  | .bytes b => spelled (String.fromUTF8? ⟨b.toArray⟩)
  | v => .error (mismatch expected v)

/-- Any document; one that is spelled is brought into canonical form. -/
def loadDocument (v : Value) : Except ValueError Json :=
  match v with
  | .json j => .ok j
  | v => (loadJson "serde_json::Value" v).map Json.canonical

def jsonInt? : Json → Option Int64
  | .integer n => if Int64.minValue.toInt ≤ n ∧ n ≤ Int64.maxValue.toInt then some (Int64.ofInt n) else none
  | _ => none

def jsonText? : Json → Option String
  | .string s => some s
  | _ => none

def jsonItems? {α : Type} (item? : Json → Option α) : Json → Option (List α)
  | .array items => items.mapM item?
  | _ => none

/-- The members of an object, all of one form, sorted by name, of equal names the last. -/
def jsonMembers? {α : Type} (item? : Json → Option α) : Json → Option (List (String × α))
  | .object members => (members.mapM fun m => (item? m.2).map (m.1, ·)).map Json.sortMembers
  | _ => none

def loadShaped {α : Type} (shape? : Json → Option α) (v : Value) : Except ValueError α := do
  match shape? (← loadJson "Json" v) with
  | some a => .ok a
  | none => .error (.json "unexpected shape")

namespace NativeType

/-- The value that stands for the content of a field. Only moments too far from the epoch have none. -/
def encode : (t : NativeType) → t.Carrier → Except ValueError Value
  | bool, b => .ok (.bool b)
  | int k, n => .ok (k.store n)
  | single, x => .ok (.float x)
  | double, x => .ok (.double x)
  | text, s => .ok (.text s)
  | bytes, b => .ok (.bytes b)
  | instant, t =>
    match t.toMicros? with
    | some n => .ok (.timestamp n)
    | none => .error (.outOfRange (Instant.text t) "Timestamp")
  | document, j => .ok (.json j)
  | textList, l => .ok (.json (.array (l.map Json.string)))
  | intList, l => .ok (.json (.array (l.map fun n => Json.integer n.toInt)))
  | intMap, l => .ok (.json (.object (l.map fun m => (m.1, Json.integer m.2.toInt))))
  | option _, none => .ok .null
  | option t, some x => t.encode x

def decode : (t : NativeType) → Value → Except ValueError t.Carrier
  | bool, v => loadBool v
  | int k, v => k.load v
  | single, v => (loadDouble "f32" v).map Double.toSingle
  | double, v => loadDouble "f64" v
  | text, v => loadText v
  | bytes, v => loadBytes v
  | instant, v => loadInstant v
  | document, v => loadDocument v
  | textList, v => loadShaped (jsonItems? jsonText?) v
  | intList, v => loadShaped (jsonItems? jsonInt?) v
  | intMap, v => loadShaped (jsonMembers? jsonInt?) v
  | option t, v => if v.isNull then .ok none else (t.decode v).map some

end NativeType

end RowMapper
