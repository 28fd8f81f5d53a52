import RowMapper.Record.Access
import RowMapper.Script

/-!
# Record types

A record type is a list of fields with a name, a default table name and hooks. Hooks run before and after each operation
on a record, and they can send statements of their own.
-/

namespace RowMapper

/-- A conversion between what fields hold and what the database holds, for the values of mapped columns. -/
structure Converter where
  toDb : Column → Value → Except Error Value := fun _ v => .ok v
  fromDb : Column → Value → Except Error Value := fun _ v => .ok v

/-- What an operation knows of the mapper that runs it. -/
structure Context where
  dialect : Dialect
  converter : Converter
  tables : List Table

def Context.table? (ctx : Context) (typeName : String) : Option Table := ctx.tables.find? (·.typeName == typeName)

inductive Hook where
  | preInsert
  | postInsert
  | preUpdate
  | postUpdate
  | preDelete
  | postDelete
  /-- After a record is loaded. -/
  | postGet
deriving DecidableEq

/-- A change of a record that sends nothing; what it changed before an error stays changed. -/
abbrev Edit (ρ α : Type) := ExceptT Error (StateM ρ) α

/-- A script that can change a record; what it changed before an error stays changed. -/
abbrev Step (ρ α : Type) := ExceptT Error (StateT ρ Script) α

instance {ρ : Type} : MonadLift (ExceptT Error (StateM ρ)) (ExceptT Error (StateT ρ Script)) where
  monadLift edit := fun record => Script.done (edit record)

instance {ρ : Type} : MonadLift (ExceptT Error Script) (ExceptT Error (StateT ρ Script)) where
  monadLift script := fun record => Script.bind script fun answer => .done (answer, record)

structure RecordType where
  /-- The full name, by which the type is registered. -/
  typeName : String
  recordName : String
  /-- The table it is registered under by default. -/
  tableName : String
  fields : Fields
  addressing : Addressing := .nested
  hooks : Hook → Context → Step fields.Values Unit := fun _ _ => pure ()

structure Record where
  type : RecordType
  values : type.fields.Values

namespace RecordType

/-- What a record of the type holds. -/
abbrev Values (R : RecordType) : Type := R.fields.Values

def fresh (R : RecordType) : R.Values := R.fields.fresh

def read (R : RecordType) (path : String) (record : R.Values) : Except Error Value := do
  (← R.fields.locate R.addressing R.recordName path).read record

def write (R : RecordType) (path : String) (x : Value) (record : R.Values) : Except Error R.Values := do
  (← R.fields.locate R.addressing R.recordName path).write x record

def readField (R : RecordType) (path : String) : Edit R.Values Value := fun record => (R.read path record, record)

/-- A write that fails leaves the record as it was. -/
def writeField (R : RecordType) (path : String) (x : Value) : Edit R.Values Unit := fun record =>
  match R.write path x record with
  | .ok changed => (.ok (), changed)
  | .error e => (.error e, record)

end RecordType

end RowMapper
