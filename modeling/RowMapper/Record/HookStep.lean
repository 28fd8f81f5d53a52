import RowMapper.Crud.Read
import RowMapper.Crud.Write

/-!
# Hooks from steps

A hook can be given as a list of steps, which are taken in order up to the first error.
-/

namespace RowMapper

inductive HookStep where
  | set (path : String) (x : Value)
  | exec (sql : String) (args : List Value)
  /-- Writes the integer that a query returns into a field. -/
  | selectInt (sql : String) (args : List Value) (path : String)
  /-- Inserts a new record with these fields. -/
  | insert (type : RecordType) (fields : List (String × Value))
  | fail (text : String)

namespace RecordType

def build (R : RecordType) (fields : List (String × Value)) : Except Error R.Values :=
  fields.foldlM (fun record (path, x) => R.write path x record) R.fresh

def hookStep (R : RecordType) (ctx : Context) : HookStep → Step R.Values Unit
  | .set path x => R.writeField path x
  | .exec sql args => do
    let _ ← Attempt.exec sql args
  | .selectInt sql args path => do
    let n ← (selectValue (.int .i64) sql args : Attempt (IntKind.Num .i64))
    R.writeField path (IntKind.i64.store n)
  | .insert type fields => do
    let values ← ofExcept (type.build fields)
    let (answer, _) ← (ctx.insert [⟨type, values⟩] : Script (Except Error Unit × List Record))
    ofExcept answer
  | .fail text => throw (.custom text)

/-- The record type with hooks that take steps. -/
def withHooks (R : RecordType) (steps : Hook → List HookStep) : RecordType :=
  { R with hooks := fun hook ctx => (steps hook).forM (R.hookStep ctx) }

end RecordType

end RowMapper
