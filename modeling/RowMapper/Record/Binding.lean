import RowMapper.Record.Basic

/-!
# Binding

A plan is bound to a record by taking each argument from where the plan says.
-/

namespace RowMapper

structure Bound where
  sql : String
  args : List Value
  /-- The key values, as the database holds them. -/
  keys : List Value
  /-- The version of the record as it was loaded, zero if it has none. -/
  version : Int64

/-- The version after this one. The greatest version has none. -/
def nextVersion (version : Int64) : Attempt Int64 :=
  if version = Int64.maxValue then .fault .overflow else return version + 1

namespace RecordType

variable (R : RecordType)

def storedField (conv : Converter) (c : Column) : Step R.Values Value := do
  ofExcept (conv.toDb c (← R.readField c.path))

def loadedVersion (t : Table) : Edit R.Values Int64 := do
  match t.versionColumn? with
  | some c => return (← R.readField c.path).asInt?.getD 0
  | none => return 0

def storeVersion (t : Table) (version : Int64) : Edit R.Values Unit :=
  match t.versionColumn? with
  | some c => R.writeField c.path (.bigInt version)
  | none => return

/-- One argument. A record that was never stored gets its first version at once, so that it agrees with the row. -/
def argument (conv : Converter) (t : Table) (version : Int64) : Source → Step R.Values Value
  | .field c => R.storedField conv c
  | .nextVersion => do
    let next ← nextVersion version
    if version = 0 then R.storeVersion t next
    return .bigInt next
  | .existingVersion => return .bigInt version

def bind (conv : Converter) (t : Table) (plan : Plan) : Step R.Values Bound := do
  let version ← R.loadedVersion t
  let args ← plan.sources.mapM (R.argument conv t version)
  let keys ← t.keyColumns.mapM (R.storedField conv)
  return { sql := plan.sql, args, keys, version }

end RecordType

end RowMapper
