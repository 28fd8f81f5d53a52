import RowMapper.Record.Binding

/-!
# Inserting, updating and deleting records

Records are written one after the other, up to the first error. Generated keys and versions are written back into the
record. A record whose version is no longer that of its row is a conflict.
-/

namespace RowMapper

inductive Write where
  | insert
  /-- Sets the columns that pass the filter, or all. -/
  | update (accepts : Option (Column → Bool))
  | delete

namespace Write

def picksRow : Write → Bool
  | insert => false
  | _ => true

def preHook : Write → Hook
  | insert => .preInsert
  | update _ => .preUpdate
  | delete => .preDelete

def postHook : Write → Hook
  | insert => .postInsert
  | update _ => .postUpdate
  | delete => .postDelete

end Write

namespace RecordType

variable (R : RecordType) (ctx : Context)

def tableOfRecord : Attempt Table :=
  match ctx.table? R.typeName with
  | some t => return t
  | none => .fault (.unregistered R.recordName)

/-- What comes before the statement of a write: its table is found and the hook runs. -/
def announce (w : Write) : Step R.Values Table := do
  let table ← R.tableOfRecord ctx
  if w.picksRow then ofExcept table.requireKeys
  R.hooks w.preHook ctx
  return table

/-- The plan of a write. The plan for a filter is built each time. -/
def writePlan (t : Table) : Write → Attempt Plan
  | .insert => Attempt.plan R.typeName .insert
  | .update none => Attempt.plan R.typeName .update
  | .update (some accepts) => return .update t ctx.dialect accepts
  | .delete => Attempt.plan R.typeName .delete

def compose (t : Table) (w : Write) : Step R.Values (Plan × Bound) := do
  let plan ← R.writePlan ctx t w
  return (plan, ← R.bind ctx.converter t plan)

def insertForKey (bound : Bound) : Attempt (Option Value) := do
  match ctx.dialect.keyReport with
  | .returning => return (← Attempt.queryRow bound.sql bound.args).bind (·.values.head?)
  | .lastInsertId => return (← Attempt.exec bound.sql bound.args).lastInsertId.map Value.bigInt
  | .notReported =>
    let _ ← Attempt.exec bound.sql bound.args
    return none

/-- Sends an insertion. A generated key is written into its field. -/
def sendInsert (generated : Option Column) (bound : Bound) : Step R.Values Unit := do
  match generated with
  | none =>
    let _ ← Attempt.exec bound.sql bound.args
  | some c =>
    if let some key ← insertForKey ctx bound then
      R.writeField c.path (← ofExcept (ctx.converter.fromDb c key))

def insert : Step R.Values Unit := do
  let table ← R.announce ctx .insert
  let (plan, bound) ← R.compose ctx table .insert
  R.sendInsert ctx plan.generated bound
  R.hooks Write.insert.postHook ctx

/-- Adds to a count of rows, which is kept in 64 bits. -/
def addCount (count rows : Nat) : Attempt Nat :=
  if UInt64.size ≤ count + rows then .fault .overflow else return count + rows

/-- Whether no row was hit although the record was loaded with a version. -/
def isConflict (t : Table) (bound : Bound) (rows : Nat) : Bool :=
  rows == 0 && t.version.isSome && decide (0 < bound.version)

/-- Looks the row up again to tell a changed row from a missing one. -/
def conflict (t : Table) (bound : Bound) : Attempt LockConflict := do
  let plan ← Attempt.plan R.typeName .get
  let row ← Attempt.queryRow plan.sql bound.keys
  return { tableName := t.name, keys := bound.keys, rowExists := row.isSome, localVersion := bound.version }

def refuseConflict (t : Table) (bound : Bound) (rows : Nat) : Attempt Unit := do
  if isConflict t bound rows then throw (.optimisticLock (← R.conflict t bound))

/-- Sends an update and returns the count of affected rows. An empty statement is not sent. -/
def sendUpdate (bound : Bound) : Attempt Nat := do
  if bound.sql.isEmpty then return 0
  return (← Attempt.exec bound.sql bound.args).rowsAffected

/-- Updates the columns that pass the filter, or all, and returns the count of affected rows on top of those before. -/
def update (accepts : Option (Column → Bool)) (count : Nat) : Step R.Values Nat := do
  let table ← R.announce ctx (.update accepts)
  let (_, bound) ← R.compose ctx table (.update accepts)
  let rows ← sendUpdate bound
  R.refuseConflict table bound rows
  R.storeVersion table (← nextVersion bound.version)
  let count ← addCount count rows
  R.hooks (Write.update accepts).postHook ctx
  return count

def delete (count : Nat) : Step R.Values Nat := do
  let table ← R.announce ctx .delete
  let (_, bound) ← R.compose ctx table .delete
  let rows := (← Attempt.exec bound.sql bound.args).rowsAffected
  R.refuseConflict table bound rows
  let count ← addCount count rows
  R.hooks Write.delete.postHook ctx
  return count

end RecordType

def Record.run {α : Type} (r : Record) (step : (R : RecordType) → Step R.Values α) :
    Script (Except Error α × Record) := do
  let (answer, values) ← step r.type r.values
  return (answer, { r with values })

/-- A step on each record in order, up to the first error. Each takes what the one before it returned. -/
def Record.runAll {α : Type} (step : (R : RecordType) → α → Step R.Values α) (x : α) :
    List Record → Script (Except Error α × List Record)
  | [] => return (.ok x, [])
  | r :: rest => do
    match ← r.run fun R => step R x with
    | (.error e, r) => return (.error e, r :: rest)
    | (.ok x, r) =>
      let (answer, rest) ← Record.runAll step x rest
      return (answer, r :: rest)

namespace Context

variable (ctx : Context)

def insert (records : List Record) : Script (Except Error Unit × List Record) :=
  Record.runAll (fun R _ => R.insert ctx) () records

def update (records : List Record) : Script (Except Error Nat × List Record) :=
  Record.runAll (fun R => R.update ctx none) 0 records

def updateColumns (accepts : Column → Bool) (records : List Record) : Script (Except Error Nat × List Record) :=
  Record.runAll (fun R => R.update ctx (some accepts)) 0 records

def delete (records : List Record) : Script (Except Error Nat × List Record) :=
  Record.runAll (fun R => R.delete ctx) 0 records

end Context

end RowMapper
