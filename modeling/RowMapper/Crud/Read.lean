import RowMapper.Record.Binding
import RowMapper.Text.Basic

/-!
# Loading records

A record is loaded by its key, with the columns of the table in order, or from any query, whose columns are matched by
label.
-/

namespace RowMapper

namespace RecordType

variable (R : RecordType) (ctx : Context)

def tableOfType : Attempt Table :=
  match ctx.table? R.typeName with
  | some t => return t
  | none => .fault (.unregistered R.typeName)

def loadColumn (conv : Converter) (c : Column) (x : Value) : Edit R.Values Unit := do
  R.writeField c.path (← ofExcept (conv.fromDb c x))

/-- Columns in order are loaded from values in order; a missing value counts as NULL. -/
def loadByPlace (conv : Converter) : List Column → List Value → Edit R.Values Unit
  | [], _ => pure ()
  | c :: columns, values => do
    R.loadColumn conv c (values.head?.getD .null)
    loadByPlace conv columns values.tail

def load (step : Step R.Values Unit) : Attempt R.Values := do
  let (answer, record) ← (StateT.run step R.fresh : Script (Except Error Unit × R.Values))
  ofExcept answer
  return record

def get (keys : List Value) : Attempt (Option R.Values) := do
  let table ← R.tableOfType ctx
  ofExcept table.requireKeys
  let plan ← Attempt.plan R.typeName .get
  match ← Attempt.queryRow plan.sql keys with
  | none => return none
  | some row =>
    let record ← R.load do
      R.loadByPlace ctx.converter plan.selected row.values
      R.hooks .postGet ctx
    return some record

/-- The column of a label: a name of a column before one of a field, and an exact match before one up to ASCII case. -/
def columnOf? (columns : List Column) (label : String) : Option Column :=
  let stored := columns.filter (!·.isTransient)
  (stored.find? (·.name == label)).or <|
  (stored.find? (·.fieldName == label)).or <|
  (stored.find? (Text.eqIgnoreAsciiCase ·.name label)).or <|
  stored.find? (Text.eqIgnoreAsciiCase ·.fieldName label)

def resolve (columns : List Column) (sql : String) (labels : List String) : Except Error (List Column) :=
  labels.mapM fun label =>
    match columnOf? columns label with
    | some c => .ok c
    | none => .error (.unmappedColumn label R.typeName sql)

def loadByTarget (conv : Converter) (targets : List (Column × Value)) : Edit R.Values Unit :=
  targets.forM fun (c, x) => R.loadColumn conv c x

def appendRows (conv : Converter) (targets : List Column) : List Row → List R.Values →
    Script (Except Error Unit × List R.Values)
  | [], out => return (.ok (), out)
  | row :: rest, out => do
    let loaded ← R.load do
      R.loadByTarget conv (targets.zip row.values)
      R.hooks .postGet ctx
    match loaded with
    | .ok record => appendRows conv targets rest (out ++ [record])
    | .error e => return (.error e, out)

/-- Appends the records of a query's rows. A converter applies only to a registered type. -/
def selectInto (sql : String) (args : List Value) (out : List R.Values) :
    Script (Except Error Unit × List R.Values) := do
  match ← Attempt.query sql args with
  | .error e => return (.error e, out)
  | .ok [] => return (.ok (), out)
  | .ok (first :: rest) =>
    let table? := ctx.table? R.typeName
    let columns := table?.elim R.fields.columns (·.columns)
    let conv := table?.elim {} fun _ => ctx.converter
    match R.resolve columns sql first.columns with
    | .error e => return (.error e, out)
    | .ok targets => R.appendRows ctx conv targets (first :: rest) out

def select (sql : String) (args : List Value) : Attempt (List R.Values) := do
  let (answer, out) ← (R.selectInto ctx sql args [] : Script (Except Error Unit × List R.Values))
  ofExcept answer
  return out

def selectOne (sql : String) (args : List Value) : Attempt (Option R.Values) := do
  match ← R.select ctx sql args with
  | [] => return none
  | [record] => return some record
  | _ => throw (.multipleRows sql)

end RecordType

/-- The first value of a query's first row, as the content of a field; without a row, what a fresh field holds. -/
def selectValue (t : NativeType) (sql : String) (args : List Value) : Attempt t.Carrier := do
  match ← Attempt.queryRow sql args with
  | none => return t.default
  | some row =>
    ofExcept ((t.decode (row.values.head?.getD .null)).mapError (.field (row.columns.head?.getD "")))

end RowMapper
