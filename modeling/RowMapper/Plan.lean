import RowMapper.Dialect
import RowMapper.Table.Basic

/-!
# Statement plans

A plan is the text of a statement and, for each of its placeholders in order, where the argument comes from. Plans
depend on the table and the dialect alone, not on any record.
-/

namespace RowMapper

inductive Source where
  /-- The field of a column. -/
  | field (c : Column)
  /-- The version of the record, plus one. -/
  | nextVersion
  /-- The version of the record as it was loaded. -/
  | existingVersion
deriving DecidableEq

structure Plan where
  sql : String
  sources : List Source
  /-- The column whose value the database generates. -/
  generated : Option Column := none
  /-- The columns of the result, in order. -/
  selected : List Column := []
deriving DecidableEq

inductive PlanKind where
  | insert
  | update
  | delete
  | get
deriving DecidableEq

namespace Table

def quotedName (t : Table) (d : Dialect) : String := d.quoteTable t.schema t.name

def storedSource (t : Table) (i : Nat) (c : Column) : Source :=
  if t.version = some i then .nextVersion else .field c

/-- The terms that pick the row of a record: its keys, and its version if asked for. -/
def keyTerms (t : Table) (withVersion : Bool) : List (Column × Source) :=
  t.keyColumns.map (fun c => (c, .field c)) ++
    if withVersion then t.versionColumn?.toList.map (·, .existingVersion) else []

/-- The terms that a new row consists of. A generated value has no source. -/
def insertTerms (t : Table) (d : Dialect) : List (Column × Option Source) :=
  t.columns.zipIdx.filterMap fun (c, i) =>
    if c.isTransient then none
    else if !c.autoIncrement then some (c, some (t.storedSource i c))
    else if d.autoIncrementValue.isEmpty then none
    else some (c, none)

/-- The terms that an update sets: what is neither key nor transient and passes the filter, and always the version. -/
def updateTerms (t : Table) (accepts : Column → Bool) : List (Column × Source) :=
  t.columns.zipIdx.filterMap fun (c, i) =>
    if c.isTransient || c.primaryKey then none
    else if t.version = some i || accepts c then some (c, t.storedSource i c)
    else none

end Table

namespace Dialect

/-- Terms with placeholders numbered from `n`. -/
def equations (d : Dialect) (n : Nat) (terms : List (Column × Source)) : List String :=
  terms.mapIdx fun i term => d.quote term.1.name ++ "=" ++ d.placeholder (n + i)

def insertedValues (d : Dialect) (n : Nat) : List (Column × Option Source) → List String
  | [] => []
  | (_, none) :: rest => d.autoIncrementValue :: d.insertedValues n rest
  | (_, some _) :: rest => d.placeholder n :: d.insertedValues (n + 1) rest

def quotedList (d : Dialect) (columns : List Column) : String :=
  ",".intercalate (columns.map fun c => d.quote c.name)

end Dialect

namespace Plan

def insert (t : Table) (d : Dialect) : Plan :=
  let terms := t.insertTerms d
  let generated := t.columns.find? fun c => !c.isTransient && c.autoIncrement
  let ending := generated.elim "" fun c => d.insertSuffix c.name
  { sql := "insert into " ++ t.quotedName d ++ " (" ++ d.quotedList (terms.map (·.1)) ++ ") values (" ++
      ",".intercalate (d.insertedValues 0 terms) ++ ")" ++ ending ++ d.terminator
    sources := terms.filterMap (·.2)
    generated }

/-- An update of the accepted columns. If there is nothing to set, the statement is empty and is not sent. -/
def update (t : Table) (d : Dialect) (accepts : Column → Bool) : Plan :=
  let terms := t.updateTerms accepts
  let picked := t.keyTerms true
  if terms.isEmpty then { sql := "", sources := [] }
  else
    { sql := "update " ++ t.quotedName d ++ " set " ++ ", ".intercalate (d.equations 0 terms) ++ " where " ++
        " and ".intercalate (d.equations terms.length picked) ++ d.terminator
      sources := terms.map (·.2) ++ picked.map (·.2) }

def delete (t : Table) (d : Dialect) : Plan :=
  let picked := t.keyTerms true
  { sql := "delete from " ++ t.quotedName d ++ " where " ++ " and ".intercalate (d.equations 0 picked) ++ d.terminator
    sources := picked.map (·.2) }

def get (t : Table) (d : Dialect) : Plan :=
  let picked := t.keyTerms false
  { sql := "select " ++ d.quotedList t.storedColumns ++ " from " ++ t.quotedName d ++ " where " ++
      " and ".intercalate (d.equations 0 picked) ++ d.terminator
    sources := picked.map (·.2)
    selected := t.storedColumns }

def build (t : Table) (d : Dialect) : PlanKind → Plan
  | .insert => insert t d
  | .update => update t d fun _ => true
  | .delete => delete t d
  | .get => get t d

end Plan

end RowMapper
