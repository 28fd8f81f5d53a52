import RowMapper.Table.Definition

/-!
# Registered tables

A registry holds one table for each registered record type, in the order of first registration, and the plans that were
built for it. Whatever changes what a statement says also forgets the plans.
-/

namespace RowMapper

/-- A table with the plans built so far. -/
structure RegisteredTable where
  table : Table
  plans : PlanKind → Option Plan := fun _ => none

namespace RegisteredTable

/-- The plan of a kind: the kept one, or else a new one that is kept. -/
def plan (r : RegisteredTable) (d : Dialect) (kind : PlanKind) : Plan × RegisteredTable :=
  match r.plans kind with
  | some plan => (plan, r)
  | none =>
    let plan := Plan.build r.table d kind
    (plan, { r with plans := fun k => if k = kind then some plan else r.plans k })

/-- Indexes are in no plan; any other change forgets the plans. -/
def change (r : RegisteredTable) (c : TableChange) : Except Fault (ChangedTable × RegisteredTable) :=
  (r.table.change c).map fun changed =>
    match c with
    | .index .. => (changed, { r with table := changed.table })
    | _ => (changed, { table := changed.table })

def rename (r : RegisteredTable) (schema : Option String) (name : String) : RegisteredTable :=
  { table := { r.table with name, schema } }

def forgetPlans (r : RegisteredTable) : RegisteredTable := { table := r.table }

end RegisteredTable

inductive TableStep where
  | change (c : TableChange)
  | forgetPlans
  | column (name : String)
  | index (name : String)
  | definition (guarded : Bool)
deriving DecidableEq

inductive TableAnswer where
  | nothing
  | column (c : Column)
  | index (i : Index)
  | statements (l : List String)
deriving DecidableEq

def ChangedTable.answer (c : ChangedTable) : TableAnswer :=
  match c.column, c.index with
  | some column, _ => .column column
  | none, some index => .index index
  | none, none => .nothing

namespace RegisteredTable

def step (d : Dialect) (r : RegisteredTable) : TableStep → Except Fault (TableAnswer × RegisteredTable)
  | .change c => (r.change c).map fun (changed, r) => (changed.answer, r)
  | .forgetPlans => .ok (.nothing, r.forgetPlans)
  | .column name => (r.table.column name).map fun c => (.column c, r)
  | .index name => .ok ((r.table.index? name).elim .nothing .index, r)
  | .definition guarded => (r.table.createStatements d guarded).map fun l => (.statements l, r)

def steps (d : Dialect) (r : RegisteredTable) : List TableStep → Except Fault (List TableAnswer × RegisteredTable)
  | [] => .ok ([], r)
  | first :: rest => do
    let (answer, r) ← r.step d first
    let (answers, r) ← r.steps d rest
    return (answer :: answers, r)

end RegisteredTable

structure Registry where
  entries : List RegisteredTable := []

namespace Registry

def tables (r : Registry) : List Table := r.entries.map (·.table)

def find? (r : Registry) (typeName : String) : Option RegisteredTable :=
  r.entries.find? (·.table.typeName == typeName)

def find (r : Registry) (typeName : String) : Except Fault RegisteredTable :=
  match r.find? typeName with
  | some entry => .ok entry
  | none => .error (.unregistered typeName)

def put (r : Registry) (entry : RegisteredTable) : Registry :=
  { entries := r.entries.map fun e => if e.table.typeName = entry.table.typeName then entry else e }

/-- A type that is registered again keeps its table, under the new name. -/
def register (r : Registry) (typeName : String) (fields : Fields) (schema : Option String) (name : String) : Registry :=
  match r.find? typeName with
  | some entry => r.put (entry.rename schema name)
  | none => { entries := r.entries ++ [{ table := .ofFields typeName name schema fields }] }

def configure (r : Registry) (d : Dialect) (typeName : String) (steps : List TableStep) :
    Except Fault (List TableAnswer × Registry) := do
  let (answers, entry) ← (← r.find typeName).steps d steps
  return (answers, r.put entry)

def removeIndex (r : Registry) (typeName index : String) : Except Fault Registry :=
  (r.find typeName).map fun entry => r.put { entry with table := entry.table.removeIndex index }

def plan (r : Registry) (d : Dialect) (typeName : String) (kind : PlanKind) : Except Fault (Plan × Registry) :=
  (r.find typeName).map fun entry =>
    let (plan, entry) := entry.plan d kind
    (plan, r.put entry)

end Registry

end RowMapper
