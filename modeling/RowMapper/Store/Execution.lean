import RowMapper.Store.Definition

/-!
# Running statements

A statement that is refused changes no table. References are checked after each statement, the deferred ones only
outside transactions and at a commit. A statement that is still prepared answers under the labels it was prepared with,
and is then prepared anew; labels that changed since are therefore seen one answer late.
-/

namespace RowMapper.Store

structure Answer where
  columns : List String := []
  rows : List (List Cell) := []

namespace Content

/-- The cells of a full row: the written ones in their columns, and NULL elsewhere. -/
def fullRow (t : Relation) (places : List Nat) (written : List Cell) : List Cell :=
  t.columns.mapIdx fun i _ => ((places.zip written).lookup i).getD .null

def insert (c : Content) (args : List Cell) (table : String) (columns : Option (List String))
    (values : List Expression) : Except Refusal (Int64 × Content) := do
  let t ← c.table table
  let places ← match columns with
    | some names => names.mapM t.place
    | none => pure (List.range t.columns.length)
  let written ← values.mapM (resolve none args)
  if written.length != places.length then throw (.valueCount t.name)
  let (rowId, t) ← t.insert (c.uniqueSets t) (fullRow t places (written.map (Operand.value [])))
  return (rowId, c.put t)

/-- Changes each matching row in turn. -/
def update (c : Content) (args : List Cell) (table : String) (changes : List (String × Expression))
    (conditions : List Equation) : Except Refusal (Nat × Content) := do
  let t ← c.table table
  let changes ← changes.mapM fun (column, e) => do return (← t.place column, ← resolve (some t) args e)
  let holds ← condition (some t) args conditions
  let matching := t.rows.filter fun row => holds row.cells
  let changed (row : StoredRow) : List Cell :=
    changes.foldl (fun cells change => cells.set change.1 (change.2.value row.cells)) row.cells
  let t ← matching.foldlM (fun t row => t.replace (c.uniqueSets t) row.rowId (changed row)) t
  return (matching.length, c.put t)

def delete (c : Content) (args : List Cell) (table : String) (conditions : List Equation) :
    Except Refusal (Nat × Content) := do
  let t ← c.table table
  let holds ← condition (some t) args conditions
  let kept := t.rows.filter fun row => !holds row.cells
  return (t.rows.length - kept.length, c.put { t with rows := kept })

/-- The label of a value that has no label of its own. -/
def defaultLabel (t : Option Relation) : Expression → String
  | .name s isQuoted =>
    match t.bind fun t => (t.place? s).bind (t.columns[·]?) with
    | some column => column.name
    | none => if isQuoted then "\"" ++ s ++ "\"" else s
  | .literal _ => ""
  | .argument n => "?" ++ Number.integerText n

def resultOperands (t : Option Relation) (args : List Cell) : ResultColumn → Except Refusal (List (String × Operand))
  | .all =>
    match t with
    | some t => .ok (t.columns.mapIdx fun i column => (column.name, .column i))
    | none => .error .malformed
  | .count => .error .malformed
  | .value e label => do return [(label.getD (defaultLabel t e), ← resolve t args e)]

def select (c : Content) (args : List Cell) (results : List ResultColumn) (table : Option String)
    (conditions : List Equation) : Except Refusal Answer := do
  let t ← match table with
    | some name => some <$> c.table name
    | none => pure none
  let holds ← condition t args conditions
  let rows := (t.elim [[]] fun t => t.rows.map (·.cells)).filter holds
  if results = [.count] then
    return { columns := ["count(*)"], rows := [[.integer (Int64.ofNat rows.length)]] }
  let operands := (← results.mapM (resultOperands t args)).flatten
  return { columns := operands.map (·.1), rows := rows.map fun row => operands.map fun o => o.2.value row }

def referencesHold (c : Content) (withDeferred : Bool) : Bool :=
  c.tables.all fun t => t.columns.zipIdx.all fun (column, i) =>
    column.reference.all fun reference =>
      (reference.deferred && !withDeferred) || t.rows.all fun row =>
        let cell := row.cells.getD i .null
        cell == .null || (c.table? reference.table).any fun parent =>
          (parent.place? reference.column).any fun j =>
            parent.rows.any fun other => cell.same (other.cells.getD j .null)

end Content

def apply (s : Store) (args : List Cell) : Statement → Except Refusal (Answer × Store)
  | .setting name value =>
    if name == "foreign_keys" && s.saved.isNone then
      .ok ({}, { s with checksReferences := ["on", "yes", "true", "1"].contains value })
    else .ok ({}, s)
  | .createTable guarded table => do return ({}, { s with content := ← s.content.createTable guarded table })
  | .dropTable guarded table => do return ({}, { s with content := ← s.content.dropTable guarded table })
  | .createIndex guarded unique index table columns => do
    return ({}, { s with content := ← s.content.createIndex guarded unique index table columns })
  | .dropIndex guarded index => do return ({}, { s with content := ← s.content.dropIndex guarded index })
  | .insert table columns values => do
    let (rowId, content) ← s.content.insert args table columns values
    return ({}, { s with content, changes := 1, lastRowId := rowId })
  | .update table changes conditions => do
    let (count, content) ← s.content.update args table changes conditions
    return ({}, { s with content, changes := count })
  | .delete table conditions => do
    let (count, content) ← s.content.delete args table conditions
    return ({}, { s with content, changes := count })
  | .select results table conditions => do return (← s.content.select args results table conditions, s)

def referencesHold (s : Store) : Bool := !s.checksReferences || s.content.referencesHold s.saved.isNone

/-- A statement that breaks a rule while it changes rows leaves no change to count. -/
def afterRefusal (s : Store) (statement : Statement) (refusal : Refusal) : Store :=
  if statement.changesRows && refusal.isViolation then { s with changes := 0 } else s

def perform (s : Store) (args : List Cell) (statement : Statement) : Except Refusal Answer × Store :=
  match s.apply args statement with
  | .error refusal => (.error refusal, s.afterRefusal statement refusal)
  | .ok (answer, changed) =>
    if changed.referencesHold then (.ok answer, changed)
    else (.error .brokenReference, s.afterRefusal statement .brokenReference)

/-- The labels of a statement's columns, if it can be prepared: nothing that it names is missing or taken. -/
def labels? (s : Store) (args : List Cell) (statement : Statement) : Option (List String) :=
  match s.apply args statement with
  | .ok (answer, _) => some answer.columns
  | .error refusal => if refusal.isViolation then some [] else none

/-- The answer under other labels. Rows are cut to the number of labels, and must not be shorter. -/
def Answer.under (labels : List String) (answer : Answer) : Except Refusal Answer :=
  match labels.drop answer.columns.length, answer.rows with
  | label :: _, _ :: _ => .error (.missingColumn label)
  | _, rows => .ok { columns := labels, rows := rows.map (·.take labels.length) }

def keep (s : Store) (sql : String) (labels? : Option (List String)) : Store :=
  match labels? with
  | some labels => { s with prepared := s.prepared.keep sql labels }
  | none => s

def run (s : Store) (text : String) (args : List Cell) : Except Refusal Answer × Store :=
  let sql := Text.trim text
  match Statement.parse? sql with
  | none => (.error .malformed, s)
  | some (statement, count) =>
    let earlier? := s.prepared.labels? sql
    let found? := s.labels? args statement
    if args.length != count then (.error (.argumentCount count args.length), s.keep sql (earlier?.or found?))
    else
      let (answer, s) := s.perform args statement
      (answer.bind fun answer => answer.under (earlier?.getD answer.columns), s.keep sql (found?.or earlier?))

def start (s : Store) : Except Refusal Unit × Store :=
  if s.saved.isSome then (.error .inTransaction, s) else (.ok (), { s with saved := some s.content })

/-- Closes the open transaction, unless a reference is broken; then it stays open. -/
def commit (s : Store) : Except Refusal Unit × Store :=
  if s.saved.isNone then (.error .noTransaction, s)
  else if s.checksReferences && !s.content.referencesHold true then (.error .brokenReference, s)
  else (.ok (), { s with saved := none })

def rollback (s : Store) : Except Refusal Unit × Store :=
  match s.saved with
  | none => (.error .noTransaction, s)
  | some content => (.ok (), { s with content, saved := none })

end RowMapper.Store
