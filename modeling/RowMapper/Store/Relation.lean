import RowMapper.Store.Statement

/-!
# Relations

A table with its rows, in the order of their row numbers, and the rules that rows have to keep.
-/

namespace RowMapper.Store

open Number

inductive Refusal where
  | malformed
  | argumentCount (expected got : Nat)
  | noTable (name : String)
  | noColumn (name : String)
  | noIndex (name : String)
  | nameTaken (name : String)
  | invalidDefinition (table : String)
  | valueCount (table : String)
  | notNull (column : String)
  | notUnique (table : String)
  | noInteger (column : String)
  | noRowNumber (table : String)
  | brokenReference
  | unexpectedRows
  | missingColumn (label : String)
  | inTransaction
  | noTransaction
deriving DecidableEq

def Refusal.message : Refusal → String
  | malformed => "malformed statement"
  | argumentCount expected got =>
    "expected " ++ integerText expected ++ " arguments, got " ++ integerText got
  | noTable name => "no such table: " ++ name
  | noColumn name => "no such column: " ++ name
  | noIndex name => "no such index: " ++ name
  | nameTaken name => "already exists: " ++ name
  | invalidDefinition table => "invalid definition of " ++ table
  | valueCount table => "wrong number of values for " ++ table
  | notNull column => "NOT NULL constraint failed: " ++ column
  | notUnique table => "UNIQUE constraint failed: " ++ table
  | noInteger column => "not an integer: " ++ column
  | noRowNumber table => "no row number left in " ++ table
  | brokenReference => "FOREIGN KEY constraint failed"
  | unexpectedRows => "the statement returns rows"
  | missingColumn label => "no value for column " ++ label
  | inTransaction => "a transaction is open"
  | noTransaction => "no transaction is open"

/-- Whether a rule for rows was broken, rather than a statement misunderstood. -/
def Refusal.isViolation : Refusal → Bool
  | notNull _ | notUnique _ | noInteger _ | noRowNumber _ | brokenReference => true
  | _ => false

def sameName (a b : String) : Bool := a.toList.map Char.toLower == b.toList.map Char.toLower

structure StoredRow where
  rowId : Int64
  cells : List Cell
deriving DecidableEq

/-- Columns whose cells are unique together. A constant stands in a place without a column. -/
abbrev UniqueSet := List (Option Nat)

structure Relation where
  definition : TableDefinition
  /-- The column that is the row number. -/
  rowIdColumn : Option Nat
  uniqueSets : List UniqueSet
  rows : List StoredRow
  /-- The greatest row number that was ever given, for tables that never give one twice. -/
  lastGiven : Int64
deriving DecidableEq

namespace Relation

def name (t : Relation) : String := t.definition.name

def columns (t : Relation) : List ColumnDefinition := t.definition.columns

def place? (t : Relation) (column : String) : Option Nat := t.columns.findIdx? fun c => sameName c.name column

def place (t : Relation) (column : String) : Except Refusal Nat :=
  match t.place? column with
  | some i => .ok i
  | none => .error (.noColumn column)

def affinity (t : Relation) (i : Nat) : Affinity := (t.columns[i]?).elim .none fun c => .ofType c.type

def neverReuses (t : Relation) : Bool := t.columns.any (·.autoIncrement)

/-- Whether two rows agree on a set of columns. NULL agrees with nothing. -/
def agree (set : UniqueSet) (a b : List Cell) : Bool :=
  set.all fun place => place.all fun i => (a.getD i .null).same (b.getD i .null)

def admits (t : Relation) (others : List StoredRow) (sets : List UniqueSet) (row : StoredRow) :
    Except Refusal Unit := do
  for (c, i) in t.columns.zipIdx do
    if c.notNull && t.rowIdColumn != some i && row.cells.getD i .null = .null then throw (.notNull c.name)
  if others.any fun other => other.rowId == row.rowId || sets.any fun set => agree set row.cells other.cells then
    throw (.notUnique t.name)

/-- The rows with one more, in the order of row numbers. -/
def insertRow (row : StoredRow) : List StoredRow → List StoredRow
  | [] => [row]
  | other :: rest => if row.rowId < other.rowId then row :: other :: rest else other :: insertRow row rest

/-- The row number that follows all that are in use and, if none is used twice, all that ever were. -/
def nextRowId (t : Relation) : Except Refusal Int64 :=
  let inUse := t.rows.getLast?.elim 0 fun row => row.rowId.toInt
  let last := if t.neverReuses then max inUse t.lastGiven.toInt else inUse
  if last < Int64.maxValue.toInt then .ok (Int64.ofInt (last + 1)) else .error (.noRowNumber t.name)

/-- The row number of new cells: what its column says, or else the next one. -/
def chooseRowId (t : Relation) (cells : List Cell) : Except Refusal Int64 :=
  match t.rowIdColumn with
  | none => t.nextRowId
  | some i =>
    match Affinity.integer.apply (cells.getD i .null) with
    | .null => t.nextRowId
    | .integer n => .ok n
    | _ => .error (.noInteger t.name)

/-- Cells as the columns keep them, with the row number in its column. -/
def storedCells (t : Relation) (rowId : Int64) (cells : List Cell) : List Cell :=
  cells.mapIdx fun i c => if t.rowIdColumn = some i then .integer rowId else (t.affinity i).apply c

def insert (t : Relation) (sets : List UniqueSet) (cells : List Cell) : Except Refusal (Int64 × Relation) := do
  let rowId ← t.chooseRowId cells
  let row : StoredRow := { rowId, cells := t.storedCells rowId cells }
  t.admits t.rows sets row
  let lastGiven := if t.lastGiven < rowId then rowId else t.lastGiven
  return (rowId, { t with rows := insertRow row t.rows, lastGiven })

def replace (t : Relation) (sets : List UniqueSet) (old : Int64) (cells : List Cell) : Except Refusal Relation := do
  let rowId ← match t.rowIdColumn with
    | none => pure old
    | some i =>
      match Affinity.integer.apply (cells.getD i .null) with
      | .integer n => pure n
      | _ => throw (.noInteger t.name)
  let row : StoredRow := { rowId, cells := t.storedCells rowId cells }
  let others := t.rows.filter (·.rowId != old)
  t.admits others sets row
  return { t with rows := insertRow row others }

end Relation

end RowMapper.Store
