import RowMapper.Store.Grammar
import RowMapper.Store.Relation

/-!
# Stores

A small relational store: tables, indexes, and at most one open transaction, which keeps what there was before it.
-/

namespace RowMapper

namespace Store

structure StoredIndex where
  name : String
  table : String
  unique : Bool
  columns : UniqueSet
deriving DecidableEq

/-- What a transaction can bring back. -/
structure Content where
  tables : List Relation := []
  indexes : List StoredIndex := []
deriving DecidableEq

/-- Texts of statements with the labels that their columns had when they were last prepared, the latest used first. -/
structure PreparedStatements where
  entries : List (String × List String) := []
deriving DecidableEq

namespace PreparedStatements

def capacity : Nat := 16

def labels? (p : PreparedStatements) (sql : String) : Option (List String) := p.entries.lookup sql

def keep (p : PreparedStatements) (sql : String) (labels : List String) : PreparedStatements :=
  ⟨((sql, labels) :: p.entries.filter (·.1 != sql)).take capacity⟩

end PreparedStatements

end Store

structure Store where
  content : Store.Content := {}
  /-- What there was before the open transaction. -/
  saved : Option Store.Content := none
  checksReferences : Bool := true
  /-- How many rows the last insertion, update or deletion changed. -/
  changes : Nat := 0
  lastRowId : Int64 := 0
  prepared : Store.PreparedStatements := {}

namespace Store

namespace Content

def table? (c : Content) (name : String) : Option Relation := c.tables.find? fun t => sameName t.name name

def table (c : Content) (name : String) : Except Refusal Relation :=
  match c.table? name with
  | some t => .ok t
  | none => .error (.noTable name)

def index? (c : Content) (name : String) : Option StoredIndex := c.indexes.find? fun i => sameName i.name name

def put (c : Content) (t : Relation) : Content :=
  { c with tables := c.tables.map fun u => if sameName u.name t.name then t else u }

def uniqueSets (c : Content) (t : Relation) : List UniqueSet :=
  t.uniqueSets ++ (c.indexes.filter fun i => i.unique && sameName i.table t.name).map (·.columns)

end Content

/-- An expression as a column of the row or a cell of its own. -/
inductive Operand where
  | column (i : Nat)
  | cell (c : Cell)

namespace Operand

def value (row : List Cell) : Operand → Cell
  | column i => row.getD i .null
  | cell c => c

def affinity? (t : Option Relation) : Operand → Option Affinity
  | column i => t.map (·.affinity i)
  | cell _ => none

end Operand

def resolve (t : Option Relation) (args : List Cell) : Expression → Except Refusal Operand
  | .name s isQuoted =>
    match t.bind (·.place? s) with
    | some i => .ok (.column i)
    | none => if isQuoted then .ok (.cell (.text s)) else .error (.noColumn s)
  | .literal c => .ok (.cell c)
  | .argument n => .ok (.cell (args.getD (n - 1) .null))

/-- The affinity under which two operands are compared. -/
def comparedUnder (a b : Option Affinity) : Affinity :=
  let isNumeric (x : Affinity) : Bool := x == .integer || x == .real || x == .numeric
  match a, b with
  | some a, some b => if isNumeric a || isNumeric b then .numeric else .none
  | some a, none | none, some a => a
  | none, none => .none

def condition (t : Option Relation) (args : List Cell) (equations : List Equation) :
    Except Refusal (List Cell → Bool) := do
  let tests ← equations.mapM fun e => do
    let left ← resolve t args e.left
    let right ← resolve t args e.right
    let under := comparedUnder (left.affinity? t) (right.affinity? t)
    return fun row : List Cell =>
      (under.applyToCompared (left.value row)).same (under.applyToCompared (right.value row))
  return fun row => tests.all fun test => test row

end Store

end RowMapper
