import RowMapper.Store.Cell

/-!
# Statements

The statements that a store understands.
-/

namespace RowMapper.Store

inductive Expression where
  /-- A column, or its own text if it is quoted and there is no such column. -/
  | name (s : String) (isQuoted : Bool)
  | literal (c : Cell)
  /-- An argument, counted from one. -/
  | argument (n : Nat)
deriving DecidableEq

structure Equation where
  left : Expression
  right : Expression
deriving DecidableEq

/-- The column of another table in which the values of a column have to be found. -/
structure Reference where
  table : String
  column : String
  /-- Whether this is checked only when a transaction is committed. -/
  deferred : Bool
deriving DecidableEq

structure ColumnDefinition where
  name : String
  type : String
  notNull : Bool := false
  isKey : Bool := false
  autoIncrement : Bool := false
  unique : Bool := false
  reference : Option Reference := none
deriving DecidableEq

structure TableDefinition where
  name : String
  columns : List ColumnDefinition
  /-- The keys that are declared for the whole table. -/
  keys : List (List String) := []
  uniqueGroups : List (List String) := []
deriving DecidableEq

/-- What a query returns of each row, or of all rows. -/
inductive ResultColumn where
  | all
  | count
  | value (e : Expression) (label : Option String)
deriving DecidableEq

inductive Statement where
  /-- A setting of the connection, by name and value. -/
  | setting (name value : String)
  | createTable (guarded : Bool) (table : TableDefinition)
  | dropTable (guarded : Bool) (table : String)
  | createIndex (guarded unique : Bool) (index table : String) (columns : List Expression)
  | dropIndex (guarded : Bool) (index : String)
  | insert (table : String) (columns : Option (List String)) (values : List Expression)
  | update (table : String) (changes : List (String × Expression)) (conditions : List Equation)
  | delete (table : String) (conditions : List Equation)
  | select (results : List ResultColumn) (table : Option String) (conditions : List Equation)
deriving DecidableEq

def Statement.changesRows : Statement → Bool
  | insert .. | update .. | delete .. => true
  | _ => false

end RowMapper.Store
