import RowMapper.Error
import RowMapper.Field.Semantic

/-!
# Columns

How one field of a record is kept in a table.
-/

namespace RowMapper

structure Column where
  name : String
  /-- The last name of the path. -/
  fieldName : String
  /-- The dotted path of the field in its record. -/
  path : String
  type : SemanticType
  nullable : Bool
  /-- Whether the field itself is transient, so that no setting can make it a column. -/
  declaredTransient : Bool
  /-- Whether the column is left out of all statements. -/
  isTransient : Bool
  unique : Bool
  notNull : Bool
  /-- The length of a text column; zero if none is set. -/
  maxSize : Nat
  primaryKey : Bool
  autoIncrement : Bool
deriving DecidableEq

inductive ColumnSetting where
  | rename (name : String)
  | transient (on : Bool)
  | unique (on : Bool)
  | notNull (on : Bool)
  | maxSize (n : Nat)
deriving DecidableEq

namespace Column

def ofColumn (name : String) (tag : Option String) (path : String) (type : SemanticType) (nullable : Bool) :
    Column where
  name := tag.getD name
  fieldName := name
  path := path
  type := type
  nullable := nullable
  declaredTransient := false
  isTransient := false
  unique := false
  notNull := false
  maxSize := 0
  primaryKey := false
  autoIncrement := false

def ofTransient (name path : String) : Column :=
  { ofColumn name (some "-") path .text false with declaredTransient := true, isTransient := true }

/-- A column is addressed by its path, its field's name or its own name. -/
def answersTo (c : Column) (name : String) : Bool :=
  c.path == name || c.fieldName == name || c.name == name

def set (c : Column) : ColumnSetting → Except Fault Column
  | .rename name => .ok { c with name := name }
  | .transient on =>
    if !on && c.declaredTransient then .error (.declaredTransient c.path) else .ok { c with isTransient := on }
  | .unique on => .ok { c with unique := on }
  | .notNull on => .ok { c with notNull := on }
  | .maxSize n => .ok { c with maxSize := n }

/-- The settings in order, up to the first that is refused. -/
def setAll (c : Column) (settings : List ColumnSetting) : Except Fault Column := settings.foldlM set c

end Column

end RowMapper
