import RowMapper.Record.Fields
import RowMapper.Table.Column

/-!
# Tables

The mapping of a record type to a table: its columns, keys and version, and what its definition and its indexes say.

The columns of a record type are those of its fields in order, with the columns of an embedded record in its place. Of
the columns that share a field name one remains, at the place of the first: a record's own column comes before an
embedded one, a later own column before an earlier one, and an earlier embedded one before a later one.
-/

namespace RowMapper

/-! ### Flattening -/

def Column.repeats (c : Column) (columns : List Column) : Bool :=
  columns.any fun d => !d.isTransient && d.fieldName == c.fieldName

/-- A record's own column replaces one with the same field name where it stands. -/
def replaceColumn (c : Column) : List Column → List Column
  | [] => [c]
  | d :: rest => if !d.isTransient && d.fieldName == c.fieldName then c :: rest else d :: replaceColumn c rest

/-- The columns of an embedded record are added unless their field names are taken. -/
def embedColumns (columns : List Column) : List Column → List Column
  | [] => columns
  | c :: rest => embedColumns (if !c.isTransient && c.repeats columns then columns else columns ++ [c]) rest

/-- The columns so far and those of further fields; `parent` stands before their paths. -/
def Fields.flattenOnto (parent : String) (columns : List Column) : Fields → List Column
  | nil => columns
  | column name tag type rest =>
    rest.flattenOnto parent
      (replaceColumn (.ofColumn name tag (parent ++ name) type.semantic type.nullable) columns)
  | transient name _ rest => rest.flattenOnto parent (columns ++ [.ofTransient name (parent ++ name)])
  | embedded name _ inner rest =>
    rest.flattenOnto parent (embedColumns columns (inner.flattenOnto (parent ++ name ++ ".") []))

def Fields.columns (fs : Fields) : List Column := fs.flattenOnto "" []

/-! ### Tables and their configuration -/

structure Index where
  name : String
  /-- The method, such as `btree`; empty for the default of the database. -/
  method : String
  columns : List String
  unique : Bool
deriving DecidableEq

structure Table where
  name : String
  schema : Option String
  /-- The full name of the record type. -/
  typeName : String
  columns : List Column
  /-- The places of the key columns, in key order. -/
  keys : List Nat
  /-- The place of the column that holds the version. -/
  version : Option Nat
  /-- Groups of columns that are unique together. -/
  uniqueTogether : List (List String)
  indexes : List Index
deriving DecidableEq

inductive TableChange where
  | keys (autoIncrement : Bool) (fields : List String)
  | uniqueTogether (fields : List String)
  | version (field : String) (settings : List ColumnSetting)
  | noVersion
  | column (field : String) (settings : List ColumnSetting)
  | index (name method : String) (fields : List String) (unique : Bool)
deriving DecidableEq

/-- A table after a change, with the column or index that the change was about. -/
structure ChangedTable where
  table : Table
  column : Option Column := none
  index : Option Index := none

namespace Table

/-- A table as it is before any configuration: the first column for a field named `version` holds the version. -/
def ofFields (typeName name : String) (schema : Option String) (fields : Fields) : Table where
  name := name
  schema := schema
  typeName := typeName
  columns := fields.columns
  keys := []
  version := fields.columns.findIdx? fun c => !c.isTransient && c.fieldName == "version"
  uniqueTogether := []
  indexes := []

def keyColumns (t : Table) : List Column := t.keys.filterMap (t.columns[·]?)

def versionColumn? (t : Table) : Option Column := t.version.bind (t.columns[·]?)

def storedColumns (t : Table) : List Column := t.columns.filter (!·.isTransient)

def index? (t : Table) (name : String) : Option Index := t.indexes.find? (·.name == name)

/-- The place of the first column that answers to a name. -/
def place (t : Table) (name : String) : Except Fault Nat :=
  match t.columns.findIdx? (·.answersTo name) with
  | some i => .ok i
  | none => .error (.unknownColumn t.name t.typeName name)

def column (t : Table) (name : String) : Except Fault Column :=
  match t.columns.find? (·.answersTo name) with
  | some c => .ok c
  | none => .error (.unknownColumn t.name t.typeName name)

def columnNames (t : Table) (fields : List String) : Except Fault (List String) :=
  fields.mapM fun field => (t.column field).map Column.name

/-- The fields in order become the primary key, and no other column is in it. -/
def setKeys (t : Table) (autoIncrement : Bool) (fields : List String) : Except Fault Table := do
  if autoIncrement && fields.length != 1 then throw (.autoKeyNotAlone t.name fields.length)
  let places ← fields.mapM t.place
  return { t with
    keys := places
    columns := t.columns.mapIdx fun i c =>
      { c with primaryKey := places.contains i, autoIncrement := autoIncrement && places.contains i } }

def setUniqueTogether (t : Table) (fields : List String) : Except Fault Table := do
  if fields.length < 2 then throw (.groupTooSmall t.name)
  let group ← t.columnNames fields
  return if t.uniqueTogether.contains group then t
    else { t with uniqueTogether := t.uniqueTogether ++ [group] }

def setColumn (t : Table) (field : String) (settings : List ColumnSetting) : Except Fault ChangedTable := do
  let i ← t.place field
  let c ← (← t.column field).setAll settings
  return { table := { t with columns := t.columns.set i c }, column := some c }

def setVersion (t : Table) (field : String) (settings : List ColumnSetting) : Except Fault ChangedTable := do
  let i ← t.place field
  ({ t with version := some i }).setColumn field settings

def addIndex (t : Table) (name method : String) (fields : List String) (unique : Bool) : Except Fault ChangedTable := do
  let added : Index := { name, method, columns := ← t.columnNames fields, unique }
  return { table := { t with indexes := t.indexes ++ [added] }, index := some added }

def removeIndex (t : Table) (name : String) : Table := { t with indexes := t.indexes.filter (·.name != name) }

def change (t : Table) : TableChange → Except Fault ChangedTable
  | .keys autoIncrement fields => (t.setKeys autoIncrement fields).map ({ table := · })
  | .uniqueTogether fields => (t.setUniqueTogether fields).map ({ table := · })
  | .version field settings => t.setVersion field settings
  | .noVersion => .ok { table := { t with version := none } }
  | .column field settings => t.setColumn field settings
  | .index name method fields unique => t.addIndex name method fields unique

/-- Statements that name a row need keys. -/
def requireKeys (t : Table) : Except Error Unit :=
  if t.keys.isEmpty then .error (.noKeys t.name) else .ok ()

end Table

end RowMapper
