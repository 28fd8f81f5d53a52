import RowMapper.Plan

/-!
# Table definitions

The statements that create, empty and drop a table and its indexes.
-/

namespace RowMapper

namespace Table

variable (t : Table) (d : Dialect)

/-- The definition of a column. A key of one column is declared here. -/
def columnDefinition (c : Column) : String :=
  d.quote c.name ++ " " ++ d.columnType c.type c.maxSize c.autoIncrement ++
  (if c.primaryKey || c.notNull then " not null" else "") ++
  (if c.primaryKey && t.keys.length == 1 then " primary key" else "") ++
  (if c.unique then " unique" else "") ++
  if c.autoIncrement && !d.autoIncrementClause.isEmpty then " " ++ d.autoIncrementClause else ""

def nameGroup (names : List String) : String := "(" ++ ", ".intercalate (names.map d.quote) ++ ")"

/-- What a definition lists: the columns, a key of several columns, and the groups that are unique together. -/
def definitionParts : List String :=
  t.storedColumns.map (t.columnDefinition d) ++
  (if 1 < t.keys.length then ["primary key " ++ nameGroup d (t.keyColumns.map Column.name)] else []) ++
  t.uniqueTogether.map fun group => "unique " ++ nameGroup d group

/-- The schema that has to be there before the table, if the database has schemas. -/
def neededSchema? : Option String := if d.supportsSchemas then Dialect.schemaName? t.schema else none

def createSchemaStatement (guarded : Bool) (schema : String) : String :=
  (if guarded then d.guardCreate "create schema" else "create schema") ++ " " ++ schema ++ d.terminator

/-- The statements that create a table and its schema, guarded if both may exist already. -/
def createStatements (guarded : Bool) : Except Fault (List String) := do
  let command := if guarded then d.guardCreate "create table" else "create table"
  let table := command ++ " " ++ t.quotedName d ++ " (" ++ ", ".intercalate (t.definitionParts d) ++ ")" ++
    (← d.createTableSuffix) ++ d.terminator
  return (t.neededSchema? d).toList.map (createSchemaStatement d guarded) ++ [table]

def dropStatement (guarded : Bool) : String :=
  (if guarded then d.guardDrop "drop table" else "drop table") ++ " " ++ t.quotedName d ++ d.terminator

def truncateStatement : String := d.truncateClause ++ " " ++ t.quotedName d ++ d.terminator

def methodClause (index : Index) : String :=
  if d.indexMethodWord.isEmpty || index.method.isEmpty then ""
  else " " ++ d.indexMethodWord ++ " " ++ index.method

def createIndexStatement (index : Index) : String :=
  let method := methodClause d index
  "create" ++ (if index.unique then " unique" else "") ++ " index " ++ index.name ++ " on " ++ t.quotedName d ++
  (if d.indexMethodLast then "" else method) ++ " " ++ nameGroup d index.columns ++
  (if d.indexMethodLast then method else "") ++ d.terminator

def dropIndexStatement (name : String) : String :=
  "drop index " ++ name ++ (if d.dropIndexWord.isEmpty then "" else " " ++ d.dropIndexWord ++ " " ++ t.quotedName d) ++
  d.terminator

end Table

end RowMapper
