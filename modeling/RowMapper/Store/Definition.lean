import RowMapper.Store.Basic

/-!
# Creating and dropping tables and indexes
-/

namespace RowMapper.Store

namespace Content

def declaredKeys (t : TableDefinition) : List (List String) :=
  (t.columns.filter (·.isKey)).map (fun c => [c.name]) ++ t.keys

def hasRepeatedName : List ColumnDefinition → Bool
  | [] => false
  | c :: rest => rest.any (fun d => sameName c.name d.name) || hasRepeatedName rest

/-- An empty table. A key of one integer column is the row number, and only such a key can be generated. -/
def relation (definition : TableDefinition) : Except Refusal Relation := do
  let t : Relation := { definition, rowIdColumn := none, uniqueSets := [], rows := [], lastGiven := 0 }
  let keys ← (declaredKeys definition).mapM fun names => names.mapM t.place
  if hasRepeatedName t.columns || 1 < keys.length then throw (.invalidDefinition t.name)
  let rowIdColumn := match keys with
    | [[i]] => (t.columns[i]?).bind fun c => if sameName c.type "integer" then some i else none
    | _ => none
  if t.neverReuses && rowIdColumn.isNone then throw (.invalidDefinition t.name)
  let groups ← definition.uniqueGroups.mapM fun names => names.mapM t.place
  let singles := t.columns.zipIdx.filterMap fun (c, i) => if c.unique then some [i] else none
  let ownKeys := if rowIdColumn.isSome then [] else keys
  return { t with rowIdColumn, uniqueSets := (ownKeys ++ singles ++ groups).map (·.map some) }

/-- Names that a store keeps for itself. -/
def isReserved (name : String) : Bool := "sqlite_".toList.isPrefixOf (name.toList.map Char.toLower)

def createTable (c : Content) (guarded : Bool) (definition : TableDefinition) : Except Refusal Content := do
  if (c.table? definition.name).isSome then
    if guarded then return c else throw (.nameTaken definition.name)
  if (c.index? definition.name).isSome then throw (.nameTaken definition.name)
  if isReserved definition.name then throw (.nameTaken definition.name)
  return { c with tables := c.tables ++ [← relation definition] }

def dropTable (c : Content) (guarded : Bool) (name : String) : Except Refusal Content :=
  if (c.table? name).isSome then
    .ok { tables := c.tables.filter fun t => !sameName t.name name
          indexes := c.indexes.filter fun i => !sameName i.table name }
  else if guarded then .ok c
  else .error (.noTable name)

/-- What an index sorts by. A quoted name that is no column is a constant. -/
def indexPlace (t : Relation) (e : Expression) : Except Refusal (Option Nat) := do
  match ← resolve (some t) [] e with
  | .column i => return some i
  | .cell _ => return none

def areDistinct (set : UniqueSet) : List StoredRow → Bool
  | [] => true
  | row :: rest => !(rest.any fun other => Relation.agree set row.cells other.cells) && areDistinct set rest

def createIndex (c : Content) (guarded unique : Bool) (name table : String) (columns : List Expression) :
    Except Refusal Content := do
  let t ← c.table table
  if (c.index? name).isSome then
    if guarded then return c else throw (.nameTaken name)
  if (c.table? name).isSome || isReserved name then throw (.nameTaken name)
  let places ← columns.mapM (indexPlace t)
  if unique && !areDistinct places t.rows then throw (.notUnique table)
  return { c with indexes := c.indexes ++ [{ name, table := t.name, unique, columns := places }] }

def dropIndex (c : Content) (guarded : Bool) (name : String) : Except Refusal Content :=
  if (c.index? name).isSome then .ok { c with indexes := c.indexes.filter fun i => !sameName i.name name }
  else if guarded then .ok c
  else .error (.noIndex name)

end Content

end RowMapper.Store
