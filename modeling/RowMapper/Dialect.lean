import RowMapper.Error
import RowMapper.Field.Semantic
import RowMapper.Text.Basic

/-!
# Dialects

Everything that differs between databases when statements are written: column types, identifier quoting, placeholders,
generated keys and the clauses of table definitions.
-/

namespace RowMapper

/-! ### Quoted identifiers -/

namespace Sql

/-- The characters of an identifier between its quotes. -/
def doubled (q : Char) (ident : List Char) : List Char :=
  ident.flatMap fun c => if c = q then [q, q] else [c]

def quoteWith (ident : String) (q : Char) : String :=
  String.ofList (q :: doubled q ident.toList ++ [q])

theorem doubled_quote {q : Char} {ident : List Char} : doubled q (q :: ident) = q :: q :: doubled q ident := by
  simp [doubled]

theorem doubled_other {q c : Char} {ident : List Char} (other : c ≠ q) :
    doubled q (c :: ident) = c :: doubled q ident := by
  simp [doubled, other]

theorem quoteWith_toList {q : Char} (ident : String) :
    (quoteWith ident q).toList = q :: (doubled q ident.toList ++ [q]) := by
  simp [quoteWith]

end Sql

/-! ### Databases -/

open Number

/-- A database with the settings that its statements depend on. A suffix is appended to every table definition. -/
inductive Dialect where
  | sqlite (suffix : String) (foreignKeys : Bool)
  | postgres (suffix : String) (lowercase : Bool)
  | snowflake (suffix : String) (lowercase : Bool)
  | mysql (engine encoding : String)
  | oracle
  | crate (suffix : String)
deriving DecidableEq

/-- How the generated key of a new row is read back. -/
inductive KeyReport where
  /-- With the count of affected rows. -/
  | lastInsertId
  /-- As the result of the insertion, which is run as a query. -/
  | returning
  | notReported
deriving DecidableEq

namespace Dialect

def name : Dialect → String
  | sqlite .. => "sqlite"
  | postgres .. => "postgres"
  | snowflake .. => "snowflake"
  | mysql .. => "mysql"
  | oracle => "oracle"
  | crate .. => "crate"

def terminator : Dialect → String
  | oracle => ""
  | _ => ";"

def sizedText (sized unbounded : String) (maxSize : Nat) : String :=
  if 0 < maxSize then sized ++ "(" ++ integerText maxSize ++ ")" else unbounded

def postgresType (type : SemanticType) (maxSize : Nat) (autoIncrement : Bool) : String :=
  match type with
  | .bool => "boolean"
  | .int64 | .uint64 => if autoIncrement then "bigserial" else "bigint"
  | .int8 | .int16 | .int32 | .uint8 | .uint16 | .uint32 => if autoIncrement then "serial" else "integer"
  | .float32 => "real"
  | .float64 => "double precision"
  | .bytes => "bytea"
  | .timestamp => "timestamp with time zone"
  | .json => "text"
  | .text => sizedText "varchar" "text" maxSize

/-- The column type of a field. A size of zero means that none is set. -/
def columnType (d : Dialect) (type : SemanticType) (maxSize : Nat) (autoIncrement : Bool) : String :=
  match d with
  | sqlite .. =>
    match type with
    | .float32 | .float64 => "real"
    | .bytes => "blob"
    | .timestamp => "datetime"
    | .json => "text"
    | .text => sizedText "varchar" "varchar(255)" maxSize
    | _ => "integer"
  | postgres .. | snowflake .. => postgresType type maxSize autoIncrement
  | mysql .. =>
    match type with
    | .bool => "boolean"
    | .int8 => "tinyint"
    | .uint8 => "tinyint unsigned"
    | .int16 => "smallint"
    | .uint16 => "smallint unsigned"
    | .int32 => "int"
    | .uint32 => "int unsigned"
    | .int64 => "bigint"
    | .uint64 => "bigint unsigned"
    | .float32 | .float64 => "double"
    | .bytes => "mediumblob"
    | .timestamp => "datetime"
    | .json => "text"
    | .text => if maxSize < 256 then sizedText "varchar" "varchar(255)" maxSize else "text"
  | oracle =>
    match type with
    | .bool => "number(1, 0)"
    | .int64 | .uint64 => if autoIncrement then "bigserial" else "number(19, 0)"
    | .int8 | .int16 | .int32 | .uint8 | .uint16 | .uint32 => if autoIncrement then "serial" else "integer"
    | .float32 | .float64 => "float(24)"
    | .bytes => "bytea"
    | .timestamp => "date"
    | .text | .json => sizedText "varchar2" "text" maxSize
  | crate .. =>
    match type with
    | .bool => "boolean"
    | .int8 => "byte"
    | .int16 => "short"
    | .int64 => "long"
    | .int32 | .uint8 | .uint16 | .uint32 | .uint64 => "integer"
    | .float32 => "float"
    | .float64 => "double"
    | .text | .json => "string"
    | .bytes => "array(integer)"
    | .timestamp => "timestamp"

def autoIncrementClause : Dialect → String
  | sqlite .. => "autoincrement"
  | mysql .. => "auto_increment"
  | crate .. => "PRIMARY KEY"
  | postgres .. | snowflake .. | oracle => ""

/-- What stands for a generated key among the values of an insertion; if it is empty, the column is left out. -/
def autoIncrementValue : Dialect → String
  | sqlite .. | mysql .. => "null"
  | postgres .. | snowflake .. => "default"
  | oracle => "NULL"
  | crate .. => ""

def keyReport : Dialect → KeyReport
  | postgres .. => .returning
  | crate .. => .notReported
  | _ => .lastInsertId

def createTableSuffix : Dialect → Except Fault String
  | sqlite suffix _ | postgres suffix _ | snowflake suffix _ | crate suffix => .ok suffix
  | mysql engine encoding =>
    if engine.isEmpty then .error .missingEngine
    else if encoding.isEmpty then .error .missingEncoding
    else .ok (" engine=" ++ engine ++ " charset=" ++ encoding)
  | oracle => .ok ""

def indexMethodWord : Dialect → String
  | mysql .. | postgres .. => "using"
  | _ => ""

def indexMethodLast : Dialect → Bool
  | mysql .. => true
  | _ => false

def dropIndexWord : Dialect → String
  | mysql .. => "on"
  | _ => ""

def truncateClause : Dialect → String
  | sqlite .. => "delete from"
  | oracle => "truncate table"
  | crate .. => "DELETE FROM"
  | _ => "truncate"

/-- The placeholder of the `i`-th argument, counted from zero. -/
def placeholder (d : Dialect) (i : Nat) : String :=
  match d with
  | postgres .. => "$" ++ integerText (i + 1)
  | oracle => ":" ++ integerText (i + 1)
  | _ => "?"

def quoteChar : Dialect → Char
  | mysql .. => '\x60'
  | _ => '"'

def fold (d : Dialect) (ident : String) : String :=
  match d with
  | oracle => Text.upper ident
  | postgres _ true | snowflake _ true => Text.lower ident
  | _ => ident

def quote (d : Dialect) (ident : String) : String := Sql.quoteWith (d.fold ident) d.quoteChar

def supportsSchemas : Dialect → Bool
  | sqlite .. => false
  | _ => true

/-- A schema name that is not blank, without the white space around it. -/
def schemaName? (schema : Option String) : Option String :=
  match schema.map Text.trim with
  | some s => if s.isEmpty then none else some s
  | none => none

/-- The name of a table in statements; the schema is not quoted. -/
def quoteTable (d : Dialect) (schema : Option String) (table : String) : String :=
  match d.supportsSchemas, schemaName? schema with
  | true, some schema => schema ++ "." ++ d.quote table
  | _, _ => d.quote table

/-- A command that creates only what does not exist. -/
def guardCreate (d : Dialect) (command : String) : String :=
  match d with
  | crate .. => command ++ " IF NOT EXISTS"
  | _ => command ++ " if not exists"

def guardDrop (d : Dialect) (command : String) : String :=
  match d with
  | crate .. => command ++ " IF EXISTS"
  | _ => command ++ " if exists"

def insertSuffix (d : Dialect) (column : String) : String :=
  match d with
  | postgres .. => " returning " ++ d.quote column
  | _ => ""

/-- The statement that is run once on a connection before its first use. -/
def initStatement? : Dialect → Option String
  | sqlite _ true => some "pragma foreign_keys = on;"
  | _ => none

end Dialect

end RowMapper
