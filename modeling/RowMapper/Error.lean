import RowMapper.Value

/-!
# Errors

Why an operation failed, and the text that says so. Mistakes in the setup of a program are faults, not errors: they end
the run.
-/

namespace RowMapper

open Number

/-- Why a value could not become a field, or a field a value. -/
inductive ValueError where
  | typeMismatch (expected actual : String)
  | unexpectedNull (expected : String)
  | outOfRange (value expected : String)
  | json (detail : String)
deriving DecidableEq

def ValueError.message : ValueError → String
  | typeMismatch expected actual => "cannot convert " ++ actual ++ " to " ++ expected
  | unexpectedNull expected => "unexpected NULL for non-nullable " ++ expected
  | outOfRange value expected => "value " ++ value ++ " out of range for " ++ expected
  | json detail => "invalid JSON: " ++ detail

/-- A write that found no row with the version its caller holds. -/
structure LockConflict where
  tableName : String
  /-- The key values of the statement. -/
  keys : List Value
  /-- Whether a row with these keys is still there. -/
  rowExists : Bool
  localVersion : Int64
deriving DecidableEq

def LockConflict.message (c : LockConflict) : String :=
  let keys := ", ".intercalate (c.keys.map Value.display)
  if c.rowExists then
    "optimistic lock error: table=" ++ c.tableName ++ " keys=[" ++ keys ++ "] out of date version=" ++
      integerText c.localVersion.toInt
  else "optimistic lock error: no row found for table=" ++ c.tableName ++ " keys=[" ++ keys ++ "]"

inductive Error where
  | driver (text : String)
  | optimisticLock (conflict : LockConflict)
  | noKeys (table : String)
  | unmappedColumn (column typeName query : String)
  | field (path : String) (cause : ValueError)
  | unknownField (path typeName : String)
  | multipleRows (query : String)
  | transactionFinished
  | notRegistered (typeName : String)
  | conversion (text : String)
  | custom (text : String)
deriving DecidableEq

namespace Error

def message : Error → String
  | driver text => "driver error: " ++ text
  | optimisticLock conflict => conflict.message
  | noKeys table => "table " ++ table ++ " has no keys configured"
  | unmappedColumn column typeName query =>
    "no field " ++ column ++ " in type " ++ typeName ++ " (query: " ++ query ++ ")"
  | field path cause => "field " ++ path ++ ": " ++ cause.message
  | unknownField path typeName => "unknown field " ++ path ++ " on " ++ typeName
  | multipleRows query => "multiple rows returned for: " ++ query
  | transactionFinished => "transaction has already been committed or rolled back"
  | notRegistered typeName => "type " ++ typeName ++ " was not registered"
  | conversion text => "conversion error: " ++ text
  | custom text => text

/-- The text of the error that another one wraps. -/
def source? : Error → Option String
  | driver text => some text
  | field _ cause => some cause.message
  | _ => none

def lockConflict? : Error → Option LockConflict
  | optimisticLock conflict => some conflict
  | _ => none

end Error

/-- A mistake of the program that uses the library, or of the backend under it. -/
inductive Fault where
  | unregistered (typeName : String)
  | unknownColumn (table typeName field : String)
  | autoKeyNotAlone (table : String) (count : Nat)
  | groupTooSmall (table : String)
  | declaredTransient (path : String)
  | missingEngine
  | missingEncoding
  /-- A count or a version that would pass its greatest value. -/
  | overflow
  /-- A row of a query's result that has not as many values as columns. -/
  | misalignedRow (columns values : Nat)
deriving DecidableEq

def Fault.message : Fault → String
  | unregistered typeName => "no table registered for type " ++ typeName ++ "; call add_table first"
  | unknownColumn table typeName field =>
    "no column in table " ++ table ++ " (type " ++ typeName ++ ") for field " ++ field
  | autoKeyNotAlone table count =>
    "table " ++ table ++ ": an auto-increment key must be the only key column (got " ++ integerText count ++ ")"
  | groupTooSmall table => "table " ++ table ++ ": set_unique_together needs at least two columns"
  | declaredTransient path => "field " ++ path ++ " is declared transient and cannot be mapped to a column"
  | missingEngine => "MySqlDialect.engine must be set (e.g. \"InnoDB\") before creating tables"
  | missingEncoding => "MySqlDialect.encoding must be set (e.g. \"UTF8\") before creating tables"
  | overflow => "attempt to add with overflow"
  | misalignedRow columns values =>
    "assertion \x60left == right\x60 failed\n  left: " ++ integerText columns ++ "\n right: " ++ integerText values

end RowMapper
