import RowMapper.Backend
import RowMapper.Mapper

/-!
# Operations

What can be done with a mapper and its transactions, on records that are kept under names, and what is shown of it.
-/

namespace RowMapper

inductive Action where
  | create (target : String) (type : RecordType) (fields : List (String × Value))
  | copy (source target : String)
  | set (target path : String) (x : Value)
  | field (source path : String)
  | insert (records : List String)
  | update (records : List String)
  | updateColumns (accepts : Column → Bool) (records : List String)
  | delete (records : List String)
  /-- Loads a record by its key, and keeps it if there is a name for it. -/
  | get (type : RecordType) (keys : List Value) (target : Option String)
  | select (type : RecordType) (sql : String) (args : List Value)
  /-- Appends to a list of fresh records. -/
  | selectInto (type : RecordType) (sql : String) (args : List Value) (before : Nat)
  | selectOne (type : RecordType) (sql : String) (args : List Value)
  | selectValue (type : NativeType) (sql : String) (args : List Value)
  | exec (sql : String) (args : List Value)
  | query (sql : String) (args : List Value)
  | queryRow (sql : String) (args : List Value)
  /-- Hands a statement to the connection, past the mapper. -/
  | execDirect (sql : String) (args : List Value)
  | dialectName

inductive MapperAction where
  | register (type : RecordType) (schema name : Option String) (steps : List TableStep)
  | configure (type : RecordType) (steps : List TableStep)
  | table (type : RecordType)
  | tableName (type : RecordType)
  | tables
  | definition (type : RecordType) (guarded : Bool)
  | createTables (guarded : Bool)
  | dropTables (guarded : Bool)
  | dropTable (type : RecordType) (guarded : Bool)
  | truncateTables
  | createIndexes
  | dropIndex (type : RecordType) (name : String)
  | convert (converter : Converter)
  | trace (start : Option String)

mutual

/-- An operation of a session, where connections have states in `σ`. -/
inductive Operation (σ : Type) where
  | act (a : Action)
  | manage (a : MapperAction)
  | commit
  | rollback
  | isFinished
  | describe
  /-- Past the open transaction. -/
  | onMapper (o : Operation σ)
  /-- Begins a transaction, runs operations in it and leaves it; `beforeLeaving` happens just before it. -/
  | transaction (beforeLeaving : σ → σ) (inner : Operations σ)

/-- Operations in order. Each has what happens to the connection just before it, and the names of records that its
entry may list. -/
inductive Operations (σ : Type) where
  | nil
  | cons (before : σ → σ) (listed : Option (List String)) (o : Operation σ) (rest : Operations σ)

end

inductive Shown where
  | nothing
  | count (n : Nat)
  | value (x : Value)
  | content (type : NativeType) (x : type.Carrier)
  | record (r : Record)
  | records (l : List Record)
  | row (r : Row)
  | rows (l : List Row)
  | executed (r : ExecResult)
  | text (s : String)
  | texts (l : List String)
  | flag (b : Bool)
  | tableName (schema : Option String) (name : String)
  | table (t : Table)
  | tables (l : List Table)
  | answers (l : List TableAnswer)

inductive Result where
  /-- An operation that cannot fail. -/
  | plain (x : Shown)
  | attempt (answer : Except Error Shown)
  /-- An operation that leaves records behind, whether or not it fails. -/
  | appended (answer : Except Error Unit) (records : List Record)

/-- What became of an operation, with the calls that reached the connection, the lines of the trace and the records
that it lists. -/
inductive Entry where
  | operation (result : Except Fault Result) (calls : List Call) (trace : List String)
      (records : Option (List (Option Record)))
  | refusedTransaction (e : Error) (calls : List Call)
  | transaction (startCalls : List Call) (inner : List Entry) (leaveCalls : List Call)

end RowMapper
