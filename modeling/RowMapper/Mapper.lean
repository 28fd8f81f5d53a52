import RowMapper.Crud.Read
import RowMapper.Crud.Write
import RowMapper.Registry
import RowMapper.Schema

/-!
# Mappers and transactions

A mapper is a registry of tables over a connection. Scripts run on the mapper itself or in a transaction that it began.
The statement that sets up the connection comes before all others, and it is tried again until it succeeds once. A
transaction is concluded once; after that it takes no more statements.
-/

namespace RowMapper

open Number

structure Mapper (B : Backend) where
  dialect : Dialect
  registry : Registry := {}
  converter : Converter := {}
  /-- What trace lines begin with, while tracing is on. -/
  tracing : Option String := none
  trace : List String := []
  initialized : Bool := false
  connection : B.State

/-- A transaction, with its handle until it is concluded. -/
structure Transaction (B : Backend) where
  handle? : Option B.Handle

def Transaction.isFinished {B : Backend} (t : Transaction B) : Bool := t.handle?.isNone

def Transaction.describe {B : Backend} (t : Transaction B) : String :=
  "Transaction \x7b finished: " ++ (if t.isFinished then "true" else "false") ++ ", .. \x7d"

inductive Executor (B : Backend) where
  | mapper
  | transaction (t : Transaction B)

/-- A statement with its numbered arguments, on one line after the text that trace lines begin with. -/
def traceLine (start sql : String) (args : List Value) : String :=
  let numbered := args.mapIdx fun i x => integerText (i + 1) ++ ":" ++ x.display
  start ++ sql ++ " [" ++ " ".intercalate numbered ++ "]"

namespace Mapper

variable {B : Backend}

def context (m : Mapper B) : Context where
  dialect := m.dialect
  converter := m.converter
  tables := m.registry.tables

def traced (m : Mapper B) (sql : String) (args : List Value) : Mapper B :=
  match m.tracing with
  | some start => { m with trace := m.trace ++ [traceLine start sql args] }
  | none => m

/-- Runs the statement that sets up the connection, unless it ran before. -/
def ensureInit (m : Mapper B) : Except Error Unit × Mapper B :=
  if m.initialized then (.ok (), m)
  else
    match m.dialect.initStatement? with
    | none => (.ok (), { m with initialized := true })
    | some sql =>
      match B.execute none sql [] m.connection with
      | (.ok _, connection) => (.ok (), { m with initialized := true, connection })
      | (.error e, connection) => (.error e, { m with connection })

def send {α : Type} (m : Mapper B) (via : Executor B) (sql : String) (args : List Value)
    (call : Option B.Handle → String → List Value → B.State → Except Error α × B.State) : Except Error α × Mapper B :=
  let handed (m : Mapper B) (handle? : Option B.Handle) : Except Error α × Mapper B :=
    let m := m.traced sql args
    let (answer, connection) := call handle? sql args m.connection
    (answer, { m with connection })
  match via with
  | .mapper =>
    match m.ensureInit with
    | (.ok (), m) => handed m none
    | (.error e, m) => (.error e, m)
  | .transaction t =>
    match t.handle? with
    | some handle => handed m (some handle)
    | none => (.error .transactionFinished, m)

def execute (m : Mapper B) (via : Executor B) (sql : String) (args : List Value) : Except Error ExecResult × Mapper B :=
  m.send via sql args B.execute

def query (m : Mapper B) (via : Executor B) (sql : String) (args : List Value) : Except Error (List Row) × Mapper B :=
  m.send via sql args B.query

def checkRows (answer : Except Error (List Row)) : Except Fault (Except Error (List Row)) :=
  match answer with
  | .error e => .ok (.error e)
  | .ok rows =>
    match rows.find? (!·.isAligned) with
    | some row => .error (.misalignedRow row.columns.length row.values.length)
    | none => .ok (.ok rows)

def run {α : Type} (via : Executor B) : Script α → Mapper B → Except Fault α × Mapper B
  | .done result, m => (.ok result, m)
  | .fault reason, m => (.error reason, m)
  | .plan typeName kind next, m =>
    match m.registry.plan m.dialect typeName kind with
    | .ok (plan, registry) => run via (next plan) { m with registry }
    | .error reason => (.error reason, m)
  | .exec sql args next, m =>
    let (answer, m) := m.execute via sql args
    run via (next answer) m
  | .query sql args next, m =>
    let (answer, m) := m.query via sql args
    match checkRows answer with
    | .ok answer => run via (next answer) m
    | .error reason => (.error reason, m)

def start (m : Mapper B) : Except Error (Transaction B) × Mapper B :=
  match m.ensureInit with
  | (.error e, m) => (.error e, m)
  | (.ok (), m) =>
    let (answer, connection) := B.start m.connection
    (answer.map fun handle => ⟨some handle⟩, { m with connection })

/-- Concludes a transaction, which counts even if it fails. -/
def conclude (m : Mapper B) (t : Transaction B) (sql : String)
    (call : B.Handle → B.State → Except Error Unit × B.State) : Except Error Unit × Transaction B × Mapper B :=
  match t.handle? with
  | none => (.error .transactionFinished, t, m)
  | some handle =>
    let m := m.traced sql []
    let (answer, connection) := call handle m.connection
    (answer, ⟨none⟩, { m with connection })

def commit (m : Mapper B) (t : Transaction B) : Except Error Unit × Transaction B × Mapper B :=
  m.conclude t "commit;" B.commit

def rollback (m : Mapper B) (t : Transaction B) : Except Error Unit × Transaction B × Mapper B :=
  m.conclude t "rollback;" B.rollback

/-- Leaves a transaction: one that is still open is rolled back, whether or not that succeeds. -/
def leave (m : Mapper B) (t : Transaction B) : Mapper B :=
  match t.handle? with
  | none => m
  | some handle => { m with connection := (B.rollback handle m.connection).2 }

/-- Registers a record type, or renames the table that it has. -/
def register (m : Mapper B) (R : RecordType) (schema name : Option String) : Mapper B :=
  { m with registry := m.registry.register R.typeName R.fields schema (name.getD R.tableName) }

def configure (m : Mapper B) (typeName : String) (steps : List TableStep) :
    Except Fault (List TableAnswer × Mapper B) :=
  (m.registry.configure m.dialect typeName steps).map fun (answers, registry) => (answers, { m with registry })

/-- Drops an index and, if that succeeds, forgets it. -/
def dropIndex (m : Mapper B) (typeName name : String) : Except Fault (Except Error Unit) × Mapper B :=
  match run .mapper (m.context.dropIndex typeName name) m with
  | (.ok (.ok ()), m) =>
    match m.registry.removeIndex typeName name with
    | .ok registry => (.ok (.ok ()), { m with registry })
    | .error reason => (.error reason, m)
  | answer => answer

end Mapper

end RowMapper
