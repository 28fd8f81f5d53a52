import RowMapper.Record.HookStep
import RowMapper.Session.Operation

/-!
# Sessions

A session runs operations in order, up to the first fault, and keeps records under names in between. Every operation
gets an entry with what it did.
-/

namespace RowMapper

structure Session (B : Backend) where
  mapper : Mapper B.recorded
  records : List (String × Record) := []

namespace Session

variable {B : Backend}

abbrev Run (B : Backend) (α : Type) := StateM (Session B) α

def keep (name : String) (r : Record) : Run B Unit :=
  modify fun s => { s with records := (name, r) :: s.records.filter (·.1 != name) }

def record? (name : String) : Run B (Option Record) := return (← get).records.lookup name

def recordsNamed (names : List String) : Run B (List (Option Record)) := names.mapM record?

def context : Run B Context := return (← get).mapper.context

def runScript {α : Type} (via : Executor B.recorded) (script : Script α) : Run B (Except Fault α) := do
  let s ← get
  let (answer, mapper) := Mapper.run via script s.mapper
  set { s with mapper }
  return answer

def attempt {α : Type} (via : Executor B.recorded) (f : α → Shown) (script : Attempt α) :
    Run B (Except Fault Result) := do
  return (← runScript via script).map fun answer => .attempt (answer.map f)

/-- Runs a script on the records of some names, and keeps what it leaves of them. -/
def onRecords {α : Type} (via : Executor B.recorded) (names : List String) (f : α → Shown)
    (script : Context → List Record → Script (Except Error α × List Record)) : Run B (Except Fault Result) := do
  let records ← recordsNamed names
  let found := (names.zip records).filterMap fun (name, r) => r.map (name, ·)
  match ← runScript via (script (← context) (found.map (·.2))) with
  | .error reason => return .error reason
  | .ok (answer, records) =>
    (found.zip records).forM fun ((name, _), r) => keep name r
    return .ok (.attempt (answer.map f))

def act (via : Executor B.recorded) : Action → Run B (Except Fault Result)
  | .create target type fields => do
    match type.build fields with
    | .ok values =>
      keep target ⟨type, values⟩
      return .ok (.attempt (.ok (.record ⟨type, values⟩)))
    | .error e => return .ok (.attempt (.error e))
  | .copy source target => do
    if let some r ← record? source then keep target r
    return .ok (.plain .nothing)
  | .set target path x => do
    match ← record? target with
    | none => return .ok (.plain .nothing)
    | some r =>
      let (answer, values) := r.type.writeField path x r.values
      keep target { r with values }
      return .ok (.attempt (answer.map fun _ => .nothing))
  | .field source path => do
    match ← record? source with
    | none => return .ok (.plain .nothing)
    | some r => return .ok (.attempt ((r.type.read path r.values).map .value))
  | .insert names => onRecords via names (fun _ => .nothing) Context.insert
  | .update names => onRecords via names .count Context.update
  | .updateColumns accepts names => onRecords via names .count (Context.updateColumns · accepts)
  | .delete names => onRecords via names .count Context.delete
  | .get type keys target => do
    let answer ← runScript via (type.get (← context) keys : Attempt (Option type.Values))
    if let .ok (.ok (some values)) := answer then
      if let some name := target then keep name ⟨type, values⟩
    return answer.map fun found =>
      .attempt (found.map fun values? => values?.elim .nothing fun values => .record ⟨type, values⟩)
  | .select type sql args => do
    attempt via (fun found => .records (found.map (Record.mk type))) (type.select (← context) sql args)
  | .selectInto type sql args before => do
    let answer ← runScript via (type.selectInto (← context) sql args (List.replicate before type.fresh))
    return answer.map fun (answer, out) => .appended answer (out.map (Record.mk type))
  | .selectOne type sql args => do
    attempt via (fun found => found.elim .nothing fun values => .record ⟨type, values⟩)
      (type.selectOne (← context) sql args)
  | .selectValue type sql args => attempt via (.content type) (selectValue type sql args)
  | .exec sql args => attempt via .executed (Attempt.exec sql args)
  | .query sql args => attempt via .rows (Attempt.query sql args)
  | .queryRow sql args => attempt via (fun row => row.elim .nothing .row) (Attempt.queryRow sql args)
  | .execDirect sql args => do
    let s ← get
    let (answer, connection) := B.recorded.execute none sql args s.mapper.connection
    set { s with mapper := { s.mapper with connection } }
    return .ok (.attempt (answer.map .executed))
  | .dialectName => return .ok (.plain (.text (← get).mapper.dialect.name))

def configure (type : RecordType) (steps : List TableStep) : Run B (Except Fault (List TableAnswer)) := do
  let s ← get
  match s.mapper.configure type.typeName steps with
  | .error reason => return .error reason
  | .ok (answers, mapper) =>
    set { s with mapper }
    return .ok answers

def done : Unit → Shown := fun _ => .nothing

def manage : MapperAction → Run B (Except Fault Result)
  | .register type schema name steps => do
    modify fun s => { s with mapper := s.mapper.register type schema name }
    let answers ← configure type steps
    let registered := (← context).table? type.typeName
    return answers.map fun _ => .plain (registered.elim .nothing fun t => .tableName t.schema t.name)
  | .configure type steps => return (← configure type steps).map fun answers => .plain (.answers answers)
  | .table type => return .ok (.plain (((← context).table? type.typeName).elim .nothing .table))
  | .tableName type =>
    return ((← get).mapper.registry.find type.typeName).map fun entry => .plain (.text entry.table.name)
  | .tables => return .ok (.plain (.tables (← context).tables))
  | .definition type guarded => do
    let m := (← get).mapper
    let statements := do (← m.registry.find type.typeName).table.createStatements m.dialect guarded
    return statements.map fun l => .plain (.texts l)
  | .createTables guarded => do attempt .mapper done ((← context).createTables guarded)
  | .dropTables guarded => do attempt .mapper done ((← context).dropTables guarded)
  | .dropTable type guarded => do attempt .mapper done ((← context).dropTable type.typeName guarded)
  | .truncateTables => do attempt .mapper done (← context).truncateTables
  | .createIndexes => do attempt .mapper done (← context).createIndexes
  | .dropIndex type name => do
    let s ← get
    let (answer, mapper) := s.mapper.dropIndex type.typeName name
    set { s with mapper }
    return answer.map fun answer => .attempt (answer.map done)
  | .convert converter => do
    modify fun s => { s with mapper := { s.mapper with converter } }
    return .ok (.plain .nothing)
  | .trace start => do
    modify fun s => { s with mapper := { s.mapper with tracing := start } }
    return .ok (.plain .nothing)

/-- The calls since the last time; they are then forgotten. -/
def takeCalls : Run B (List Call) := do
  let s ← get
  set { s with mapper := { s.mapper with connection := { s.mapper.connection with calls := [] } } }
  return s.mapper.connection.calls

def takeTrace : Run B (List String) := do
  let s ← get
  set { s with mapper := { s.mapper with trace := [] } }
  return s.mapper.trace

/-- The entry of an operation, and whether the session goes on. Records are listed as the operation left them. -/
def entry (listed : Option (List String)) (result : Except Fault Result) : Run B (Entry × Bool) := do
  let calls ← takeCalls
  let trace ← takeTrace
  match result with
  | .error reason => return (.operation (.error reason) calls trace none, false)
  | .ok _ => return (.operation result calls trace (← listed.mapM recordsNamed), true)

def prepare (change : B.State → B.State) : Run B Unit :=
  modify fun s =>
    let connection := s.mapper.connection
    { s with mapper := { s.mapper with connection := { connection with inner := change connection.inner } } }

def conclude (via : Executor B.recorded)
    (conclusion : Mapper B.recorded → Transaction B.recorded →
      Except Error Unit × Transaction B.recorded × Mapper B.recorded) :
    Run B (Except Fault Result × Executor B.recorded) := do
  match via with
  | .mapper => return (.ok (.plain .nothing), via)
  | .transaction t =>
    let s ← get
    let (answer, t, mapper) := conclusion s.mapper t
    set { s with mapper }
    return (.ok (.attempt (answer.map done)), .transaction t)

def look (via : Executor B.recorded) (f : Transaction B.recorded → Shown) : Result :=
  match via with
  | .mapper => .plain .nothing
  | .transaction t => .plain (f t)

def start : Run B (Except Error (Transaction B.recorded)) := do
  let s ← get
  let (answer, mapper) := s.mapper.start
  set { s with mapper }
  return answer

def leave (via : Executor B.recorded) : Run B Unit :=
  match via with
  | .mapper => return
  | .transaction t => modify fun s => { s with mapper := s.mapper.leave t }

end Session

open Session

variable {B : Backend}

mutual

/-- Runs an operation on the mapper or in a transaction, which it can conclude. -/
def Operation.run (listed : Option (List String)) (via : Executor B.recorded) :
    Operation B.State → Run B ((Entry × Bool) × Executor B.recorded)
  | .act a => do return (← entry listed (← act via a), via)
  | .manage a => do return (← entry listed (← manage a), via)
  | .commit => do
    let (result, via) ← conclude via Mapper.commit
    return (← entry listed result, via)
  | .rollback => do
    let (result, via) ← conclude via Mapper.rollback
    return (← entry listed result, via)
  | .isFinished => do return (← entry listed (.ok (look via fun t => .flag t.isFinished)), via)
  | .describe => do return (← entry listed (.ok (look via fun t => .text t.describe)), via)
  | .onMapper o => do
    let (shown, _) ← o.run listed .mapper
    return (shown, via)
  | .transaction beforeLeaving inner => do
    match ← start with
    | .error e => return ((.refusedTransaction e (← takeCalls), true), via)
    | .ok t =>
      let startCalls ← takeCalls
      let ((entries, goesOn), left) ← inner.run (.transaction t)
      prepare beforeLeaving
      leave left
      return ((.transaction startCalls entries (← takeCalls), goesOn), via)

def Operations.run (via : Executor B.recorded) : Operations B.State → Run B ((List Entry × Bool) × Executor B.recorded)
  | .nil => return (([], true), via)
  | .cons before listed o rest => do
    prepare before
    let ((first, goesOn), via) ← o.run listed via
    if goesOn then
      let ((others, goesOn), via) ← rest.run via
      return ((first :: others, goesOn), via)
    else return (([first], false), via)

end

/-- The entries of all operations on a new mapper. -/
def Session.entries (d : Dialect) (connection : B.State) (operations : Operations B.State) : List Entry :=
  let mapper : Mapper B.recorded :=
    { dialect := d, connection := ({ inner := connection } : Backend.Recorded B.State) }
  ((operations.run .mapper).run { mapper }).1.1.1

end RowMapper
