import RowMapper.Backend.Scripted
import RowMapper.Proofs.Script.Dialogue
import RowMapper.Proofs.Script.Served
import RowMapper.Proofs.Session
import RowMapper.Proofs.Table.Mapping
import RowMapper.Record.HookStep

/-!
# Programs

A program runs alike in a transaction and on a mapper that is set up. Where the connection answers what is answered in
the transaction, both get the same results and records of the same statements, which are all sent where they run.
-/

namespace RowMapper

def Action.leavesToExecutor : Action → Bool
  | execDirect _ _ => false
  | _ => true

/-- Actions in order, each chosen by what the one before it showed. -/
inductive Program where
  | done
  | act (a : Action) (next : Result → Program)

namespace Program

variable {B : Backend}

def run (via : Executor B.recorded) : Program → Session.Run B (List (Except Fault Result))
  | done => return []
  | act a next => do
    match ← Session.act via a with
    | .error reason => return [.error reason]
    | .ok result => return .ok result :: (← (next result).run via)

/-- Whether all actions that can come leave their statements to what runs the program. -/
def LeavesToExecutor : Program → Prop
  | done => True
  | act a next => a.leavesToExecutor = true ∧ ∀ result, (next result).LeavesToExecutor

def ofList (actions : List Action) : Program := actions.foldr (fun a rest => act a fun _ => rest) done

theorem leavesToExecutor_ofList {actions : List Action} (all : ∀ a ∈ actions, a.leavesToExecutor = true) :
    (ofList actions).LeavesToExecutor := by
  induction actions with
  | nil => trivial
  | cons a rest ih =>
    exact ⟨all a List.mem_cons_self, fun _ => ih fun b member => all b (List.mem_cons_of_mem a member)⟩

end Program

namespace Session

variable {B C : Backend} {h : B.Handle} {t : Transaction B.recorded} {α β : Type}

def connection (s : Session B) : B.State := s.mapper.connection.inner

def calls (s : Session B) : List Call := s.mapper.connection.calls

/-- A session with an open transaction, and one whose connection is set up and answers what the transaction does. Both
have the same tables and records. -/
structure Beside (h : B.Handle) (s : Session B) (s' : Session C) : Prop where
  records : s'.records = s.records
  context : s'.mapper.context = s.mapper.context
  reached : s.mapper.Reached
  alsoReached : s'.mapper.Reached
  initialized : s'.mapper.initialized = true
  mimics : C.Mimics none s'.connection B (some h) s.connection

/-- Two such sessions after the same statements, sent in the transaction and on the connection. -/
structure Along (h : B.Handle) (s : Session B) (s' : Session C) (log : List Exchange) (after : Session B)
    (after' : Session C) : Prop where
  beside : Beside h after after'
  inTransaction : B.recorded.Serves (some h) s.mapper.connection log after.mapper.connection
  onConnection : C.recorded.Serves none s'.mapper.connection log after'.mapper.connection

/-- Whether one computation does in the transaction what the other does on the connection. -/
def Alike (h : B.Handle) (p : Run B α) (q : Run C α) : Prop :=
  ∀ (s : Session B) (s' : Session C), Beside h s s' →
    (q.run s').1 = (p.run s).1 ∧ ∃ log, Along h s s' log (p.run s).2 (q.run s').2

theorem Beside.along {s : Session B} {s' : Session C} (beside : Beside h s s') : Along h s s' [] s s' :=
  ⟨beside, rfl, rfl⟩

theorem alike_pure (a : α) : Alike h (pure a : Run B α) (pure a : Run C α) :=
  fun _ _ beside => ⟨rfl, [], beside.along⟩

theorem Alike.bind {p : Run B α} {q : Run C α} {f : α → Run B β} {g : α → Run C β} (first : Alike h p q)
    (second : ∀ a, Alike h (f a) (g a)) : Alike h (p >>= f) (q >>= g) := by
  intro s s' beside
  obtain ⟨same, early, along⟩ := first s s' beside
  obtain ⟨sameToo, late, alongToo⟩ := second (p.run s).1 _ _ along.beside
  rw [StateT.run_bind, StateT.run_bind]
  show ((g (q.run s').1).run _).1 = _ ∧ ∃ log, Along h s s' log _ ((g (q.run s').1).run _).2
  rw [same]
  exact ⟨sameToo, early ++ late, alongToo.beside,
    Backend.serves_append.mpr ⟨_, along.inTransaction, alongToo.inTransaction⟩,
    Backend.serves_append.mpr ⟨_, along.onConnection, alongToo.onConnection⟩⟩

theorem alike_gets {f : Session B → α} {g : Session C → α}
    (same : ∀ {s : Session B} {s' : Session C}, Beside h s s' → g s' = f s) :
    Alike h (do return f (← get) : Run B α) (do return g (← get) : Run C α) :=
  fun _ _ beside => ⟨same beside, [], beside.along⟩

theorem alike_keep (name : String) (r : Record) : Alike h (keep name r : Run B Unit) (keep name r : Run C Unit) := by
  intro s s' beside
  refine ⟨rfl, [], ⟨?_, beside.context, beside.reached, beside.alsoReached, beside.initialized, beside.mimics⟩, rfl,
    rfl⟩
  exact congrArg (fun records => (name, r) :: records.filter (·.1 != name)) beside.records

theorem alike_mapM {f : α → Run B β} {g : α → Run C β} (each : ∀ a, Alike h (f a) (g a)) (l : List α) :
    Alike h (l.mapM f) (l.mapM g) := by
  induction l with
  | nil => exact alike_pure []
  | cons a rest ih =>
    rw [List.mapM_cons, List.mapM_cons]
    exact (each a).bind fun b => ih.bind fun bs => alike_pure _

theorem alike_forM {f : α → Run B PUnit} {g : α → Run C PUnit} (each : ∀ a, Alike h (f a) (g a)) (l : List α) :
    Alike h (l.forM f) (l.forM g) := by
  induction l with
  | nil => exact alike_pure _
  | cons a rest ih => exact (each a).bind fun _ => ih

theorem alike_record? (name : String) :
    Alike h (record? name : Run B (Option Record)) (record? name : Run C (Option Record)) :=
  alike_gets fun beside => congrArg (List.lookup name) beside.records

theorem alike_context : Alike h (context : Run B Context) (context : Run C Context) :=
  alike_gets fun beside => beside.context

theorem alike_runScript (opened : t.handle? = some h) (script : Script α) :
    Alike h (runScript (.transaction t) script) (runScript (B := C) .mapper script) := by
  intro s s' beside
  have coherent := beside.reached.coherent
  obtain ⟨log, runs, serving⟩ :=
    Mapper.run_runs coherent (show s.mapper.run (.transaction t) script = (_, _) from rfl)
  obtain ⟨served, _⟩ := serving.reached (some h) ⟨h, opened, rfl⟩
  -- the connection answers the whole log alike, so the log is also that of the run on the mapper
  obtain ⟨last, mimicked⟩ := beside.mimics.recorded log _ served
  have runsToo : script.Runs s'.mapper.context log (s.mapper.run (.transaction t) script).1 := by
    rw [beside.context]
    exact runs
  have reaches : s'.mapper.Reaches none .mapper := ⟨beside.initialized, rfl⟩
  obtain ⟨same, reachesLast, ready, _⟩ := Mapper.run_of_runs beside.alsoReached.coherent reaches runsToo mimicked
  have later := beside.mimics.later (Backend.serves_recorded.mp served).1 (Backend.serves_recorded.mp mimicked).1
  refine ⟨same, log, ⟨beside.records, ?_, beside.reached.ran _ _, beside.alsoReached.ran _ _, ready, ?_⟩, served, ?_⟩
  · exact (Mapper.run_context beside.alsoReached.coherent script).trans
      (beside.context.trans (Mapper.run_context coherent script).symm)
  · show C.Mimics none (s'.mapper.run .mapper script).2.connection.inner B _ _
    rw [reachesLast]
    exact later
  · show C.recorded.Serves none _ log (s'.mapper.run .mapper script).2.connection
    rw [reachesLast]
    exact mimicked

theorem alike_attempt (opened : t.handle? = some h) (f : α → Shown) (script : Attempt α) :
    Alike h (attempt (.transaction t) f script) (attempt (B := C) .mapper f script) :=
  (alike_runScript opened script).bind fun _ => alike_pure _

theorem alike_onRecords (opened : t.handle? = some h) (names : List String) (f : α → Shown)
    (script : Context → List Record → Script (Except Error α × List Record)) :
    Alike h (onRecords (.transaction t) names f script) (onRecords (B := C) .mapper names f script) := by
  refine (alike_mapM alike_record? names).bind fun records => alike_context.bind fun ctx =>
    (alike_runScript opened _).bind fun answer => ?_
  cases answer with
  | error reason => exact alike_pure _
  | ok left => exact (alike_forM (fun _ => alike_keep _ _) _).bind fun _ => alike_pure _

theorem alike_act (opened : t.handle? = some h) {a : Action} (leaves : a.leavesToExecutor = true) :
    Alike h (act (.transaction t) a) (act (B := C) .mapper a) := by
  cases a with
  | create target type fields =>
    simp only [act]
    split
    · exact (alike_keep _ _).bind fun _ => alike_pure _
    · exact alike_pure _
  | copy source target =>
    refine (alike_record? source).bind fun r => ?_
    cases r with
    | none => exact alike_pure _
    | some r => exact (alike_keep target r).bind fun _ => alike_pure _
  | set target path x =>
    refine (alike_record? target).bind fun r => ?_
    cases r with
    | none => exact alike_pure _
    | some r => exact (alike_keep _ _).bind fun _ => alike_pure _
  | field source path =>
    refine (alike_record? source).bind fun r => ?_
    cases r <;> exact alike_pure _
  | insert names | update names | updateColumns accepts names | delete names => exact alike_onRecords opened names _ _
  | get type keys target =>
    refine alike_context.bind fun ctx => (alike_runScript opened _).bind fun answer => ?_
    dsimp only
    split
    · split
      · exact (alike_keep _ _).bind fun _ => alike_pure _
      · exact alike_pure _
    · exact alike_pure _
  | select type sql args | selectOne type sql args => exact alike_context.bind fun _ => alike_attempt opened _ _
  | selectInto type sql args before =>
    exact alike_context.bind fun _ => (alike_runScript opened _).bind fun _ => alike_pure _
  | selectValue type sql args | exec sql args | query sql args | queryRow sql args => exact alike_attempt opened _ _
  | execDirect sql args => cases leaves
  | dialectName =>
    exact alike_gets fun beside =>
      congrArg (fun ctx : Context => Except.ok (Result.plain (.text ctx.dialect.name))) beside.context

end Session

open Session

namespace Program

variable {B C : Backend} {h : B.Handle} {t : Transaction B.recorded}

/-- The actions of a program go alike one after the other, so what they showed chooses the same next one. -/
theorem alike_run (opened : t.handle? = some h) {p : Program} (leaves : p.LeavesToExecutor) :
    Alike h (p.run (.transaction t)) (p.run (B := C) .mapper) := by
  induction p with
  | done => exact alike_pure []
  | act a next ih =>
    rw [run, run]
    refine (alike_act opened leaves.1).bind fun shown => ?_
    cases shown with
    | error reason => exact alike_pure _
    | ok result => exact (ih result (leaves.2 result)).bind fun _ => alike_pure _

/-- A program on a mapper that is set up does what it does in an open transaction, if the connection answers what is
answered in the transaction: it shows the same, leaves the same records and sends the same statements, which go to the
handle of the transaction in the one case and to the connection in the other. -/
theorem same_on_connection (opened : t.handle? = some h) {p : Program} (leaves : p.LeavesToExecutor) {s : Session B}
    {s' : Session C} (beside : Beside h s s') :
    let (shown, after) := (p.run (.transaction t)).run s
    let (shown', after') := (p.run .mapper).run s'
    shown' = shown ∧ after'.records = after.records ∧ ∃ log,
      B.Serves (some h) s.connection log after.connection ∧
      C.Serves none s'.connection log after'.connection ∧
      after.calls = s.calls ++ log.map (Exchange.call true) ∧
      after'.calls = s'.calls ++ log.map (Exchange.call false) := by
  obtain ⟨same, log, along⟩ := alike_run (C := C) opened leaves s s' beside
  obtain ⟨served, calls⟩ := Backend.serves_recorded.mp along.inTransaction
  obtain ⟨servedToo, callsToo⟩ := Backend.serves_recorded.mp along.onConnection
  exact ⟨same, along.beside.records, log, served, servedToo, calls, callsToo⟩

end Program

/-- An event whose insertion notes it first, as a statement and as another event. -/
def notedEventType : RecordType :=
  eventType.withHooks fun
    | .preInsert => [.exec "delete from notes;" [], .insert eventType [("id", .bigInt 9)]]
    | _ => []

def noting : List Action :=
  [.create "e" notedEventType [("id", .bigInt 5)], .insert ["e"], .update ["e"], .get eventType [.bigInt 5] (some "f"),
    .delete ["e"]]

def eventMapper : Mapper Backend.scripted.recorded :=
  let new : Mapper Backend.scripted.recorded := { dialect := eventContext.dialect, connection := { inner := {} } }
  (new.register eventType none none).reconfigured "Event" [.change (.keys false ["id"])]

theorem eventMapper_reached : eventMapper.Reached :=
  have new := Mapper.Reached.fresh (B := Backend.scripted.recorded) eventContext.dialect _
  (new.registered eventType none none).reconfigured "Event" [.change (.keys false ["id"])]

def recordedTransaction : Transaction Backend.scripted.recorded := ⟨some ()⟩

/-- Replies in a queue are the same in a transaction and on the connection. -/
theorem Backend.scripted_mimics (used? handle? : Option Unit) (s : Replies) :
    scripted.Mimics used? s scripted handle? s := by
  have same : ∀ log s s', scripted.Serves handle? s log s' → scripted.Serves used? s log s' := by
    intro log
    induction log with
    | nil => exact fun _ _ served => served
    | cons x log ih =>
      rintro s s' ⟨mid, answered, served⟩
      refine ⟨mid, ?_, ih mid s' served⟩
      cases x <;> exact answered
  exact fun log s' served => ⟨s', same log s s' served⟩

/-- The events are noted alike in a transaction and on a connection that has been used. -/
theorem noting_on_connection :
    let used : Session Backend.scripted := { mapper := (eventMapper.run .mapper (Attempt.exec "select 1;" [])).2 }
    let (shown, after) := ((Program.ofList noting).run (.transaction recordedTransaction)).run { mapper := eventMapper }
    let (shown', after') := ((Program.ofList noting).run .mapper).run used
    shown' = shown ∧ after'.records = after.records ∧ ∃ log : List Exchange, log.length = 8 ∧
      after.calls = log.map (Exchange.call true) ∧
      after'.calls = .execute false "select 1;" [] :: log.map (Exchange.call false) := by
  have leaves : (Program.ofList noting).LeavesToExecutor := Program.leavesToExecutor_ofList (by decide)
  have beside : Session.Beside (B := Backend.scripted) (C := Backend.scripted) () { mapper := eventMapper }
      { mapper := (eventMapper.run .mapper (Attempt.exec "select 1;" [])).2 } :=
    ⟨rfl, rfl, eventMapper_reached, eventMapper_reached.ran _ _, rfl, Backend.scripted_mimics _ _ _⟩
  obtain ⟨shown, records, log, _, _, calls, callsToo⟩ :=
    Program.same_on_connection (t := recordedTransaction) rfl leaves beside
  have sent : (((Program.ofList noting).run (.transaction recordedTransaction)).run
      { mapper := eventMapper }).2.calls.length = 8 := by
    decide +kernel
  refine ⟨shown, records, log, ?_, calls, callsToo⟩
  have counted := congrArg List.length calls
  rw [List.length_append, List.length_map] at counted
  exact (Nat.zero_add _).symm.trans (counted.symm.trans sent)

end RowMapper
