import RowMapper.Proofs.History
import RowMapper.Session.Run

/-!
# Mappers of sessions

Whatever a session does with its mapper, in whatever order, is a history of the mapper.
-/

namespace RowMapper

open Mapper

namespace Session

variable {B : Backend} {α β : Type}

/-- Whether the mapper of a session stays one that can come of a new one. -/
def Keeps (p : Run B α) : Prop := ∀ s : Session B, Reached s.mapper → Reached (p.run s).2.mapper

theorem keeps_pure (a : α) : Keeps (pure a : Run B α) := fun _ reached => reached

theorem Keeps.bind {p : Run B α} {f : α → Run B β} (first : Keeps p) (second : ∀ a, Keeps (f a)) : Keeps (p >>= f) :=
  fun s reached => second (p.run s).1 (p.run s).2 (first s reached)

theorem keeps_get : Keeps (get : Run B (Session B)) := fun _ reached => reached

theorem keeps_modify {f : Session B → Session B} (same : ∀ s, (f s).mapper = s.mapper) :
    Keeps (modify f : Run B Unit) :=
  fun s reached => (same s).symm ▸ reached

theorem keeps_mapM {f : α → Run B β} (each : ∀ a, Keeps (f a)) (l : List α) : Keeps (l.mapM f) := by
  induction l with
  | nil => exact keeps_pure []
  | cons a rest ih =>
    rw [List.mapM_cons]
    exact (each a).bind fun b => ih.bind fun bs => keeps_pure _

theorem keeps_forM {f : α → Run B PUnit} (each : ∀ a, Keeps (f a)) (l : List α) : Keeps (l.forM f) := by
  induction l with
  | nil => exact keeps_pure _
  | cons a rest ih => exact (each a).bind fun _ => ih

theorem keeps_keep (name : String) (r : Record) : Keeps (keep name r : Run B Unit) := keeps_modify fun _ => rfl

theorem keeps_record? (name : String) : Keeps (record? name : Run B (Option Record)) :=
  keeps_get.bind fun _ => keeps_pure _

theorem keeps_recordsNamed (names : List String) : Keeps (recordsNamed names : Run B (List (Option Record))) :=
  keeps_mapM keeps_record? names

theorem keeps_context : Keeps (context : Run B Context) := keeps_get.bind fun _ => keeps_pure _

theorem keeps_runScript (via : Executor B.recorded) (script : Script α) : Keeps (runScript via script) :=
  fun _ reached => reached.ran via script

theorem keeps_attempt (via : Executor B.recorded) (f : α → Shown) (script : Attempt α) : Keeps (attempt via f script) :=
  (keeps_runScript via script).bind fun _ => keeps_pure _

theorem keeps_onRecords (via : Executor B.recorded) (names : List String) (f : α → Shown)
    (script : Context → List Record → Script (Except Error α × List Record)) :
    Keeps (onRecords via names f script) := by
  refine (keeps_recordsNamed names).bind fun records => keeps_context.bind fun ctx =>
    (keeps_runScript via _).bind fun answer => ?_
  cases answer with
  | error reason => exact keeps_pure _
  | ok left => exact (keeps_forM (fun _ => keeps_keep _ _) _).bind fun _ => keeps_pure _

theorem keeps_act (via : Executor B.recorded) (a : Action) : Keeps (act via a) := by
  cases a with
  | create target type fields =>
    simp only [act]
    split
    · exact (keeps_keep _ _).bind fun _ => keeps_pure _
    · exact keeps_pure _
  | copy source target =>
    refine (keeps_record? source).bind fun r => ?_
    cases r with
    | none => exact keeps_pure _
    | some r => exact (keeps_keep target r).bind fun _ => keeps_pure _
  | set target path x =>
    refine (keeps_record? target).bind fun r => ?_
    cases r with
    | none => exact keeps_pure _
    | some r => exact (keeps_keep _ _).bind fun _ => keeps_pure _
  | field source path =>
    refine (keeps_record? source).bind fun r => ?_
    cases r <;> exact keeps_pure _
  | insert names | update names | updateColumns accepts names | delete names => exact keeps_onRecords via names _ _
  | get type keys target =>
    refine keeps_context.bind fun ctx => (keeps_runScript via _).bind fun answer => ?_
    dsimp only
    split
    · split
      · exact (keeps_keep _ _).bind fun _ => keeps_pure _
      · exact keeps_pure _
    · exact keeps_pure _
  | select type sql args | selectOne type sql args => exact keeps_context.bind fun _ => keeps_attempt via _ _
  | selectInto type sql args before =>
    exact keeps_context.bind fun _ => (keeps_runScript via _).bind fun _ => keeps_pure _
  | selectValue type sql args | exec sql args | query sql args | queryRow sql args => exact keeps_attempt via _ _
  | execDirect sql args => exact fun s reached => reached.changed s.mapper.converter s.mapper.tracing s.mapper.trace _
  | dialectName => exact keeps_get.bind fun _ => keeps_pure _

theorem keeps_configure (type : RecordType) (steps : List TableStep) :
    Keeps (configure type steps : Run B (Except Fault (List TableAnswer))) := by
  intro s reached
  have left : ((configure type steps : Run B _).run s).2.mapper = s.mapper.reconfigured type.typeName steps := by
    simp only [configure, reconfigured, StateT.run_bind, StateT.run_get, pure_bind]
    cases s.mapper.configure type.typeName steps <;> rfl
  rw [left]
  exact reached.reconfigured type.typeName steps

theorem keeps_manage (a : MapperAction) : Keeps (manage a : Run B (Except Fault Result)) := by
  cases a with
  | register type schema name steps =>
    have registers : Keeps (modify fun s => { s with mapper := s.mapper.register type schema name } : Run B Unit) :=
      fun s reached => reached.registered type schema name
    exact registers.bind fun _ => (keeps_configure type steps).bind fun _ => keeps_context.bind fun _ => keeps_pure _
  | configure type steps => exact (keeps_configure type steps).bind fun _ => keeps_pure _
  | table type => exact keeps_context.bind fun _ => keeps_pure _
  | tableName type => exact keeps_get.bind fun _ => keeps_pure _
  | tables => exact keeps_context.bind fun _ => keeps_pure _
  | definition type guarded => exact keeps_get.bind fun _ => keeps_pure _
  | createTables guarded | dropTables guarded | dropTable type guarded | truncateTables | createIndexes =>
    exact keeps_context.bind fun _ => keeps_attempt .mapper _ _
  | dropIndex type name => exact fun s reached => reached.indexDropped type.typeName name
  | convert converter =>
    exact fun s reached => reached.changed converter s.mapper.tracing s.mapper.trace s.mapper.connection
  | trace start =>
    exact fun s reached => reached.changed s.mapper.converter start s.mapper.trace s.mapper.connection

theorem keeps_takeCalls : Keeps (takeCalls : Run B (List Call)) := fun s reached =>
  reached.changed s.mapper.converter s.mapper.tracing s.mapper.trace _

theorem keeps_takeTrace : Keeps (takeTrace : Run B (List String)) := fun s reached =>
  reached.changed s.mapper.converter s.mapper.tracing [] s.mapper.connection

theorem keeps_entry (listed : Option (List String)) (result : Except Fault Result) :
    Keeps (entry listed result : Run B (Entry × Bool)) := by
  refine keeps_takeCalls.bind fun calls => keeps_takeTrace.bind fun trace => ?_
  cases result with
  | error reason => exact keeps_pure _
  | ok shown =>
    cases listed with
    | none => exact keeps_pure _
    | some names =>
      have looked : Keeps ((some names).mapM recordsNamed : Run B (Option (List (Option Record)))) :=
        (keeps_recordsNamed names).bind fun _ => keeps_pure _
      exact looked.bind fun _ => keeps_pure _

theorem keeps_prepare (change : B.State → B.State) : Keeps (prepare change : Run B Unit) := fun s reached =>
  reached.changed s.mapper.converter s.mapper.tracing s.mapper.trace _

theorem keeps_conclude (via : Executor B.recorded) :
    Keeps (conclude via Mapper.commit : Run B _) ∧ Keeps (conclude via Mapper.rollback : Run B _) := by
  cases via with
  | mapper => exact ⟨keeps_pure _, keeps_pure _⟩
  | transaction t => exact ⟨fun _ reached => reached.committed t, fun _ reached => reached.rolledBack t⟩

theorem keeps_start : Keeps (start : Run B (Except Error (Transaction B.recorded))) := fun _ reached => reached.started

theorem keeps_leave (via : Executor B.recorded) : Keeps (leave via : Run B Unit) := by
  cases via with
  | mapper => exact keeps_pure _
  | transaction t => exact fun _ reached => reached.left t

end Session

open Session

variable {B : Backend}

mutual

theorem Operation.keeps (listed : Option (List String)) (via : Executor B.recorded) (o : Operation B.State) :
    Keeps (o.run listed via) := by
  cases o with
  | act a =>
    rw [Operation.run]
    exact (keeps_act via a).bind fun _ => (keeps_entry listed _).bind fun _ => keeps_pure _
  | manage a =>
    rw [Operation.run]
    exact (keeps_manage a).bind fun _ => (keeps_entry listed _).bind fun _ => keeps_pure _
  | commit =>
    rw [Operation.run]
    exact (keeps_conclude via).1.bind fun _ => (keeps_entry listed _).bind fun _ => keeps_pure _
  | rollback =>
    rw [Operation.run]
    exact (keeps_conclude via).2.bind fun _ => (keeps_entry listed _).bind fun _ => keeps_pure _
  | isFinished | describe =>
    rw [Operation.run]
    exact (keeps_entry listed _).bind fun _ => keeps_pure _
  | onMapper o =>
    rw [Operation.run]
    exact (Operation.keeps listed .mapper o).bind fun _ => keeps_pure _
  | transaction beforeLeaving inner =>
    rw [Operation.run]
    refine keeps_start.bind fun started => ?_
    cases started with
    | error e => exact keeps_takeCalls.bind fun _ => keeps_pure _
    | ok t =>
      exact keeps_takeCalls.bind fun _ => (Operations.keeps (.transaction t) inner).bind fun left =>
        (keeps_prepare beforeLeaving).bind fun _ => (keeps_leave _).bind fun _ =>
          keeps_takeCalls.bind fun _ => keeps_pure _

theorem Operations.keeps (via : Executor B.recorded) (os : Operations B.State) : Keeps (os.run via) := by
  cases os with
  | nil => exact keeps_pure _
  | cons before listed o rest =>
    rw [Operations.run]
    refine (keeps_prepare before).bind fun _ => (Operation.keeps listed via o).bind fun ran => ?_
    obtain ⟨⟨first, goesOn⟩, left⟩ := ran
    cases goesOn with
    | false => exact keeps_pure _
    | true => exact (Operations.keeps left rest).bind fun _ => keeps_pure _

end

/-- Whatever a session does with a new mapper, the mapper stays one that can come of a new one. -/
theorem Session.reached_of_new (d : Dialect) (connection : B.recorded.State) (operations : Operations B.State) :
    Reached ((operations.run .mapper).run { mapper := { dialect := d, connection } }).2.mapper :=
  Operations.keeps .mapper operations { mapper := { dialect := d, connection } } (.fresh d connection)

end RowMapper
