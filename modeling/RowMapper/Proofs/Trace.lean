import RowMapper.Proofs.Startup
import RowMapper.Proofs.Text.OneLine

/-!
# Traces

While tracing is on, each statement that is handed to the connection or to an open transaction leaves a line, and so
does each conclusion that is asked for. The setup of a connection, the start of a transaction and the rollback of one
that is left are sent without a line, and what is not sent leaves none.
-/

namespace RowMapper

open Number

variable {η α : Type} {B : Backend}

inductive Purpose where
  | setup
  | statement
  | start
  | conclusion
  /-- A transaction is left open. -/
  | leaving

/-- A request that reached the backend, with what it was sent for. -/
structure Sent (η : Type) where
  purpose : Purpose
  asked : Asked η

/-- How a statement is noted: what lines begin with, its text, and its arguments numbered from one in their order, with
no line feed among them. -/
def IsNote (start sql : String) (args : List Value) (line : String) : Prop :=
  ∃ numbered : List String,
    let shown := " [" ++ " ".intercalate numbered ++ "]"
    line = start ++ sql ++ shown ∧ numbered.length = args.length ∧
      (∀ (i : Nat) x, args[i]? = some x → numbered[i]? = some (integerText (i + 1) ++ ":" ++ x.display)) ∧
      IsOneLine shown

theorem traceLine_isNote (start sql : String) (args : List Value) :
    IsNote start sql args (traceLine start sql args) := by
  refine ⟨args.mapIdx fun i x => integerText (i + 1) ++ ":" ++ x.display, ?_, List.length_mapIdx, ?_, ?_⟩
  · simp only [traceLine, String.append_assoc]
  · intro i x found
    rw [List.getElem?_mapIdx, found]
    rfl
  · refine isOneLine_between (isOneLine_intercalate (by decide) ?_)
    intro s member
    obtain ⟨i, inRange, rfl⟩ := List.mem_mapIdx.mp member
    simp only [isOneLine_append]
    exact ⟨⟨integerText_oneLine _, by decide⟩, Value.display_oneLine _⟩

/-- The lines that a request leaves in the trace, by what it is sent for. -/
inductive Sent.Leaves (init? : Option String) (start : String) : Sent η → List String → Prop
  | setup {sql error?} (setup : init? = some sql) : Leaves init? start ⟨.setup, .execute none sql [], error?⟩ []
  | execute {handle? sql args error? line} (note : IsNote start sql args line) :
    Leaves init? start ⟨.statement, .execute handle? sql args, error?⟩ [line]
  | query {handle? sql args error? line} (note : IsNote start sql args line) :
    Leaves init? start ⟨.statement, .query handle? sql args, error?⟩ [line]
  | start {error?} : Leaves init? start ⟨.start, .start, error?⟩ []
  | commit {handle error? line} (note : IsNote start "commit;" [] line) :
    Leaves init? start ⟨.conclusion, .commit handle, error?⟩ [line]
  | rollback {handle error? line} (note : IsNote start "rollback;" [] line) :
    Leaves init? start ⟨.conclusion, .rollback handle, error?⟩ [line]
  | leaving {handle error?} : Leaves init? start ⟨.leaving, .rollback handle, error?⟩ []

/-! ### What is sent -/

namespace Mapper

def sentInFront (m : Mapper B.watched) : List (Sent B.Handle) :=
  if m.initialized then []
  else
    match m.dialect.initStatement? with
    | some sql => [⟨.setup, .execute none sql [], failure? m.ensureInit.1⟩]
    | none => []

/-- A request to the connection is sent behind the setup, unless that fails. -/
def sentBehind (m : Mapper B.watched) (x : Sent B.Handle) : List (Sent B.Handle) :=
  m.sentInFront ++ if (failure? m.ensureInit.1).isNone then [x] else []

def sentVia (via : Executor B.watched) (m : Mapper B.watched) (request : Option B.Handle → Request B.Handle)
    (answer : Except Error α) : List (Sent B.Handle) :=
  match via with
  | .mapper => m.sentBehind ⟨.statement, request none, failure? answer⟩
  | .transaction t =>
    match t.handle? with
    | some h => [⟨.statement, request (some h), failure? answer⟩]
    | none => []

def sent (via : Executor B.watched) : Script α → Mapper B.watched → List (Sent B.Handle)
  | .done _, _ | .fault _, _ => []
  | .plan typeName kind next, m =>
    match m.registry.plan m.dialect typeName kind with
    | .ok (plan, registry) => sent via (next plan) (m.withRegistry registry)
    | .error _ => []
  | .exec sql args next, m =>
    let (answer, after) := m.send via sql args B.watched.execute
    m.sentVia via (.execute · sql args) answer ++ sent via (next answer) after
  | .query sql args next, m =>
    let (answer, after) := m.send via sql args B.watched.query
    m.sentVia via (.query · sql args) answer ++
      match checkRows answer with
      | .ok rows => sent via (next rows) after
      | .error _ => []

end Mapper

def TransactionCall.sent (t : Transaction B.watched) (m : Mapper B.watched) : TransactionCall → List (Sent B.Handle)
  | .run script => m.sent (.transaction t) (script m.context)
  | .conclude c => (asked t m (.conclude c)).map (.mk .conclusion)

namespace Usage

def sent (u : Usage B.watched) : MapperCall → List (Sent B.Handle)
  | .run script => u.mapper.sent .mapper (script u.mapper.context)
  | .dropIndex typeName name => u.mapper.sent .mapper (u.mapper.context.dropIndex typeName name)
  | .start => u.mapper.sentBehind ⟨.start, .start, failure? u.mapper.start.1⟩
  | .within place call => (u.transactions[place]?.map fun t => call.sent t u.mapper).getD []
  | .leave place =>
    (u.transactions[place]?.map fun t => (TransactionCall.askedAtLast t u.mapper).map (.mk .leaving)).getD []

def sentAll (u : Usage B.watched) : List MapperCall → List (Sent B.Handle)
  | [] => []
  | call :: calls => u.sent call ++ (u.step call).sentAll calls

end Usage

/-! ### What that leaves in the trace -/

namespace Mapper

variable {start : String} {m mid after : Mapper B.watched} {early late : List (Sent B.Handle)}

/-- A mapper that traces sends requests, which are in its log and leave their lines in its trace. -/
structure Traces (start : String) (m : Mapper B.watched) (sent : List (Sent B.Handle)) (after : Mapper B.watched) :
    Prop where
  tracing : after.tracing = some start
  dialect : after.dialect = m.dialect
  log : after.log = m.log ++ sent.map Sent.asked
  trace : ∃ lines, List.Forall₂ (Sent.Leaves m.dialect.initStatement? start) sent lines ∧
    after.trace = m.trace ++ lines.flatten

theorem Traces.refl (on : m.tracing = some start) : m.Traces start [] m where
  tracing := on
  dialect := rfl
  log := by simp
  trace := ⟨[], .nil, by simp⟩

theorem Traces.trans (first : m.Traces start early mid) (second : mid.Traces start late after) :
    m.Traces start (early ++ late) after := by
  obtain ⟨lines, leaves, noted⟩ := first.trace
  obtain ⟨others, leavesToo, notedToo⟩ := second.trace
  rw [first.dialect] at leavesToo
  refine ⟨second.tracing, second.dialect.trans first.dialect, ?_, lines ++ others, ?_, ?_⟩
  · rw [second.log, first.log, List.map_append, List.append_assoc]
  · exact List.rel_append leaves leavesToo
  · rw [notedToo, noted, List.flatten_append, List.append_assoc]

/-- One request, with the lines that it leaves. -/
theorem traces_one {x : Sent B.Handle} {lines : List String} (on : after.tracing = some start)
    (same : after.dialect = m.dialect) (logged : after.log = m.log ++ [x.asked])
    (leaves : x.Leaves m.dialect.initStatement? start lines) (noted : after.trace = m.trace ++ lines) :
    m.Traces start [x] after :=
  ⟨on, same, logged, [lines], .cons leaves .nil, by simp [noted]⟩

theorem traced_on (on : m.tracing = some start) (sql : String) (args : List Value) :
    m.traced sql args = { m with trace := m.trace ++ [traceLine start sql args] } := by
  simp only [traced, on]

/-- What is noted before it is sent leaves its line, whatever the answer is. -/
theorem traces_noted (on : m.tracing = some start) {sql : String} {args : List Value} {x : Sent B.Handle}
    {connection : B.watched.State} (logged : connection.log = (m.traced sql args).connection.log ++ [x.asked])
    (leaves : ∀ line, IsNote start sql args line → x.Leaves m.dialect.initStatement? start [line]) :
    m.Traces start [x] { m.traced sql args with connection } := by
  rw [traced_on on] at logged ⊢
  exact traces_one on rfl logged (leaves _ (traceLine_isNote start sql args)) rfl

theorem ensureInit_traces (on : m.tracing = some start) : m.Traces start m.sentInFront m.ensureInit.2 := by
  have ran := m.ensureInit_run
  unfold sentInFront
  generalize m.ensureInit = started at ran ⊢
  cases ran with
  | already ready =>
    rw [if_pos ready]
    exact .refl on
  | needless none =>
    simp only [none, ite_self]
    exact ⟨on, rfl, by simp [Mapper.log], [], .nil, by simp⟩
  | succeeded unready setup logged | failed unready setup logged =>
    simp only [unready, setup]
    exact traces_one on rfl logged (.setup setup) (by simp)

theorem afterInit_traces (on : m.tracing = some start) {step : Mapper B.watched → Except Error α × Mapper B.watched}
    {purpose : Purpose} {request : Request B.Handle}
    (traces : ∀ m : Mapper B.watched, m.tracing = some start →
      m.Traces start [⟨purpose, request, failure? (step m).1⟩] (step m).2) :
    m.Traces start (m.sentBehind ⟨purpose, request, failure? (m.afterInit step).1⟩) (m.afterInit step).2 := by
  have inFront := ensureInit_traces on
  unfold sentBehind afterInit
  rcases started : m.ensureInit with ⟨e | ⟨⟩, ready⟩
  · rw [started] at inFront
    simpa [failure?] using inFront
  · rw [started] at inFront
    exact inFront.trans (traces ready inFront.tracing)

variable
  {call : Option B.watched.Handle → String → List Value → B.watched.State → Except Error α × B.watched.State}
  {request : Option B.Handle → String → List Value → Request B.Handle}

/-- A kind of request that is noted as the statement that it is. -/
def IsNoted (request : Option B.Handle → String → List Value → Request B.Handle) : Prop :=
  ∀ {init? start handle? sql args error? line}, IsNote start sql args line →
    Sent.Leaves init? start ⟨.statement, request handle? sql args, error?⟩ [line]

theorem send_traces (on : m.tracing = some start) (logs : LogsAs call request) (noted : IsNoted request)
    (via : Executor B.watched) (sql : String) (args : List Value) :
    m.Traces start (m.sentVia via (request · sql args) (m.send via sql args call).1) (m.send via sql args call).2 := by
  cases via with
  | mapper =>
    rw [send_eq_afterInit]
    refine afterInit_traces on fun m on => ?_
    exact traces_noted on (logs none sql args (m.traced sql args).connection) fun _ => noted
  | transaction t =>
    unfold sentVia
    cases opened : t.handle? with
    | none =>
      rw [send_closed opened]
      simp only [opened]
      exact .refl on
    | some h =>
      simp only [send, opened]
      exact traces_noted on (logs (some h) sql args (m.traced sql args).connection) fun _ => noted

theorem run_traces (on : m.tracing = some start) (via : Executor B.watched) (s : Script α) :
    m.Traces start (m.sent via s) (m.run via s).2 := by
  induction s generalizing m with
  | done result | fault reason => exact .refl on
  | plan typeName kind next ih =>
    unfold sent
    rcases answer : m.registry.plan m.dialect typeName kind with reason | ⟨plan, registry⟩
    · rw [(run_plan_error answer).1]
      exact .refl on
    · rw [(run_plan_ok answer).1]
      have rest := ih plan (m := m.withRegistry registry) on
      exact ⟨rest.tracing, rest.dialect, rest.log, rest.trace⟩
  | exec sql args next ih =>
    rw [run_exec]
    have first := send_traces on execute_logs .execute via sql args
    exact first.trans (ih _ first.tracing)
  | query sql args next ih =>
    have first := send_traces on query_logs .query via sql args
    unfold sent
    rcases checked : checkRows (m.send via sql args B.watched.query).1 with reason | rows
    · rw [run_query_error checked]
      simpa only [checked, List.append_nil] using first
    · rw [run_query_ok checked]
      simpa only [checked] using first.trans (ih rows first.tracing)

theorem dropIndex_traces (on : m.tracing = some start) (typeName name : String) :
    m.Traces start (m.sent .mapper (m.context.dropIndex typeName name)) (m.dropIndex typeName name).2 := by
  have ran := run_traces on .mapper (m.context.dropIndex typeName name)
  unfold dropIndex
  split
  · rename_i dropped answered
    rw [answered] at ran
    split
    · exact ⟨ran.tracing, ran.dialect, ran.log, ran.trace⟩
    · exact ran
  · exact ran

theorem start_traces (on : m.tracing = some start) :
    m.Traces start (m.sentBehind ⟨.start, .start, failure? m.start.1⟩) m.start.2 := by
  rw [start_eq_afterInit]
  refine afterInit_traces on fun m on => ?_
  rw [failure?_map]
  exact traces_one on rfl rfl .start (List.append_nil _).symm

theorem conclude_traces (on : m.tracing = some start) (c : Conclusion) (t : Transaction B.watched) :
    m.Traces start ((TransactionCall.conclude c).sent t m) (c.conclude m t).2.2 := by
  unfold TransactionCall.sent TransactionCall.asked
  cases opened : t.handle? with
  | none =>
    rw [conclude_closed opened]
    exact .refl on
  | some h =>
    cases c with
    | commit =>
      simp only [Conclusion.conclude, commit, conclude, opened]
      exact traces_noted on rfl fun _ => .commit
    | rollback =>
      simp only [Conclusion.conclude, rollback, conclude, opened]
      exact traces_noted on rfl fun _ => .rollback

theorem leave_traces (on : m.tracing = some start) (t : Transaction B.watched) :
    m.Traces start ((TransactionCall.askedAtLast t m).map (.mk .leaving)) (m.leave t) := by
  unfold TransactionCall.askedAtLast leave
  cases t.handle? with
  | none => exact .refl on
  | some h => exact traces_one on rfl rfl .leaving (List.append_nil _).symm

end Mapper

namespace Usage

variable {start : String} {u : Usage B.watched}

theorem use_traces (on : u.mapper.tracing = some start) {place : Nat}
    {step : Transaction B.watched → Transaction B.watched × Mapper B.watched}
    {sent : Transaction B.watched → List (Sent B.Handle)} (traces : ∀ t, u.mapper.Traces start (sent t) (step t).2) :
    u.mapper.Traces start ((u.transactions[place]?.map sent).getD []) (u.use place step).mapper := by
  unfold use
  cases u.transactions[place]? with
  | none => exact .refl on
  | some t => exact traces t

theorem step_traces (on : u.mapper.tracing = some start) (call : MapperCall) :
    u.mapper.Traces start (u.sent call) (u.step call).mapper := by
  cases call with
  | run script => exact Mapper.run_traces on .mapper _
  | dropIndex typeName name => exact Mapper.dropIndex_traces on typeName name
  | start =>
    have began := Mapper.start_traces on
    unfold sent step
    rcases started : u.mapper.start with ⟨e | t, after⟩
    all_goals
      rw [started] at began
      exact began
  | within place call =>
    refine use_traces on fun t => ?_
    cases call with
    | run script => exact Mapper.run_traces on (.transaction t) _
    | conclude c => exact Mapper.conclude_traces on c t
  | leave place => exact use_traces on (Mapper.leave_traces on)

theorem stepAll_traces (on : u.mapper.tracing = some start) (calls : List MapperCall) :
    u.mapper.Traces start (u.sentAll calls) (u.stepAll calls).mapper := by
  induction calls generalizing u with
  | nil => exact .refl on
  | cons call calls ih =>
    have first := step_traces on call
    exact first.trans (ih first.tracing)

/-- While tracing is on, the trace follows the log of the connection, whatever is called on a mapper and on the
transactions that it begins and however the backend answers: each request leaves its lines, in order. -/
theorem trace_of_log (on : u.mapper.tracing = some start) (calls : List MapperCall) :
    (u.stepAll calls).mapper.log = u.mapper.log ++ (u.sentAll calls).map Sent.asked ∧
    ∃ lines, List.Forall₂ (Sent.Leaves u.mapper.dialect.initStatement? start) (u.sentAll calls) lines ∧
      (u.stepAll calls).mapper.trace = u.mapper.trace ++ lines.flatten :=
  have traces := stepAll_traces on calls
  ⟨traces.log, traces.trace⟩

end Usage

def tracedConnection : Mapper Backend.scripted.watched := { fragileConnection with tracing := some "> " }

/-- The first setup fails. The statement behind the commit finds the transaction finished, and the second transaction is
left open. -/
def tracedCalls : List MapperCall :=
  [.run fun _ => Attempt.exec "vacuum;" [], .start,
    .within 0 (.run fun _ => Attempt.exec "delete from notes where a = ? and b = ?;" [.text "one\ntwo", .int 3]),
    .within 0 (.conclude .commit), .within 0 (.run fun _ => Attempt.exec "vacuum;" []), .start, .leave 1,
    .run fun _ => Attempt.query "select 1;" []]

theorem tracedCalls_trace_of_log :
    let u : Usage Backend.scripted.watched := { mapper := tracedConnection }
    (u.stepAll tracedCalls).mapper.log = [] ++ (u.sentAll tracedCalls).map Sent.asked ∧
    ∃ lines, List.Forall₂ (Sent.Leaves (some "pragma foreign_keys = on;") "> ") (u.sentAll tracedCalls) lines ∧
      (u.stepAll tracedCalls).mapper.trace = [] ++ lines.flatten :=
  Usage.trace_of_log (u := { mapper := tracedConnection }) rfl tracedCalls

example : (Usage.stepAll { mapper := tracedConnection } tracedCalls).mapper.trace =
    ["> delete from notes where a = ? and b = ?; [1:\"one\\ntwo\" 2:3]", "> commit; []", "> select 1; []"] := by
  decide +kernel

end RowMapper
