import RowMapper.Proofs.Mapper

/-!
# Scripts without requests for plans

A script that asks for plans goes on as if each were built when it is asked for. So a mapper that keeps plans does with
a script what it would do without any, whatever it has kept.
-/

namespace RowMapper

variable {α : Type}

/-- A script with a new plan in the place of each request, for tables as they are in a context. -/
def Script.planned (ctx : Context) : Script α → Script α
  | done result => .done result
  | fault reason => .fault reason
  | plan typeName kind next =>
    match ctx.planFor typeName kind with
    | .ok handed => (next handed).planned ctx
    | .error reason => .fault reason
  | exec sql args next => .exec sql args fun answer => (next answer).planned ctx
  | query sql args next => .query sql args fun answer => (next answer).planned ctx

namespace Mapper

variable {B : Backend} {via : Executor B} {m n : Mapper B} {r : Registry} {s later : Script α}

def withRegistry (m : Mapper B) (registry : Registry) : Mapper B := { m with registry }

theorem ensureInit_withRegistry : (m.withRegistry r).ensureInit = (m.ensureInit.1, m.ensureInit.2.withRegistry r) := by
  unfold ensureInit withRegistry
  dsimp only
  split
  · rfl
  · split
    · rfl
    · split <;> rfl

theorem traced_withRegistry (sql : String) (args : List Value) :
    (m.withRegistry r).traced sql args = (m.traced sql args).withRegistry r := by
  unfold traced withRegistry
  dsimp only
  split <;> rfl

theorem send_withRegistry (sql : String) (args : List Value)
    (call : Option B.Handle → String → List Value → B.State → Except Error α × B.State) :
    (m.withRegistry r).send via sql args call =
      ((m.send via sql args call).1, (m.send via sql args call).2.withRegistry r) := by
  cases via with
  | mapper =>
    unfold send
    simp only [ensureInit_withRegistry]
    rcases m.ensureInit with ⟨e | _, started⟩
    · rfl
    · simp only [traced_withRegistry]
      rfl
  | transaction t =>
    obtain ⟨_ | handle⟩ := t
    · rfl
    · unfold send
      simp only [traced_withRegistry]
      rfl

theorem run_exec {sql : String} {args : List Value} {next : Except Error ExecResult → Script α} :
    m.run via (.exec sql args next) =
      (m.send via sql args B.execute).2.run via (next (m.send via sql args B.execute).1) :=
  rfl

theorem run_query_ok {sql : String} {args : List Value} {next : Except Error (List Row) → Script α}
    {rows : Except Error (List Row)} (checked : checkRows (m.send via sql args B.query).1 = .ok rows) :
    m.run via (.query sql args next) = (m.send via sql args B.query).2.run via (next rows) := by
  simp only [run, query, checked]

theorem run_query_error {sql : String} {args : List Value} {next : Except Error (List Row) → Script α} {reason : Fault}
    (checked : checkRows (m.send via sql args B.query).1 = .error reason) :
    m.run via (.query sql args next) = (.error reason, (m.send via sql args B.query).2) := by
  simp only [run, query, checked]

theorem run_planned_withRegistry (ctx : Context) (s : Script α) :
    (m.withRegistry r).run via (s.planned ctx) =
      ((m.run via (s.planned ctx)).1, (m.run via (s.planned ctx)).2.withRegistry r) := by
  induction s generalizing m with
  | done result | fault reason => rfl
  | plan typeName kind next ih =>
    unfold Script.planned
    split
    · exact ih _
    · rfl
  | exec sql args next ih =>
    rw [Script.planned, run_exec, run_exec, send_withRegistry]
    exact ih _
  | query sql args next ih =>
    have sameAnswer : ((m.withRegistry r).send via sql args B.query).1 = (m.send via sql args B.query).1 := by
      rw [send_withRegistry]
    rw [Script.planned]
    rcases checked : checkRows (m.send via sql args B.query).1 with reason | rows
    · rw [run_query_error checked, run_query_error (sameAnswer ▸ checked), send_withRegistry]
    · rw [run_query_ok checked, run_query_ok (sameAnswer ▸ checked), send_withRegistry]
      exact ih rows

/-- A mapper does with a script what it would do if each plan were built anew, apart from the plans that it keeps. -/
structure RunsAsPlanned (via : Executor B) (m : Mapper B) (s : Script α) : Prop where
  run : m.run via (s.planned m.context) = ((m.run via s).1, (m.run via s).2.withRegistry m.registry)
  context : (m.run via s).2.context = m.context
  coherent : (m.run via s).2.registry.Coherent m.dialect

theorem RunsAsPlanned.of_step (rest : RunsAsPlanned via n later) (sameContext : n.context = m.context)
    (run : m.run via s = n.run via later)
    (planned : m.run via (s.planned m.context) = (n.withRegistry m.registry).run via (later.planned m.context)) :
    RunsAsPlanned via m s where
  run := by
    rw [planned, run_planned_withRegistry, ← sameContext, rest.run, run]
    rfl
  context := by rw [run, rest.context, sameContext]
  coherent := by
    have sameDialect : n.dialect = m.dialect := congrArg Context.dialect sameContext
    rw [run, ← sameDialect]
    exact rest.coherent

theorem send_coherent (coherent : m.registry.Coherent m.dialect) (via : Executor B) (sql : String) (args : List Value)
    (call : Option B.Handle → String → List Value → B.State → Except Error α × B.State) :
    (m.send via sql args call).2.registry.Coherent (m.send via sql args call).2.dialect ∧
      (m.send via sql args call).2.withRegistry m.registry = (m.send via sql args call).2 := by
  obtain ⟨sameContext, sameRegistry⟩ := m.send_context via sql args call
  have sameDialect : (m.send via sql args call).2.dialect = m.dialect := congrArg Context.dialect sameContext
  rw [sameDialect, ← sameRegistry]
  exact ⟨sameRegistry ▸ coherent, rfl⟩

theorem runsAsPlanned (coherent : m.registry.Coherent m.dialect) (s : Script α) : RunsAsPlanned via m s := by
  induction s generalizing m with
  | done result | fault reason => exact ⟨rfl, rfl, coherent⟩
  | plan typeName kind next ih =>
    cases found : m.registry.find? typeName with
    | none =>
      have refused : m.context.planFor typeName kind = .error (.unregistered typeName) := by
        rw [Context.planFor, m.context_table?, found]
        rfl
      have missing : m.registry.plan m.dialect typeName kind = .error (.unregistered typeName) := by
        unfold Registry.plan Registry.find
        rw [found]
        rfl
      have ended : m.run via (.plan typeName kind next) = (.error (.unregistered typeName), m) := by
        simp only [run, missing]
      refine ⟨?_, by rw [ended], by rw [ended]; exact coherent⟩
      simp only [Script.planned, refused, ended]
      rfl
    | some entry =>
      obtain ⟨registry, handed, sameTables, stillCoherent⟩ := coherent.plan_ok kind found
      have built : m.context.planFor typeName kind = .ok (.build entry.table m.dialect kind) := by
        rw [Context.planFor, m.context_table?, found]
        rfl
      have sameContext : (m.withRegistry registry).context = m.context := by
        unfold context withRegistry
        rw [sameTables]
      -- What is handed out is what the context builds, and the tables stay, so the context does too.
      have rest := ih (.build entry.table m.dialect kind) (m := m.withRegistry registry) stillCoherent
      refine rest.of_step sameContext ?_ ?_
      · simp only [run, handed]
        rfl
      · simp only [Script.planned, built]
        rfl
  | exec sql args next ih =>
    obtain ⟨sentCoherent, sameRegistry⟩ := send_coherent coherent via sql args B.execute
    refine (ih _ sentCoherent).of_step (m.send_context via sql args B.execute).1 run_exec ?_
    rw [sameRegistry]
    exact run_exec
  | query sql args next ih =>
    obtain ⟨sentCoherent, sameRegistry⟩ := send_coherent coherent via sql args B.query
    have sameContext := (m.send_context via sql args B.query).1
    rcases checked : checkRows (m.send via sql args B.query).1 with reason | rows
    · have ended : m.run via (.query sql args next) = _ := run_query_error checked
      refine ⟨?_, by rw [ended]; exact sameContext, ?_⟩
      · rw [Script.planned, run_query_error checked, ended, sameRegistry]
      · have sameDialect : (m.send via sql args B.query).2.dialect = m.dialect := congrArg Context.dialect sameContext
        rw [ended]
        exact sameDialect ▸ sentCoherent
    · refine (ih rows sentCoherent).of_step sameContext (run_query_ok checked) ?_
      rw [sameRegistry]
      exact run_query_ok checked

end Mapper

end RowMapper
