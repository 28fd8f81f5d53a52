import RowMapper.Proofs.Registry
import RowMapper.Proofs.Script.Runs

/-!
# Mappers run scripts

Whatever a mapper does with a script, on any backend and in or outside a transaction, is one of the runs of the script.
-/

namespace RowMapper

namespace Mapper

variable {B : Backend} {α : Type}

theorem context_table? (m : Mapper B) (typeName : String) :
    m.context.table? typeName = (m.registry.find? typeName).map (·.table) := Registry.find?_tables

theorem ensureInit_context (m : Mapper B) :
    m.ensureInit.2.context = m.context ∧ m.ensureInit.2.registry = m.registry := by
  unfold ensureInit
  split
  · exact ⟨rfl, rfl⟩
  · split
    · exact ⟨rfl, rfl⟩
    · split <;> exact ⟨rfl, rfl⟩

theorem traced_eq (m : Mapper B) (sql : String) (args : List Value) :
    (m.traced sql args).context = m.context ∧ (m.traced sql args).registry = m.registry ∧
      (m.traced sql args).connection = m.connection ∧ (m.traced sql args).initialized = m.initialized := by
  unfold traced
  split <;> exact ⟨rfl, rfl, rfl, rfl⟩

theorem send_context (m : Mapper B) (via : Executor B) (sql : String) (args : List Value)
    (call : Option B.Handle → String → List Value → B.State → Except Error α × B.State) :
    (m.send via sql args call).2.context = m.context ∧ (m.send via sql args call).2.registry = m.registry := by
  cases via with
  | mapper =>
    have kept := m.ensureInit_context
    unfold send
    rcases started : m.ensureInit with ⟨e | _, after⟩
    · rw [started] at kept
      simpa only using kept
    · rw [started] at kept
      have traced := after.traced_eq sql args
      exact ⟨traced.1.trans kept.1, traced.2.1.trans kept.2⟩
  | transaction t =>
    obtain ⟨_ | handle⟩ := t
    · exact ⟨rfl, rfl⟩
    · exact ⟨(m.traced_eq sql args).1, (m.traced_eq sql args).2.1⟩

/-- Whether statements reach the backend: on a connection that is set up, or in an open transaction. -/
def Reaches (m : Mapper B) (handle? : Option B.Handle) : Executor B → Prop
  | .mapper => m.initialized = true ∧ handle? = none
  | .transaction t => ∃ handle, t.handle? = some handle ∧ handle? = some handle

theorem send_reaches {m : Mapper B} {via : Executor B} {handle? : Option B.Handle} (reaches : m.Reaches handle? via)
    (sql : String) (args : List Value)
    (call : Option B.Handle → String → List Value → B.State → Except Error α × B.State) :
    call handle? sql args m.connection = ((m.send via sql args call).1, (m.send via sql args call).2.connection) ∧
      (m.send via sql args call).2.Reaches handle? via := by
  have traced := m.traced_eq sql args
  cases via with
  | mapper =>
    obtain ⟨ready, rfl⟩ := reaches
    have started : m.ensureInit = (.ok (), m) := by
      unfold ensureInit
      rw [if_pos ready]
    unfold send
    simp only [started, traced.2.2.1]
    exact ⟨trivial, traced.2.2.2.trans ready, rfl⟩
  | transaction t =>
    obtain ⟨handle, here, rfl⟩ := reaches
    unfold send
    simp only [here, traced.2.2.1]
    exact ⟨trivial, handle, here, rfl⟩

theorem ensureInit_ok {m after : Mapper B} (started : m.ensureInit = (.ok (), after)) : after.initialized = true := by
  unfold ensureInit at started
  split at started
  · cases started
    assumption
  · split at started
    · cases started
      rfl
    · split at started
      · cases started
        rfl
      · cases started

/-- A statement that succeeds has reached the backend, and so do those after it. -/
theorem send_answered {m after : Mapper B} {via : Executor B} {sql : String} {args : List Value} {a : α}
    {call : Option B.Handle → String → List Value → B.State → Except Error α × B.State}
    (sent : m.send via sql args call = (.ok a, after)) :
    ∃ handle? start, call handle? sql args start = (.ok a, after.connection) ∧ after.Reaches handle? via := by
  cases via with
  | mapper =>
    unfold send at sent
    rcases started : m.ensureInit with ⟨e | _, ready⟩
    · simp only [started] at sent
      cases sent
    · simp only [started] at sent
      obtain ⟨answer, rfl⟩ := Prod.mk.inj sent
      have traced := (ready.traced_eq sql args).2.2.2.trans (ensureInit_ok started)
      exact ⟨none, (ready.traced sql args).connection, Prod.ext answer rfl, traced, rfl⟩
  | transaction t =>
    unfold send at sent
    cases opened : t.handle? with
    | none =>
      simp only [opened] at sent
      cases sent
    | some handle =>
      simp only [opened] at sent
      obtain ⟨answer, rfl⟩ := Prod.mk.inj sent
      exact ⟨some handle, (m.traced sql args).connection, Prod.ext answer rfl, handle, opened, rfl⟩

/-- How the statements of a log got to the backend. -/
structure Served (via : Executor B) (m : Mapper B) (log : List Exchange) (after : Mapper B) : Prop where
  reached : ∀ handle?, m.Reaches handle? via →
    B.Serves handle? m.connection log after.connection ∧ after.Reaches handle? via
  /-- If the first one succeeded, the backend was reached from then on. -/
  answered : ∀ x rest, log = x :: rest → x.refusal? = none →
    ∃ handle? start, B.Serves handle? start log after.connection ∧ after.Reaches handle? via

theorem Served.empty {via : Executor B} {m : Mapper B} : Served via m [] m where
  reached _ reaches := ⟨rfl, reaches⟩
  answered := nofun

theorem Served.cons {via : Executor B} {m mid after : Mapper B} {x : Exchange} {log : List Exchange}
    (first : ∀ handle?, m.Reaches handle? via →
      B.Answers handle? m.connection x mid.connection ∧ mid.Reaches handle? via)
    (answered : x.refusal? = none →
      ∃ handle? start, B.Answers handle? start x mid.connection ∧ mid.Reaches handle? via)
    (rest : Served via mid log after) : Served via m (x :: log) after where
  reached handle? reaches := by
    obtain ⟨served, reaches⟩ := first handle? reaches
    obtain ⟨later, reaches⟩ := rest.reached handle? reaches
    exact ⟨⟨mid.connection, served, later⟩, reaches⟩
  answered := by
    rintro _ _ ⟨⟩ succeeded
    obtain ⟨handle?, start, served, reaches⟩ := answered succeeded
    obtain ⟨later, reaches⟩ := rest.reached handle? reaches
    exact ⟨handle?, start, ⟨mid.connection, served, later⟩, reaches⟩

theorem send_query_answered {m after : Mapper B} {via : Executor B} {sql : String} {args : List Value}
    {answer : Except Error (List Row)} (sent : m.send via sql args B.query = (answer, after))
    (succeeded : (Exchange.query sql args answer).refusal? = none) :
    ∃ handle? start, B.Answers handle? start (.query sql args answer) after.connection ∧ after.Reaches handle? via := by
  cases answer with
  | error e => cases succeeded
  | ok rows => exact send_answered sent

/-- What a mapper does with a script is a run of the script, whatever the backend answers. -/
theorem run_runs {via : Executor B} {script : Script α} {m after : Mapper B} {outcome : Except Fault α}
    (coherent : m.registry.Coherent m.dialect) (ran : run via script m = (outcome, after)) :
    ∃ log, script.Runs m.context log outcome ∧ Served via m log after := by
  induction script generalizing m with
  | done result =>
    cases ran
    exact ⟨[], ⟨rfl, rfl⟩, .empty⟩
  | fault reason =>
    cases ran
    exact ⟨[], ⟨rfl, rfl⟩, .empty⟩
  | plan typeName kind next ih =>
    unfold run at ran
    simp only [Script.Runs, Context.planFor, m.context_table?]
    cases found : m.registry.find? typeName with
    | none =>
      have missing : m.registry.plan m.dialect typeName kind = .error (.unregistered typeName) := by
        unfold Registry.plan Registry.find
        rw [found]
        rfl
      rw [missing] at ran
      cases ran
      exact ⟨[], ⟨rfl, rfl⟩, .empty⟩
    | some entry =>
      obtain ⟨registry, handed, sameTables, stillCoherent⟩ := coherent.plan_ok kind found
      rw [handed] at ran
      obtain ⟨log, runs, served⟩ := ih _ stillCoherent ran
      have sameContext : ({ m with registry } : Mapper B).context = m.context := by
        unfold context
        rw [sameTables]
      rw [sameContext] at runs
      refine ⟨log, runs, fun handle? reaches => served.reached handle? ?_, served.answered⟩
      cases via <;> exact reaches
  | exec sql args next ih =>
    obtain ⟨sameContext, sameRegistry⟩ := m.send_context via sql args B.execute
    have reached {handle? : Option B.Handle} (reaches : m.Reaches handle? via) :=
      send_reaches reaches sql args B.execute
    rcases sent : m.send via sql args B.execute with ⟨answer, mid⟩
    rw [sent] at sameContext sameRegistry reached
    unfold run execute at ran
    rw [sent] at ran
    have stillCoherent : mid.registry.Coherent mid.dialect := by
      rw [show mid.dialect = m.dialect from congrArg Context.dialect sameContext, sameRegistry]
      exact coherent
    obtain ⟨log, runs, served⟩ := ih _ stillCoherent ran
    rw [sameContext] at runs
    refine ⟨.exec sql args answer :: log, ⟨answer, log, rfl, runs⟩, .cons (fun _ => reached) ?_ served⟩
    intro succeeded
    cases answer with
    | error e => cases succeeded
    | ok result => exact send_answered sent
  | query sql args next ih =>
    obtain ⟨sameContext, sameRegistry⟩ := m.send_context via sql args B.query
    have reached {handle? : Option B.Handle} (reaches : m.Reaches handle? via) :=
      send_reaches reaches sql args B.query
    rcases sent : m.send via sql args B.query with ⟨answer, mid⟩
    rw [sent] at sameContext sameRegistry reached
    unfold run query at ran
    rw [sent] at ran
    have stillCoherent : mid.registry.Coherent mid.dialect := by
      rw [show mid.dialect = m.dialect from congrArg Context.dialect sameContext, sameRegistry]
      exact coherent
    simp only [Script.Runs]
    rcases checked : checkRows answer with reason | rows
    · simp only [checked] at ran
      cases ran
      exact ⟨[.query sql args answer], ⟨answer, [], rfl, by simp only [checked, and_self]⟩,
        .cons (fun _ => reached) (send_query_answered sent) .empty⟩
    · simp only [checked] at ran
      obtain ⟨log, runs, served⟩ := ih rows stillCoherent ran
      rw [sameContext] at runs
      exact ⟨.query sql args answer :: log, ⟨answer, log, rfl, by simpa only [checked] using runs⟩,
        .cons (fun _ => reached) (send_query_answered sent) served⟩

end Mapper

end RowMapper
