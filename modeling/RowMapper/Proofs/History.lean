import RowMapper.Proofs.Script.Planned

/-!
# Histories of mappers

Whatever was done with a mapper since it was new, in any order, the plans that it keeps are those of its tables as they
are now.
-/

namespace RowMapper

namespace Mapper

variable {B : Backend}

/-- The mappers that come of a new one: tables are registered and configured, scripts and transactions run, and the
converter, the trace and the connection change. -/
inductive Reached : Mapper B → Prop where
  | fresh (d : Dialect) (connection : B.State) : Reached { dialect := d, connection }
  | registered {m : Mapper B} (R : RecordType) (schema name : Option String) (reached : Reached m) :
    Reached (m.register R schema name)
  | configured {m after : Mapper B} {typeName : String} {steps : List TableStep} {answers : List TableAnswer}
      (reached : Reached m) (done : m.configure typeName steps = .ok (answers, after)) : Reached after
  | indexDropped {m : Mapper B} (typeName name : String) (reached : Reached m) : Reached (m.dropIndex typeName name).2
  | ran {m : Mapper B} {α : Type} (via : Executor B) (s : Script α) (reached : Reached m) : Reached (m.run via s).2
  | started {m : Mapper B} (reached : Reached m) : Reached m.start.2
  | committed {m : Mapper B} (t : Transaction B) (reached : Reached m) : Reached (m.commit t).2.2
  | rolledBack {m : Mapper B} (t : Transaction B) (reached : Reached m) : Reached (m.rollback t).2.2
  | left {m : Mapper B} (t : Transaction B) (reached : Reached m) : Reached (m.leave t)
  | changed {m : Mapper B} (converter : Converter) (tracing : Option String) (trace : List String)
      (connection : B.State) (reached : Reached m) : Reached { m with converter, tracing, trace, connection }

variable {α : Type} {m after : Mapper B}

/-- A mapper after the configuration of a table, which leaves it as it was if a step is refused. -/
def reconfigured (m : Mapper B) (typeName : String) (steps : List TableStep) : Mapper B :=
  match m.configure typeName steps with
  | .ok (_, after) => after
  | .error _ => m

theorem Reached.reconfigured (reached : Reached m) (typeName : String) (steps : List TableStep) :
    Reached (m.reconfigured typeName steps) := by
  unfold Mapper.reconfigured
  cases done : m.configure typeName steps with
  | ok result => exact reached.configured done
  | error reason => exact reached

/-- Steps that leave the dialect and the registry alone leave plans current. -/
theorem coherent_of_same (coherent : m.registry.Coherent m.dialect) (sameRegistry : after.registry = m.registry)
    (sameDialect : after.dialect = m.dialect) : after.registry.Coherent after.dialect := by
  rw [sameRegistry, sameDialect]
  exact coherent

theorem run_coherent (coherent : m.registry.Coherent m.dialect) (via : Executor B) (s : Script α) :
    (m.run via s).2.registry.Coherent (m.run via s).2.dialect := by
  have planned : RunsAsPlanned via m s := runsAsPlanned coherent s
  rw [show (m.run via s).2.dialect = m.dialect from congrArg Context.dialect planned.context]
  exact planned.coherent

theorem start_same (m : Mapper B) : m.start.2.registry = m.registry ∧ m.start.2.dialect = m.dialect := by
  obtain ⟨context, registry⟩ := m.ensureInit_context
  unfold start
  rcases ready : m.ensureInit with ⟨e | _, started⟩
  all_goals
    rw [ready] at context registry
    exact ⟨registry, congrArg Context.dialect context⟩

theorem conclude_same (m : Mapper B) (t : Transaction B) (sql : String)
    (call : B.Handle → B.State → Except Error Unit × B.State) :
    (m.conclude t sql call).2.2.registry = m.registry ∧ (m.conclude t sql call).2.2.dialect = m.dialect := by
  obtain ⟨context, registry, _⟩ := m.traced_eq sql []
  obtain ⟨_ | handle⟩ := t
  · exact ⟨rfl, rfl⟩
  · exact ⟨registry, congrArg Context.dialect context⟩

theorem leave_same (m : Mapper B) (t : Transaction B) :
    (m.leave t).registry = m.registry ∧ (m.leave t).dialect = m.dialect := by
  obtain ⟨_ | handle⟩ := t <;> exact ⟨rfl, rfl⟩

theorem dropIndex_coherent {typeName name : String} (coherent : m.registry.Coherent m.dialect) :
    (m.dropIndex typeName name).2.registry.Coherent (m.dropIndex typeName name).2.dialect := by
  have ran := run_coherent coherent .mapper (m.context.dropIndex typeName name)
  unfold dropIndex
  split
  · rename_i dropped sent
    rw [sent] at ran
    split
    · rename_i registry removed
      exact ran.removeIndex removed
    · exact ran
  · exact ran

theorem Reached.coherent (reached : Reached m) : m.registry.Coherent m.dialect := by
  induction reached with
  | fresh => exact Registry.coherent_empty
  | registered R schema name _ coherent => exact coherent.register _ _ _ _
  | configured _ done coherent =>
    obtain ⟨_, made, same⟩ := except_map_ok done
    cases same
    exact coherent.configure made
  | indexDropped typeName name _ coherent => exact dropIndex_coherent coherent
  | ran via s _ coherent => exact run_coherent coherent via s
  | started _ coherent => exact coherent_of_same coherent (start_same _).1 (start_same _).2
  | committed t _ coherent | rolledBack t _ coherent =>
    exact coherent_of_same coherent (conclude_same _ t _ _).1 (conclude_same _ t _ _).2
  | left t _ coherent => exact coherent_of_same coherent (leave_same _ t).1 (leave_same _ t).2
  | changed _ _ _ _ _ coherent => exact coherent

end Mapper

end RowMapper
