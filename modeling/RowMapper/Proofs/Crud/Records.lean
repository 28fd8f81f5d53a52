import RowMapper.Crud.Write
import RowMapper.Proofs.Script.Runs

/-!
# Writes of several records

A write of several records is a write of each in order, up to the first that fails.
-/

namespace RowMapper

namespace Record

variable {α : Type} {ctx : Context} {step : (R : RecordType) → α → Step R.Values α} {x : α} {r : Record}
  {rest : List Record} {log : List Exchange} {outcome : Except Fault (Except Error α × List Record)}

theorem runAll_cons :
    runAll step x (r :: rest) = Script.bind (step r.type x r.values) fun
      | (.error e, v) => .done (.error e, { r with values := v } :: rest)
      | (.ok y, v) => Script.bind (runAll step y rest) fun done => .done (done.1, { r with values := v } :: done.2) := by
  show Script.bind (Script.bind (step r.type x r.values) _) _ = _
  rw [Script.bind_assoc]
  congr 1
  funext ⟨answer, v⟩
  cases answer <;> rfl

theorem runAll_append {xs ys : List Record} :
    runAll step x (xs ++ ys) = Script.bind (runAll step x xs) fun
      | (.error e, xs) => .done (.error e, xs ++ ys)
      | (.ok y, xs) => Script.bind (runAll step y ys) fun done => .done (done.1, xs ++ done.2) := by
  induction xs generalizing x with
  | nil => exact (Script.bind_done _).symm
  | cons r xs ih =>
    rw [List.cons_append, runAll_cons, runAll_cons, Script.bind_assoc]
    congr 1
    funext ⟨answer, v⟩
    cases answer with
    | error e => rfl
    | ok y =>
      show Script.bind (runAll step y (xs ++ ys)) _ = Script.bind (Script.bind (runAll step y xs) _) _
      rw [ih, Script.bind_assoc, Script.bind_assoc]
      congr 1
      funext ⟨answer, done⟩
      cases answer with
      | error e => rfl
      | ok z =>
        show Script.bind (Script.bind (runAll step z ys) _) _ = Script.bind (runAll step z ys) _
        rw [Script.bind_assoc]
        rfl

theorem runs_runAll_cons :
    Script.Runs ctx (runAll step x (r :: rest)) log outcome ↔
      ∃ early late first, Script.Runs ctx (step r.type x r.values) early first ∧ log = early ++ late ∧
        match first with
        | .error reason => late = [] ∧ outcome = .error reason
        | .ok (.error e, v) => late = [] ∧ outcome = .ok (.error e, { r with values := v } :: rest)
        | .ok (.ok y, v) => ∃ others, Script.Runs ctx (runAll step y rest) late others ∧
            outcome = others.map fun done => (done.1, { r with values := v } :: done.2) := by
  rw [runAll_cons, Script.runs_bind]
  constructor
  · rintro (⟨reason, faulted, rfl⟩ | ⟨⟨e | y, v⟩, early, late, first, second, rfl⟩)
    · exact ⟨log, [], _, faulted, (List.append_nil log).symm, rfl, rfl⟩
    · exact ⟨early, late, _, first, rfl, second⟩
    · refine ⟨early, late, _, first, rfl, ?_⟩
      rcases Script.runs_bind.mp second with ⟨reason, faulted, rfl⟩ | ⟨done, mid, last, others, ⟨rfl, rfl⟩, rfl⟩
      · exact ⟨_, faulted, rfl⟩
      · rw [List.append_nil]
        exact ⟨_, others, rfl⟩
  · rintro ⟨early, late, reason | ⟨e | y, v⟩, first, rfl, ended⟩
    · obtain ⟨rfl, rfl⟩ := ended
      exact .inl ⟨reason, by rwa [List.append_nil], rfl⟩
    · exact .inr ⟨_, early, late, first, ended, rfl⟩
    · obtain ⟨reason | done, others, rfl⟩ := ended
      · exact .inr ⟨_, early, late, first, Script.runs_bind.mpr (.inl ⟨reason, others, rfl⟩), rfl⟩
      · refine .inr ⟨_, early, late, first, Script.runs_bind.mpr (.inr ⟨done, late, [], others, ⟨rfl, rfl⟩, ?_⟩), rfl⟩
        exact (List.append_nil late).symm

theorem runs_runAll_single :
    Script.Runs ctx (runAll step x [r]) log outcome ↔
      ∃ ended, Script.Runs ctx (step r.type x r.values) log ended ∧
        outcome = ended.map fun done => (done.1, [{ r with values := done.2 }]) := by
  rw [runs_runAll_cons]
  constructor
  · rintro ⟨early, late, reason | ⟨e | y, v⟩, first, rfl, ended⟩
    · obtain ⟨rfl, rfl⟩ := ended
      exact ⟨_, by rwa [List.append_nil], rfl⟩
    · obtain ⟨rfl, rfl⟩ := ended
      exact ⟨_, by rwa [List.append_nil], rfl⟩
    · obtain ⟨_, ⟨rfl, rfl⟩, rfl⟩ := ended
      exact ⟨_, by rwa [List.append_nil], rfl⟩
  · rintro ⟨reason | ⟨e | y, v⟩, first, rfl⟩
    · exact ⟨log, [], _, first, (List.append_nil log).symm, rfl, rfl⟩
    · exact ⟨log, [], _, first, (List.append_nil log).symm, rfl, rfl⟩
    · exact ⟨log, [], _, first, (List.append_nil log).symm, _, ⟨rfl, rfl⟩, rfl⟩

end Record

end RowMapper
