import RowMapper.Proofs.Crud.Insert
import RowMapper.Proofs.Crud.Update

/-!
# Refused statements

A prepared write sends its statement first. If that is refused, nothing follows, and the record stays as binding left
it.
-/

namespace RowMapper

abbrev Write.Result : Write → Type
  | insert => Unit
  | update _ | delete => Nat

def RecordType.perform (R : RecordType) (ctx : Context) : (w : Write) → w.Result → Step R.Values w.Result
  | .insert, _ => R.insert ctx
  | .update accepts, count => R.update ctx accepts count
  | .delete, count => R.delete ctx count

namespace RecordType

variable {R : RecordType} {ctx : Context} {w : Write} {t : Table} {bound : Bound} {before mid after : R.Values}
  {early late : List Exchange}

def EndsIfRefused {α : Type} (first : Exchange) (rest : List Exchange) (v : R.Values)
    (outcome : Except Fault (Except Error α × R.Values)) : Prop :=
  ∀ e, first.refusal? = some e → rest = [] ∧ outcome = .ok (.error e, v)

theorem EndsIfRefused.of_answered {α : Type} {first : Exchange} {rest : List Exchange} {v : R.Values}
    {outcome : Except Fault (Except Error α × R.Values)} (answered : first.refusal? = none) :
    EndsIfRefused first rest v outcome := by
  intro e refused
  rw [answered] at refused
  cases refused

theorem EndsIfRefused.of_refused {α : Type} {first : Exchange} {v : R.Values} {e : Error}
    (refused : first.refusal? = some e) : EndsIfRefused (α := α) first [] v (.ok (.error e, v)) := by
  intro e' refused'
  cases refused.symm.trans refused'
  exact ⟨rfl, rfl⟩

theorem UpdateRun.first {accepts : Option (Column → Bool)} {count : Nat} {log : List Exchange}
    {outcome : Except Fault (Except Error Nat × R.Values)} (some : bound.sql ≠ "")
    (run : R.UpdateRun ctx t accepts bound count after log outcome) :
    ∃ first rest, log = first :: rest ∧ bound.IsSentBy first ∧ EndsIfRefused first rest after outcome := by
  cases run with
  | refused e => exact ⟨_, _, rfl, ⟨rfl, rfl⟩, .of_refused rfl⟩
  | conflict _ sent | noNextVersion sent | unstored sent | tooMany sent | stored sent =>
    obtain ⟨x, rfl, same, answered, _⟩ := sent.exchange some
    exact ⟨x, _, rfl, same, .of_answered answered⟩

/-- The first statement of a prepared write is the bound one, unless that is empty. -/
theorem Prepared.sends (p : R.Prepared ctx w before t early mid bound after) (some : bound.sql ≠ "") {x : w.Result}
    {outcome : Except Fault (Except Error w.Result × R.Values)}
    (run : Script.Runs ctx (R.perform ctx w x before) (early ++ late) outcome) :
    ∃ first rest, late = first :: rest ∧ bound.IsSentBy first ∧ EndsIfRefused first rest after outcome := by
  cases w with
  | insert =>
    rcases Step.runs_bind.mp (p.rest_run run) with
      ⟨reason, sending, rfl⟩ | ⟨e, mid, sending, rfl⟩ | ⟨_, mid, sent, rest, sending, _, rfl⟩
    all_goals obtain ⟨first, rfl, same, ⟨e, refused, ended⟩ | ⟨answered, _⟩⟩ := sendInsert_run sending
    all_goals first
      | exact ⟨first, _, rfl, same, .of_answered answered⟩
      | cases ended
    exact ⟨first, _, rfl, same, .of_refused refused⟩
  | update accepts => exact (p.update_run run).first some
  | delete =>
    obtain ⟨answer, rest, rfl, goesOn⟩ := Step.runs_exec.mp (p.rest_run run)
    cases answer with
    | ok result => exact ⟨_, rest, rfl, ⟨rfl, rfl⟩, .of_answered rfl⟩
    | error e =>
      obtain ⟨rfl, rfl⟩ := goesOn
      exact ⟨_, [], rfl, ⟨rfl, rfl⟩, .of_refused rfl⟩

/-- A write that goes on after its hook was prepared, and its first statement is the bound one. -/
theorem prepared_of_sent (registered : ctx.table? R.typeName = some t) (some : (w.plan t ctx.dialect).sql ≠ "")
    (hook : Script.Runs ctx (R.hooks w.preHook ctx before) early (.ok (.ok (), mid))) {x : w.Result} {first : Exchange}
    {outcome : Except Fault (Except Error w.Result × R.Values)}
    (run : Script.Runs ctx (R.perform ctx w x before) (early ++ first :: late) outcome) :
    ∃ bound after, R.Prepared ctx w before t early mid bound after ∧ bound.IsSentBy first := by
  have prepared : ∃ bound after, R.Prepared ctx w before t early mid bound after := by
    cases w with
    | insert | update accepts | delete => exact prepared_of_goes_on registered hook run
  obtain ⟨bound, after, p⟩ := prepared
  obtain ⟨_, _, same, sent, _⟩ := p.sends (p.binds.sql ▸ some) run
  cases same
  exact ⟨bound, after, p, sent⟩

theorem Prepared.again (p : R.Prepared ctx w before t early mid bound mid)
    (quiet : Script.Runs ctx (R.hooks w.preHook ctx mid) [] (.ok (.ok (), mid))) :
    R.Prepared ctx w mid t [] mid bound mid := by
  obtain ⟨registered, keyed, _⟩ := announce_run p.announced
  refine ⟨?_, p.composed⟩
  rw [announce_eq_hook registered keyed, ← List.append_nil ([] : List Exchange), Step.runs_bind_of_ok quiet]
  exact ⟨rfl, rfl⟩

/-- If the statement of a write is refused, the write returns the error. The record is as the hook left it, except that
a record without a version keeps the first one if the statement was to store it. An unchanged record can be tried again
with the same statement. -/
theorem refused_write (p : R.Prepared ctx w before t early mid bound after) (some : bound.sql ≠ "") {x : w.Result}
    {first : Exchange} {late : List Exchange} {e : Error} {outcome : Except Fault (Except Error w.Result × R.Values)}
    (run : Script.Runs ctx (R.perform ctx w x before) (early ++ first :: late) outcome)
    (refused : first.refusal? = .some e) :
    bound.IsSentBy first ∧ late = [] ∧ outcome = .ok (.error e, after) ∧
      (if bound.version = 0 ∧ .nextVersion ∈ (w.plan t ctx.dialect).sources then FirstVersioned t mid after
      else after = mid) ∧
      (after = mid → Script.Runs ctx (R.hooks w.preHook ctx after) [] (.ok (.ok (), after)) →
        ∀ {y : w.Result} {log again}, Script.Runs ctx (R.perform ctx w y after) log again →
          ∃ second rest, log = second :: rest ∧ second.sql = first.sql ∧ second.args = first.args) := by
  -- All that can have changed the record since the hook is binding, which is before the statement.
  obtain ⟨_, _, same, sent, ends⟩ := p.sends some run
  cases same
  obtain ⟨rfl, rfl⟩ := ends e refused
  refine ⟨sent, rfl, rfl, ?_, ?_⟩
  · have touched := p.binds.touched
    unfold Touched at touched
    split at touched
    · rename_i asked
      obtain ⟨c, versioned⟩ := Table.versionColumn?_of_nextVersion asked.2
      rw [if_pos asked]
      exact firstVersioned versioned touched
    · rename_i unasked
      rw [if_neg unasked]
      exact touched
  · rintro rfl quiet y log again run
    obtain ⟨second, rest, rfl, resent, _⟩ := (p.again quiet).sends some run
    exact ⟨second, rest, rfl, resent.1.trans sent.1.symm, resent.2.trans sent.2.symm⟩

end RecordType

/-- An update of an event with version 1 that is refused leaves it, and is sent again as it was. -/
theorem event_refused_write :
    (eventUpdate 1).IsSentBy (.exec (eventUpdate 1).sql (eventUpdate 1).args (.error .transactionFinished)) ∧
      ∀ {y log again}, Script.Runs eventContext (eventType.update eventContext none y (event 0 1)) log again →
        ∃ second rest, log = second :: rest ∧ second.sql = (eventUpdate 1).sql ∧ second.args = (eventUpdate 1).args := by
  have bound : eventType.Prepared eventContext (.update none) (event 0 1) events [] (event 0 1) (eventUpdate 1)
      (event 0 1) := ⟨⟨rfl, rfl⟩, ⟨rfl, rfl⟩⟩
  have some : (eventUpdate 1).sql ≠ "" := Plan.update_sql_ne_empty (by decide)
  have run : Script.Runs eventContext (eventType.perform eventContext (.update none) (0 : Nat) (event 0 1))
      ([] ++ [.exec (eventUpdate 1).sql (eventUpdate 1).args (.error .transactionFinished)])
      (.ok (.error .transactionFinished, event 0 1)) := ⟨.error .transactionFinished, [], rfl, rfl, rfl⟩
  obtain ⟨sent, _, _, _, again⟩ := RecordType.refused_write bound some run rfl
  exact ⟨sent, fun rerun => again rfl ⟨rfl, rfl⟩ rerun⟩

/-- A refused insertion of an event without a version leaves it with version 1, and the next one sends version 2. -/
theorem refused_insert_stores_first_version :
    Script.Runs eventContext (eventType.insert eventContext (event 0 0))
      [.exec (eventInsertion 0).sql (eventInsertion 0).args (.error .transactionFinished)]
      (.ok (.error .transactionFinished, event 0 1)) ∧
    eventType.localVersion events (event 0 0) = .ok 0 ∧ eventType.localVersion events (event 0 1) = .ok 1 ∧
    Script.Runs eventContext (eventType.insert eventContext (event 0 1))
      [.exec (eventInsertion 1).sql (eventInsertion 1).args (.ok {})] (.ok (.ok (), event 0 1)) ∧
    (eventInsertion 1).args ≠ (eventInsertion 0).args :=
  ⟨⟨.error .transactionFinished, [], rfl, rfl, rfl⟩, rfl, rfl, ⟨.ok {}, [], rfl, rfl, rfl⟩, by decide⟩

end RowMapper
