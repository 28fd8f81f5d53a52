import RowMapper.Crud.Write
import RowMapper.Proofs.Script.Steps

/-!
# Conflicts

A write that found no row for a positive version looks the row up again and ends in an error.
-/

namespace RowMapper

/-- The error that a lookup turns a conflict into. -/
def Table.refusal (t : Table) (bound : Bound) (lookup : Except Error (List Row)) : Except Fault Error :=
  (Mapper.checkRows lookup).map fun
    | .error e => e
    | .ok rows => .optimisticLock
        { tableName := t.name, keys := bound.keys, rowExists := rows.head?.isSome, localVersion := bound.version }

namespace RecordType

variable {R : RecordType} {ctx : Context} {t : Table} {bound : Bound} {rows : Nat} {log : List Exchange}

theorem isConflict_iff : isConflict t bound rows = true ↔ rows = 0 ∧ t.version.isSome = true ∧ 0 < bound.version := by
  simp [isConflict, and_assoc]

theorem refuseConflict_of_not (settled : isConflict t bound rows = false) :
    R.refuseConflict t bound rows = Script.done (.ok ()) := by
  unfold refuseConflict
  rw [settled]
  rfl

/-- A conflict sends one lookup, for the row with the keys of the record. -/
theorem refuseConflict_runs (registered : ctx.table? R.typeName = some t) (found : isConflict t bound rows = true)
    {outcome : Except Fault (Except Error Unit)} :
    Script.Runs ctx (R.refuseConflict t bound rows) log outcome ↔
      ∃ lookup, log = [.query (Plan.get t ctx.dialect).sql bound.keys lookup] ∧
        outcome = (t.refusal bound lookup).map .error := by
  have planned : ctx.planFor R.typeName .get = .ok (.get t ctx.dialect) := by
    unfold Context.planFor
    rw [registered]
    rfl
  have refuses : R.refuseConflict t bound rows =
      (R.conflict t bound >>= fun c => throw (.optimisticLock c) : Attempt Unit) := by
    unfold refuseConflict
    rw [found]
    rfl
  rw [refuses]
  unfold conflict
  rw [bind_assoc, Attempt.bind_apply]
  simp only [Attempt.plan, Script.bind, Script.Runs, planned, bind_assoc]
  rw [Attempt.runs_queryRow]
  constructor
  · rintro ⟨answer, late, rfl, rest⟩
    refine ⟨answer, ?_⟩
    unfold Table.refusal
    rcases checked : Mapper.checkRows answer with reason | e | rows
    all_goals
      simp only [checked] at rest
      obtain ⟨rfl, rfl⟩ := rest
      exact ⟨rfl, rfl⟩
  · rintro ⟨answer, rfl, rfl⟩
    refine ⟨answer, [], rfl, ?_⟩
    unfold Table.refusal
    rcases Mapper.checkRows answer with reason | e | rows <;> exact ⟨rfl, rfl⟩

variable {α : Type} {goOn : Unit → Step R.Values α} {v : R.Values} {outcome : Except Fault (Except Error α × R.Values)}

/-- A write ends with the lookup of a conflict, which leaves its record. -/
theorem conflict_run (registered : ctx.table? R.typeName = some t) (found : isConflict t bound rows = true)
    (run : Script.Runs ctx ((liftM (R.refuseConflict t bound rows) >>= goOn : Step R.Values α) v) log outcome) :
    ∃ lookup, log = [.query (Plan.get t ctx.dialect).sql bound.keys lookup] ∧
      outcome = (t.refusal bound lookup).map fun e => (.error e, v) := by
  rcases Step.runs_bind.mp run with
    ⟨reason, refusing, rfl⟩ | ⟨e, mid, refusing, rfl⟩ | ⟨_, mid, sent, rest, refusing, _, rfl⟩
  all_goals
    obtain ⟨_, looking, ended⟩ := Step.runs_attempt.mp refusing
    obtain ⟨lookup, rfl, rfl⟩ := (refuseConflict_runs registered found).mp looking
    rcases refused : t.refusal bound lookup with reason | e
    all_goals
      rw [refused] at ended
      cases ended
  · exact ⟨lookup, rfl, by rw [refused]; rfl⟩
  · exact ⟨lookup, rfl, by rw [refused]; rfl⟩

theorem bind_refuseConflict_of_not (settled : isConflict t bound rows = false) :
    (liftM (R.refuseConflict t bound rows) >>= goOn : Step R.Values α) v = goOn () v := by
  apply Step.bind_of_done
  rw [Step.attempt_apply, refuseConflict_of_not settled]
  rfl

end RecordType

end RowMapper
