import RowMapper.Proofs.Crud.Conflict
import RowMapper.Proofs.Crud.Preparation

/-!
# Runs of updates

All that an update can do once it is prepared.
-/

namespace RowMapper

/-- An update that was answered, or that had nothing to send, and the rows that it changed. -/
inductive Bound.Sent (bound : Bound) : List Exchange → Nat → Prop where
  | empty (nothing : bound.sql = "") : Sent bound [] 0
  | answered (result : ExecResult) (some : bound.sql ≠ "") :
    Sent bound [.exec bound.sql bound.args (.ok result)] result.rowsAffected

theorem Bound.Sent.exchange {bound : Bound} {sent : List Exchange} {rows : Nat} (answered : bound.Sent sent rows)
    (some : bound.sql ≠ "") : ∃ x, sent = [x] ∧ bound.IsSentBy x ∧ x.refusal? = none ∧ x.touched = rows := by
  cases answered with
  | empty nothing => exact absurd nothing some
  | answered result => exact ⟨_, rfl, ⟨rfl, rfl⟩, rfl, rfl⟩

theorem Bound.Sent.untouched {bound : Bound} {sent : List Exchange} {rows : Nat} (answered : bound.Sent sent rows)
    (untouched : ∀ x ∈ sent, x.touched = 0) : rows = 0 := by
  cases answered with
  | empty => rfl
  | answered result => exact untouched _ List.mem_cons_self

namespace RecordType

variable (R : RecordType) (ctx : Context) (t : Table) (accepts : Option (Column → Bool)) (bound : Bound) (count : Nat)

/-- How a prepared update goes on from a record, by the statements that it sends. -/
inductive UpdateRun (before : R.Values) : List Exchange → Except Fault (Except Error Nat × R.Values) → Prop where
  | refused (e : Error) (some : bound.sql ≠ "") :
    UpdateRun before [.exec bound.sql bound.args (.error e)] (.ok (.error e, before))
  | conflict {sent rows} (lookup : Except Error (List Row)) (answered : bound.Sent sent rows)
      (found : isConflict t bound rows = true) :
    UpdateRun before (sent ++ [.query (Plan.get t ctx.dialect).sql bound.keys lookup])
      ((t.refusal bound lookup).map fun e => (.error e, before))
  | noNextVersion {sent rows} (answered : bound.Sent sent rows) (settled : isConflict t bound rows = false)
      (greatest : bound.version = Int64.maxValue) : UpdateRun before sent (.error .overflow)
  | unstored {sent rows e} (answered : bound.Sent sent rows) (settled : isConflict t bound rows = false)
      (hasNext : bound.version ≠ Int64.maxValue)
      (failed : R.storeVersion t (bound.version + 1) before = (.error e, before)) :
    UpdateRun before sent (.ok (.error e, before))
  | tooMany {sent rows stored} (answered : bound.Sent sent rows) (settled : isConflict t bound rows = false)
      (hasNext : bound.version ≠ Int64.maxValue)
      (wrote : R.storeVersion t (bound.version + 1) before = (.ok (), stored)) (many : UInt64.size ≤ count + rows) :
    UpdateRun before sent (.error .overflow)
  | stored {sent rows stored late outcome} (answered : bound.Sent sent rows)
      (settled : isConflict t bound rows = false) (hasNext : bound.version ≠ Int64.maxValue)
      (wrote : R.storeVersion t (bound.version + 1) before = (.ok (), stored)) (few : count + rows < UInt64.size)
      (hook : Script.Runs ctx
        ((R.hooks (Write.update accepts).postHook ctx >>= fun _ => (return count + rows : Step R.Values Nat)) stored)
        late outcome) :
    UpdateRun before (sent ++ late) outcome

variable {R ctx t accepts bound count} {before mid after : R.Values} {log early late : List Exchange}

theorem touched_of_sent {x : Exchange} {sent rest : List Exchange} {rows : Nat} (answered : bound.Sent sent rows)
    (some : bound.sql ≠ "") (split : x :: late = sent ++ rest) :
    x.touched = rows ∧ late = rest ∧ bound.IsSentBy x := by
  obtain ⟨y, rfl, same, _, touched⟩ := answered.exchange some
  cases split
  exact ⟨touched, rfl, same⟩

namespace UpdateRun

variable {x : Exchange} {stored : R.Values} {outcome : Except Fault (Except Error Nat × R.Values)}

theorem exec (some : bound.sql ≠ "") (run : R.UpdateRun ctx t accepts bound count before log outcome) :
    ∃ answer rest, log = .exec bound.sql bound.args answer :: rest := by
  cases run with
  | refused e => exact ⟨_, _, rfl⟩
  | conflict _ sent | noNextVersion sent | unstored sent | tooMany sent | stored sent =>
    cases sent with
    | empty nothing => exact absurd nothing some
    | answered result => exact ⟨_, _, rfl⟩

/-- After an update that found its row, the next version is written into the record. -/
theorem hit (some : bound.sql ≠ "") (hit : 1 ≤ x.touched)
    (run : R.UpdateRun ctx t accepts bound count before (x :: log) outcome) :
    bound.IsSentBy x ∧
      (bound.version = Int64.maxValue ∧ log = [] ∧ outcome = .error .overflow ∨
        bound.version ≠ Int64.maxValue ∧
          match R.storeVersion t (bound.version + 1) before with
          | (.error e, _) => log = [] ∧ outcome = .ok (.error e, before)
          | (.ok (), stored) => UInt64.size ≤ count + x.touched ∧ outcome = .error .overflow ∨
              Script.Runs ctx
                ((R.hooks (Write.update accepts).postHook ctx >>= fun _ =>
                  (return count + x.touched : Step R.Values Nat)) stored) log outcome) := by
  generalize same : x :: log = full at run
  have alone {rows : Nat} (answered : bound.Sent full rows) : x.touched = rows ∧ log = [] ∧ bound.IsSentBy x :=
    touched_of_sent answered some (same.trans (List.append_nil full).symm)
  cases run with
  | refused e =>
    cases same
    exact absurd hit (Nat.not_succ_le_zero 0)
  | conflict lookup answered lost =>
    obtain ⟨touched, _, _⟩ := touched_of_sent answered some same
    rw [touched, (isConflict_iff.mp lost).1] at hit
    exact absurd hit (Nat.not_succ_le_zero 0)
  | noNextVersion answered _ greatest =>
    obtain ⟨_, nothing, sent⟩ := alone answered
    exact ⟨sent, .inl ⟨greatest, nothing, rfl⟩⟩
  | unstored answered _ hasNext failed =>
    obtain ⟨_, nothing, sent⟩ := alone answered
    refine ⟨sent, .inr ⟨hasNext, ?_⟩⟩
    rw [failed]
    exact ⟨nothing, rfl⟩
  | tooMany answered _ hasNext wrote many =>
    obtain ⟨touched, _, sent⟩ := alone answered
    refine ⟨sent, .inr ⟨hasNext, ?_⟩⟩
    rw [wrote]
    exact .inl ⟨touched ▸ many, rfl⟩
  | stored answered _ hasNext wrote _ hook =>
    obtain ⟨touched, rfl, sent⟩ := touched_of_sent answered some same
    refine ⟨sent, .inr ⟨hasNext, ?_⟩⟩
    rw [wrote]
    exact .inr (touched ▸ hook)

/-- After an update that found its row, the record gets the next version and the hook follows. -/
theorem found (some : bound.sql ≠ "") (hasNext : bound.version ≠ Int64.maxValue)
    (wrote : R.storeVersion t (bound.version + 1) before = (.ok (), stored)) (hit : 1 ≤ x.touched)
    (run : R.UpdateRun ctx t accepts bound count before (x :: log) outcome) :
    bound.IsSentBy x ∧
      (UInt64.size ≤ count + x.touched ∧ outcome = .error .overflow ∨
        Script.Runs ctx
          ((R.hooks (Write.update accepts).postHook ctx >>= fun _ => (return count + x.touched : Step R.Values Nat))
            stored) log outcome) := by
  obtain ⟨sent, ⟨greatest, _⟩ | ⟨_, ended⟩⟩ := run.hit some hit
  · exact absurd greatest hasNext
  · rw [wrote] at ended
    exact ⟨sent, ended⟩

/-- After an update that changed no row of a record with a version, only the lookup follows. -/
theorem missed (some : bound.sql ≠ "") (versioned : t.version.isSome = true) (positive : 0 < bound.version)
    (untouched : x.touched = 0) (answer : x.refusal? = none)
    (run : R.UpdateRun ctx t accepts bound count before (x :: log) outcome) :
    ∃ lookup, log = [.query (Plan.get t ctx.dialect).sql bound.keys lookup] ∧
      outcome = (t.refusal bound lookup).map fun e => (.error e, before) := by
  generalize same : x :: log = full at run
  have conflicts {rows : Nat} {sent rest : List Exchange} (answered : bound.Sent sent rows)
      (split : x :: log = sent ++ rest) (settled : isConflict t bound rows = false) : False := by
    obtain ⟨touched, _, _⟩ := touched_of_sent answered some split
    rw [isConflict_iff.mpr ⟨touched.symm.trans untouched, versioned, positive⟩] at settled
    cases settled
  cases run with
  | refused e =>
    cases same
    cases answer
  | conflict lookup answered _ =>
    obtain ⟨_, rest, _⟩ := touched_of_sent answered some same
    exact ⟨lookup, rest, rfl⟩
  | noNextVersion answered settled | unstored answered settled | tooMany answered settled =>
    have alone : x :: log = full ++ [] := same.trans (List.append_nil full).symm
    exact (conflicts answered alone settled).elim
  | stored answered settled => exact (conflicts answered same settled).elim

end UpdateRun

theorem sendUpdate_runs {outcome : Except Fault (Except Error Nat)} :
    Script.Runs ctx (sendUpdate bound) log outcome ↔
      (∃ e, bound.sql ≠ "" ∧ log = [.exec bound.sql bound.args (.error e)] ∧ outcome = .ok (.error e)) ∨
        ∃ rows, bound.Sent log rows ∧ outcome = .ok (.ok rows) := by
  unfold sendUpdate
  by_cases nothing : bound.sql = ""
  · rw [if_pos (String.isEmpty_iff.mpr nothing)]
    constructor
    · rintro ⟨rfl, rfl⟩
      exact .inr ⟨0, .empty nothing, rfl⟩
    · rintro (⟨_, some, _⟩ | ⟨_, _ | ⟨_, some⟩, rfl⟩)
      · exact absurd nothing some
      · exact ⟨rfl, rfl⟩
      · exact absurd nothing some
  · rw [if_neg (fun empty => nothing (String.isEmpty_iff.mp empty))]
    constructor
    · intro run
      obtain ⟨answer, late, rfl, rest⟩ := Attempt.runs_exec.mp run
      cases answer with
      | error e =>
        obtain ⟨rfl, rfl⟩ := rest
        exact .inl ⟨e, nothing, rfl, rfl⟩
      | ok result =>
        obtain ⟨rfl, rfl⟩ := rest
        exact .inr ⟨_, .answered result nothing, rfl⟩
    · rintro (⟨e, _, rfl, rfl⟩ | ⟨_, empty | ⟨result, _⟩, rfl⟩)
      · exact Attempt.runs_exec.mpr ⟨.error e, [], rfl, rfl, rfl⟩
      · exact absurd empty nothing
      · exact Attempt.runs_exec.mpr ⟨.ok result, [], rfl, rfl, rfl⟩

theorem addCount_overflows {ρ : Type} {rows : Nat} (many : UInt64.size ≤ count + rows) (v : ρ) :
    (liftM (addCount count rows) : Step ρ Nat) v = .fault .overflow := by
  rw [addCount, if_pos many]
  rfl

theorem addCount_fits {ρ : Type} {rows : Nat} (few : ¬UInt64.size ≤ count + rows) (v : ρ) :
    (liftM (addCount count rows) : Step ρ Nat) v = .done (.ok (count + rows), v) := by
  rw [addCount, if_neg few]
  rfl

theorem update_settled {rows : Nat} {sent : List Exchange} (answered : bound.Sent sent rows)
    (settled : isConflict t bound rows = false) {outcome : Except Fault (Except Error Nat × R.Values)}
    (run : Script.Runs ctx
      ((do
        R.storeVersion t (← nextVersion bound.version)
        let count ← addCount count rows
        R.hooks (Write.update accepts).postHook ctx
        return count : Step R.Values Nat) before) late outcome) :
    R.UpdateRun ctx t accepts bound count before (sent ++ late) outcome := by
  by_cases greatest : bound.version = Int64.maxValue
  · rw [Step.bind_of_fault (nextVersion_overflows greatest before)] at run
    obtain ⟨rfl, rfl⟩ := run
    rw [List.append_nil]
    exact .noNextVersion answered settled greatest
  rw [Step.bind_of_done (nextVersion_next greatest before)] at run
  rcases wrote : R.storeVersion t (bound.version + 1) before with ⟨e | _, stored⟩
  · have same := storeVersion_failed wrote
    subst same
    have write : (liftM (R.storeVersion t (bound.version + 1)) : Step R.Values Unit) stored = .done (.error e, stored) :=
      congrArg Script.done wrote
    rw [Step.bind_of_failed write] at run
    obtain ⟨rfl, rfl⟩ := run
    rw [List.append_nil]
    exact .unstored answered settled greatest wrote
  have write : (liftM (R.storeVersion t (bound.version + 1)) : Step R.Values Unit) before = .done (.ok (), stored) :=
    congrArg Script.done wrote
  rw [Step.bind_of_done write] at run
  by_cases many : UInt64.size ≤ count + rows
  · rw [Step.bind_of_fault (addCount_overflows many stored)] at run
    obtain ⟨rfl, rfl⟩ := run
    rw [List.append_nil]
    exact .tooMany answered settled greatest wrote many
  rw [Step.bind_of_done (addCount_fits many stored)] at run
  exact .stored answered settled greatest wrote (Nat.lt_of_not_le many) run

/-- Once prepared, an update runs in one of the ways above. -/
theorem Prepared.update_run (p : R.Prepared ctx (.update accepts) before t early mid bound after)
    {outcome : Except Fault (Except Error Nat × R.Values)}
    (run : Script.Runs ctx (R.update ctx accepts count before) (early ++ late) outcome) :
    R.UpdateRun ctx t accepts bound count after late outcome := by
  rcases Step.runs_bind.mp (p.rest_run run) with
    ⟨reason, first, rfl⟩ | ⟨e, mid, first, rfl⟩ | ⟨rows, mid, sent, rest, first, second, rfl⟩
  all_goals obtain ⟨answer, sending, ended⟩ := Step.runs_attempt.mp first
  · rcases sendUpdate_runs.mp sending with ⟨e, some, rfl, rfl⟩ | ⟨rows, answered, rfl⟩ <;> cases ended
  · rcases sendUpdate_runs.mp sending with ⟨e, some, rfl, rfl⟩ | ⟨rows, answered, rfl⟩
    all_goals cases ended
    exact .refused _ some
  · rcases sendUpdate_runs.mp sending with ⟨e, some, rfl, rfl⟩ | ⟨rows, answered, rfl⟩
    all_goals cases ended
    cases found : isConflict t bound rows with
    | false =>
      -- Nothing is looked up, so that the rest goes on from the bound record at once.
      rw [bind_refuseConflict_of_not found] at second
      exact update_settled answered found second
    | true =>
      obtain ⟨lookup, rfl, rfl⟩ := conflict_run p.registered found second
      exact .conflict lookup answered found

end RecordType

end RowMapper
