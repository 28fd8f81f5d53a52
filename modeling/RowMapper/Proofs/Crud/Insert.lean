import RowMapper.Proofs.Crud.Preparation

/-!
# Runs of inserts

An insert sends one statement, and only a generated key that was reported is written into the record.
-/

namespace RowMapper

/-- The key that an insertion reports, in each way of reporting it. -/
inductive KeyReport.Reports : KeyReport → Exchange → Option Value → Prop where
  | lastInsertId {sql args result} :
    Reports .lastInsertId (.exec sql args (.ok result)) (result.lastInsertId.map Value.bigInt)
  | returning {sql args rows} :
    Reports .returning (.query sql args (.ok rows)) (rows.head?.bind fun row => row.values.head?)
  | notReported {sql args result} : Reports .notReported (.exec sql args (.ok result)) none

namespace RecordType

variable {R : RecordType} {ctx : Context} {t : Table} {bound : Bound} {before mid after : R.Values}
  {log early late : List Exchange}

/-- The statement of an insert is refused, or its answer cannot be read, or it may report a key. -/
theorem insertForKey_run {outcome : Except Fault (Except Error (Option Value))}
    (run : Script.Runs ctx (insertForKey ctx bound) log outcome) :
    ∃ x, log = [x] ∧ bound.IsSentBy x ∧
      ((∃ e, x.refusal? = some e ∧ outcome = .ok (.error e)) ∨
      (x.refusal? = none ∧ ∃ reason, outcome = .error reason) ∨
      (x.refusal? = none ∧ ∃ key?, ctx.dialect.keyReport.Reports x key? ∧ outcome = .ok (.ok key?))) := by
  unfold insertForKey at run
  cases reports : ctx.dialect.keyReport with
  | returning =>
    simp only [reports] at run
    obtain ⟨answer, late, rfl, rest⟩ := Attempt.runs_queryRow.mp run
    cases answer with
    | error e =>
      obtain ⟨rfl, rfl⟩ := rest
      exact ⟨_, rfl, ⟨rfl, rfl⟩, .inl ⟨e, rfl, rfl⟩⟩
    | ok rows =>
      cases checked : Mapper.checkRows (.ok rows) with
      | error reason =>
        simp only [checked] at rest
        obtain ⟨rfl, rfl⟩ := rest
        exact ⟨_, rfl, ⟨rfl, rfl⟩, .inr (.inl ⟨rfl, reason, rfl⟩)⟩
      | ok answer =>
        cases Mapper.checkRows_ok checked
        simp only [checked] at rest
        obtain ⟨rfl, rfl⟩ := rest
        exact ⟨_, rfl, ⟨rfl, rfl⟩, .inr (.inr ⟨rfl, _, .returning, rfl⟩)⟩
  | lastInsertId | notReported =>
    simp only [reports] at run
    obtain ⟨answer, late, rfl, rest⟩ := Attempt.runs_exec.mp run
    cases answer with
    | error e =>
      obtain ⟨rfl, rfl⟩ := rest
      exact ⟨_, rfl, ⟨rfl, rfl⟩, .inl ⟨e, rfl, rfl⟩⟩
    | ok result =>
      obtain ⟨rfl, rfl⟩ := rest
      exact ⟨_, rfl, ⟨rfl, rfl⟩, .inr (.inr ⟨rfl, _, by constructor, rfl⟩)⟩

/-- The key that was reported for a generated column, if any, is converted and written into its field. -/
def KeyWritten (R : RecordType) (ctx : Context) (generated : Option Column) (x : Exchange) (before after : R.Values) :
    Prop :=
  match generated with
  | none => after = before
  | some c => ∃ key?, ctx.dialect.keyReport.Reports x key? ∧
    match key? with
    | none => after = before
    | some key => ∃ id, ctx.converter.fromDb c key = .ok id ∧ R.write c.path id before = .ok after

theorem KeyWritten.cases {generated : Option Column} {x : Exchange}
    (written : R.KeyWritten ctx generated x before after) :
    after = before ∨ ∃ c key, generated = some c ∧ R.write c.path key before = .ok after := by
  cases generated with
  | none => exact .inl written
  | some c =>
    obtain ⟨_ | key, _, ended⟩ := written
    · exact .inl ended
    · obtain ⟨id, _, wrote⟩ := ended
      exact .inr ⟨c, id, rfl, wrote⟩

theorem sendInsert_run {generated : Option Column} {outcome : Except Fault (Except Error Unit × R.Values)}
    (run : Script.Runs ctx (R.sendInsert ctx generated bound before) log outcome) :
    ∃ x, log = [x] ∧ bound.IsSentBy x ∧
      ((∃ e, x.refusal? = some e ∧ outcome = .ok (.error e, before)) ∨
      x.refusal? = none ∧ Step.Ends (fun _ => True) (fun _ after => after = before)
        (fun _ after => R.KeyWritten ctx generated x before after) outcome) := by
  unfold sendInsert at run
  cases generated with
  | none =>
    obtain ⟨answer, late, rfl, rest⟩ := Step.runs_exec.mp run
    cases answer with
    | error e =>
      obtain ⟨rfl, rfl⟩ := rest
      exact ⟨_, rfl, ⟨rfl, rfl⟩, .inl ⟨e, rfl, rfl⟩⟩
    | ok result =>
      obtain ⟨rfl, rfl⟩ := rest
      exact ⟨_, rfl, ⟨rfl, rfl⟩, .inr ⟨rfl, .done rfl⟩⟩
  | some c =>
    rcases Step.runs_bind.mp run with
      ⟨reason, first, rfl⟩ | ⟨e, mid, first, rfl⟩ | ⟨key?, mid, sent, late, first, second, rfl⟩
    all_goals
      obtain ⟨answer, asking, ended⟩ := Step.runs_attempt.mp first
      obtain ⟨x, rfl, same, ⟨_, refused, rfl⟩ | ⟨answered, _, rfl⟩ | ⟨answered, _, reports, rfl⟩⟩ :=
        insertForKey_run asking
      all_goals cases ended
    · exact ⟨x, rfl, same, .inr ⟨answered, .fault trivial⟩⟩
    · exact ⟨x, rfl, same, .inl ⟨e, refused, rfl⟩⟩
    · cases key? with
      | none =>
        obtain ⟨rfl, rfl⟩ := second
        exact ⟨x, rfl, same, .inr ⟨answered, .done ⟨none, reports, rfl⟩⟩⟩
      | some key =>
        replace second : Script.Runs ctx ((ofExcept (ctx.converter.fromDb c key) >>= fun id =>
          (liftM (R.writeField c.path id) : Step R.Values Unit)) before) late outcome := second
        cases loaded : ctx.converter.fromDb c key with
        | error e =>
          have failed : (ofExcept (ctx.converter.fromDb c key) : Step R.Values Value) before =
              .done (.error e, before) := by rw [Step.ofExcept_apply, loaded]
          rw [Step.bind_of_failed failed] at second
          obtain ⟨rfl, rfl⟩ := second
          exact ⟨x, rfl, same, .inr ⟨answered, .failed rfl⟩⟩
        | ok id =>
          have found : (ofExcept (ctx.converter.fromDb c key) : Step R.Values Value) before =
              .done (.ok id, before) := by rw [Step.ofExcept_apply, loaded]
          rw [Step.bind_of_done found, Step.edit_apply] at second
          obtain ⟨rfl, rfl⟩ := second
          rcases written : R.writeField c.path id before with ⟨e | _, after⟩
          · exact ⟨x, rfl, same, .inr ⟨answered, .failed (writeField_failed written)⟩⟩
          · exact ⟨x, rfl, same, .inr ⟨answered, .done ⟨some key, reports, id, loaded, writeField_eq_ok.mp written⟩⟩⟩

/-- An insert without hooks that succeeds sends one statement, between binding and the generated key. -/
theorem insert_ok (registered : ctx.table? R.typeName = some t) (noPreHook : R.hooks .preInsert ctx = pure ())
    (noPostHook : R.hooks .postInsert ctx = pure ())
    (run : Script.Runs ctx (R.insert ctx before) log (.ok (.ok (), after))) :
    ∃ x bound mid, log = [x] ∧ bound.IsSentBy x ∧ x.refusal? = none ∧
      R.Binds ctx.converter t (Plan.insert t ctx.dialect) before bound mid ∧
      R.KeyWritten ctx (Plan.insert t ctx.dialect).generated x mid after := by
  obtain ⟨early, start, bound, mid, late, p, rfl⟩ := prepared_of_success (w := .insert) registered run
  obtain ⟨rfl, rfl⟩ := p.unhooked noPreHook
  rcases Step.runs_bind.mp (p.rest_run run) with
    ⟨_, _, ended⟩ | ⟨_, _, _, ended⟩ | ⟨_, stored, sent, rest, sending, hook, rfl⟩
  · cases ended
  · cases ended
  · rw [show Write.insert.postHook = .postInsert from rfl, noPostHook] at hook
    obtain ⟨rfl, ended⟩ := hook
    cases ended
    obtain ⟨x, rfl, same, ⟨_, _, ended⟩ | ⟨answered, _ | _ | written⟩⟩ := sendInsert_run sending
    · cases ended
    · exact ⟨x, bound, mid, rfl, same, answered, p.binds, written⟩

end RecordType

end RowMapper
