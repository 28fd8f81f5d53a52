import RowMapper.Proofs.Crud.Update

/-!
# Updates that change no row

An update that changed no row leaves a record with a version as it was. A record without one keeps the first version.
-/

namespace RowMapper

namespace RecordType

variable {R : RecordType} {ctx : Context} {t : Table} {c : Column} {bound : Bound} {accepts : Option (Column → Bool)}
  {count : Nat} {version : Int64} {before mid after : R.Values} {answer : Except Error Nat} {log : List Exchange}

theorem Unprepared.kept {α : Type} {w : Write} {answer : Except Error α}
    (ended : Unprepared R ctx w t before (.ok (answer, after))) (versioned : R.localVersion t before ≠ .ok 0) :
    after = before := by
  cases ended with
  | noKeys => rfl
  | unbound why =>
    rcases why.touched with same | ⟨unversioned, _⟩
    · exact same
    · exact absurd unversioned versioned

theorem Touched.kept_or_first {sources : List Source} (touched : R.Touched t sources 0 before after) :
    after = before ∨ R.storeVersion t 1 before = (.ok (), after) := by
  by_cases asked : .nextVersion ∈ sources
  · exact .inr ((touched_zero asked).mp touched)
  · exact .inl ((touched_of_not_asked asked).mp touched)

theorem Unprepared.kept_or_first {α : Type} {w : Write} {answer : Except Error α}
    (ended : Unprepared R ctx w t before (.ok (answer, after))) :
    after = before ∨ R.storeVersion t 1 before = (.ok (), after) := by
  cases ended with
  | noKeys => exact .inl rfl
  | unbound why =>
    rcases why.touched with same | ⟨_, touched⟩
    · exact .inl same
    · exact touched.kept_or_first

theorem UpdateRun.kept (versioned : t.version.isSome = true) (positive : 0 < bound.version)
    (run : R.UpdateRun ctx t accepts bound count before log (.ok (answer, after)))
    (untouched : ∀ x ∈ log, x.touched = 0) : after = before := by
  generalize ended : (.ok (answer, after) : Except Fault (Except Error Nat × R.Values)) = outcome at run
  have conflicts {rows : Nat} (none : rows = 0) : isConflict t bound rows = true :=
    isConflict_iff.mpr ⟨none, versioned, positive⟩
  cases run with
  | refused e =>
    cases ended
    rfl
  | conflict lookup _ _ =>
    rcases refused : t.refusal bound lookup with reason | e
    all_goals
      rw [refused] at ended
      cases ended
    rfl
  | noNextVersion => cases ended
  | unstored =>
    cases ended
    rfl
  | tooMany => cases ended
  | stored answered settled =>
    have none := answered.untouched fun x member => untouched x (List.mem_append_left _ member)
    rw [conflicts none] at settled
    cases settled

theorem Touched.storeFirst {sources : List Source} {stored : Except Error Unit × R.Values}
    (touched : R.Touched t sources 0 before mid) (again : R.storeVersion t 1 mid = stored) :
    R.storeVersion t 1 before = stored := by
  by_cases asked : .nextVersion ∈ sources
  · have first := (touched_zero asked).mp touched
    rw [storeVersion_again first] at again
    rw [first, again]
  · rw [← (touched_of_not_asked asked).mp touched, again]

theorem UpdateRun.kept_or_first (plain : R.hooks (Write.update accepts).postHook ctx = pure ())
    (unversioned : bound.version = 0) {sources : List Source} (touched : R.Touched t sources 0 before mid)
    (run : R.UpdateRun ctx t accepts bound count mid log (.ok (answer, after))) :
    after = before ∨ R.storeVersion t 1 before = (.ok (), after) := by
  generalize ended : (.ok (answer, after) : Except Fault (Except Error Nat × R.Values)) = outcome at run
  cases run with
  | refused e =>
    cases ended
    exact touched.kept_or_first
  | conflict lookup _ found =>
    have positive := (isConflict_iff.mp found).2.2
    rw [unversioned] at positive
    exact absurd positive (by decide)
  | noNextVersion => cases ended
  | unstored =>
    cases ended
    exact touched.kept_or_first
  | tooMany => cases ended
  | stored answered settled hasNext wrote few hook =>
    rw [plain] at hook
    obtain ⟨rfl, rfl⟩ := hook
    cases ended
    rw [unversioned] at wrote
    exact .inr (touched.storeFirst wrote)

theorem UpdateRun.first_of_sent (plain : R.hooks (Write.update accepts).postHook ctx = pure ())
    (unversioned : bound.version = 0) {sources : List Source} (touched : R.Touched t sources 0 before mid)
    {sql : String} {args : List Value} {result : ExecResult} (untouched : result.rowsAffected = 0)
    (run : R.UpdateRun ctx t accepts bound count mid [.exec sql args (.ok result)] (.ok (answer, after))) :
    answer = .ok count ∧ R.storeVersion t 1 before = (.ok (), after) ∨
      ∃ e, answer = .error e ∧ R.storeVersion t 1 before = (.error e, before) ∧ after = before := by
  generalize ended : (.ok (answer, after) : Except Fault (Except Error Nat × R.Values)) = outcome at run
  generalize sent : [Exchange.exec sql args (.ok result)] = log at run
  cases run with
  | refused e => cases sent
  | conflict lookup _ found =>
    have positive := (isConflict_iff.mp found).2.2
    rw [unversioned] at positive
    exact absurd positive (by decide)
  | noNextVersion => cases ended
  | unstored answered settled hasNext failed =>
    cases ended
    rw [unversioned] at failed
    have first := touched.storeFirst failed
    have same := storeVersion_failed first
    subst same
    exact .inr ⟨_, rfl, first, rfl⟩
  | tooMany => cases ended
  | stored answered settled hasNext wrote few hook =>
    rw [unversioned] at wrote
    rw [plain] at hook
    obtain ⟨rfl, rfl⟩ := hook
    cases ended
    rw [List.append_nil] at sent
    have none := answered.untouched fun x member => by
      rw [← sent] at member
      rw [List.mem_singleton.mp member]
      exact untouched
    rw [none, Nat.add_zero]
    exact .inl ⟨rfl, touched.storeFirst wrote⟩

/-- If no row was changed, with no hooks, a record is left as it was. Only a record whose version is zero, as it is
before the record was ever loaded or stored, may get the first version, and is otherwise the same; it does if its update
was sent. -/
theorem untouched_update (registered : ctx.table? R.typeName = some t) (versioned : t.versionColumn? = some c)
    (noPreHook : R.hooks .preUpdate ctx = pure ()) (noPostHook : R.hooks .postUpdate ctx = pure ())
    (run : Script.Runs ctx (R.update ctx accepts count before) log (.ok (answer, after)))
    (untouched : ∀ x ∈ log, x.touched = 0) :
    (∀ e, R.localVersion t before = .error e → after = before) ∧
      (∀ version, R.localVersion t before = .ok version → 0 < version → after = before) ∧
      (R.localVersion t before = .ok 0 → (after = before ∨ FirstVersioned t before after) ∧
        ∀ {sql args result}, log = [.exec sql args (.ok result)] →
          answer = .ok count ∧ FirstVersioned t before after ∨ (∃ e, answer = .error e) ∧ after = before) := by
  have first (stored : after = before ∨ R.storeVersion t 1 before = (.ok (), after)) :
      after = before ∨ FirstVersioned t before after := stored.imp_right (firstVersioned versioned)
  rcases prepare_run (w := .update accepts) registered noPreHook run with ⟨rfl, ended⟩ | ⟨bound, mid, p⟩
  · refine ⟨fun e unread => ended.kept ?_, fun version shown positive => ended.kept ?_, fun _ => ?_⟩
    · rw [unread]
      nofun
    · rw [shown]
      rintro ⟨⟩
      exact absurd positive (by decide)
    · exact ⟨first ended.kept_or_first, nofun⟩
  · have rest := p.update_run run
    have touched := p.binds.touched
    have shown := p.binds.version
    refine ⟨fun e unread => ?_, fun version versionShown positive => ?_, fun unversioned => ?_⟩
    · cases shown.symm.trans unread
    · cases shown.symm.trans versionShown
      have nonzero : bound.version ≠ 0 := (Int64.ne_of_lt positive).symm
      rw [(touched_of_version nonzero).mp touched] at rest
      exact rest.kept (Table.version_isSome versioned) positive untouched
    · have none : bound.version = 0 := Except.ok.inj (shown.symm.trans unversioned)
      rw [none] at touched
      refine ⟨first (rest.kept_or_first noPostHook none touched), ?_⟩
      rintro sql args result rfl
      rcases rest.first_of_sent noPostHook none touched (untouched _ List.mem_cons_self) with
        ⟨counted, stored⟩ | ⟨e, failed, _, kept⟩
      · exact .inl ⟨counted, firstVersioned versioned stored⟩
      · exact .inr ⟨⟨e, failed⟩, kept⟩

end RecordType

/-- An event with version 1 that is gone is left as it was. One without a version gets the first. -/
theorem event_untouched_update :
    (eventType.localVersion events (event 0 1) = .ok 1 → (0 : Int64) < 1 → event 0 1 = event 0 1) ∧
      RecordType.FirstVersioned events (event 0 0) (event 0 1) := by
  have missed : Script.Runs eventContext (eventType.update eventContext none 0 (event 0 1))
      [.exec (eventUpdate 1).sql (eventUpdate 1).args (.ok {}),
        .query (Plan.get events eventContext.dialect).sql (eventUpdate 1).keys (.ok [])]
      (.ok (.error (.optimisticLock { tableName := "events", keys := [.bigInt 5], rowExists := false, localVersion := 1 }),
        event 0 1)) := ⟨.ok {}, _, rfl, Script.runs_query.mpr ⟨.ok [], [], rfl, rfl, rfl⟩⟩
  have first : Script.Runs eventContext (eventType.update eventContext none 0 (event 0 0))
      [.exec (eventUpdate 0).sql (eventUpdate 0).args (.ok {})] (.ok (.ok 0, event 0 1)) := ⟨.ok {}, [], rfl, rfl, rfl⟩
  have kept := RecordType.untouched_update rfl events_versionColumn rfl rfl missed (by simp [Exchange.touched])
  have stored := RecordType.untouched_update rfl events_versionColumn rfl rfl first (by simp [Exchange.touched])
  refine ⟨kept.2.1 1, ?_⟩
  rcases (stored.2.2 rfl).2 rfl with ⟨_, versioned⟩ | ⟨⟨_, failed⟩, _⟩
  · exact versioned
  · cases failed

/-- An event without a version comes out of an update that changed no row with version 1. -/
theorem untouched_update_stores_first_version :
    Script.Runs eventContext (eventType.update eventContext none 0 (event 0 0))
      [.exec (eventUpdate 0).sql (eventUpdate 0).args (.ok {})] (.ok (.ok 0, event 0 1)) ∧
    eventType.localVersion events (event 0 0) = .ok 0 ∧ eventType.localVersion events (event 0 1) = .ok 1 :=
  ⟨⟨.ok {}, [], rfl, rfl, rfl⟩, rfl, rfl⟩

end RowMapper
