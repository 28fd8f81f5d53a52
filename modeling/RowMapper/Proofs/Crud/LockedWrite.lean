import RowMapper.Proofs.Crud.Arguments
import RowMapper.Proofs.Crud.Untouched
import RowMapper.Proofs.Crud.Version

/-!
# Writes under a version

An update or a deletion of a record with a version, without hooks, ends with its statement if that hit a row. If it hit
none, one lookup of the row follows, and what that finds is reported.
-/

namespace RowMapper

inductive LockConflict.Reports (tableName : String) (keys : List Value) (version : Int64) :
    Except Error (List Row) → Except Fault Error → Prop where
  | refused (e : Error) : Reports tableName keys version (.error e) (.ok e)
  | found {rows : List Row} (aligned : ∀ row ∈ rows, row.isAligned = true) :
    Reports tableName keys version (.ok rows)
      (.ok (.optimisticLock { tableName, keys, rowExists := !rows.isEmpty, localVersion := version }))
  | misread {rows : List Row} {row : Row} (member : row ∈ rows) (misaligned : row.isAligned = false) :
    Reports tableName keys version (.ok rows) (.error (.misalignedRow row.columns.length row.values.length))

theorem Table.refusal_reports {t : Table} {bound : Bound} (lookup : Except Error (List Row)) :
    LockConflict.Reports t.name bound.keys bound.version lookup (t.refusal bound lookup) := by
  unfold Table.refusal Mapper.checkRows
  cases lookup with
  | error e => exact .refused e
  | ok rows =>
    dsimp only
    cases found : rows.find? (!·.isAligned) with
    | none =>
      have aligned : ∀ row ∈ rows, row.isAligned = true := by simpa using List.find?_eq_none.mp found
      have present : rows.head?.isSome = !rows.isEmpty := by cases rows <;> rfl
      simp only [Except.map, present]
      exact .found aligned
    | some row => exact .misread (List.mem_of_find?_eq_some found) (by simpa using List.find?_some found)

namespace RecordType

variable (R : RecordType) (ctx : Context) (w : Write) (t : Table) (version : Int64) (count : Nat)
  (before after : R.Values)

/-- The last arguments of a write, which pick its row, are the key values of the record and its version. -/
structure PicksRow (args keys : List Value) : Prop where
  supplied : List.Forall₂ (fun c x => R.supplied ctx.converter c before = .ok x) t.keyColumns keys
  picked : args.drop (w.setCount t) = keys ++ [.bigInt version]

/-- How a write runs on a record with a version. It leaves `after` if it hit a row. -/
inductive LockedRun : List Exchange → Except Fault (Except Error Nat × R.Values) → Prop where
  | unsent {c e} (asked : .field c ∈ (w.plan t ctx.dialect).sources ∨ c ∈ t.keyColumns)
      (unread : R.supplied ctx.converter c before = .error e) : LockedRun [] (.ok (.error e, before))
  | refused {args keys} (e : Error) (picks : R.PicksRow ctx w t version before args keys) :
    LockedRun [.exec (w.plan t ctx.dialect).sql args (.error e)] (.ok (.error e, before))
  | hit {args keys} {result : ExecResult} (picks : R.PicksRow ctx w t version before args keys)
      (some : 1 ≤ result.rowsAffected) :
    LockedRun [.exec (w.plan t ctx.dialect).sql args (.ok result)]
      (if UInt64.size ≤ count + result.rowsAffected then .error .overflow
      else .ok (.ok (count + result.rowsAffected), after))
  | missed {args keys} {result : ExecResult} {lookup ended} (picks : R.PicksRow ctx w t version before args keys)
      (none : result.rowsAffected = 0) (reports : LockConflict.Reports t.name keys version lookup ended) :
    LockedRun
      [.exec (w.plan t ctx.dialect).sql args (.ok result), .query (Plan.get t ctx.dialect).sql keys lookup]
      (ended.map fun e => (.error e, before))

variable {R ctx w t version count before after} {c : Column} {bound : Bound} {log : List Exchange}

theorem Prepared.picksRow (versioned : t.versionColumn? = some c) (picks : w.picksRow = true) (sends : bound.sql ≠ "")
    (p : R.Prepared ctx w before t [] before bound before) :
    R.PicksRow ctx w t bound.version before bound.args bound.keys := by
  have picked := p.picked picks sends fun _ _ => rfl
  rw [versioned] at picked
  exact ⟨p.binds.keys, picked⟩

/-- Without a hook, a write of a record with a version is prepared with that version, or a field has no value. -/
theorem prepare_locked {α : Type} (registered : ctx.table? R.typeName = some t) (keyed : t.keys ≠ [])
    (shown : R.localVersion t before = .ok version) (positive : 0 < version) (hasNext : version ≠ Int64.maxValue)
    (plain : R.hooks w.preHook ctx = pure ()) {goOn : Table → Plan × Bound → Step R.Values α}
    {outcome : Except Fault (Except Error α × R.Values)}
    (run : Script.Runs ctx
      ((R.announce ctx w >>= fun t => R.compose ctx t w >>= goOn t : Step R.Values α) before) log outcome) :
    (log = [] ∧ ∃ c e, (.field c ∈ (w.plan t ctx.dialect).sources ∨ c ∈ t.keyColumns) ∧
      R.supplied ctx.converter c before = .error e ∧ outcome = .ok (.error e, before)) ∨
    ∃ bound, R.Prepared ctx w before t [] before bound before ∧ bound.version = version := by
  have nonzero : version ≠ 0 := (Int64.ne_of_lt positive).symm
  rcases prepare_run registered plain run with ⟨rfl, ended⟩ | ⟨bound, after, p⟩
  · refine .inl ⟨rfl, ?_⟩
    cases ended with
    | noKeys _ keyless => exact absurd keyless keyed
    | noNextVersion why =>
      cases shown.symm.trans why.2.2
      exact absurd rfl hasNext
    | unbound why =>
      have kept := (Unprepared.unbound (α := α) why).kept (by
        rw [shown]
        rintro ⟨⟩
        exact nonzero rfl)
      subst kept
      rcases why.cause with failed | unversioned | ⟨c, asked, unread⟩
      · cases shown.symm.trans failed
      · cases shown.symm.trans unversioned
        exact absurd rfl nonzero
      · exact ⟨c, _, asked, unread, rfl⟩
  · have same : bound.version = version := Except.ok.inj (p.binds.version.symm.trans shown)
    have kept := (touched_of_version (same ▸ nonzero)).mp p.binds.touched
    subst kept
    exact .inr ⟨bound, p, same⟩

theorem hit_of_settled {rows : Nat} (versioned : t.version.isSome = true) (positive : 0 < bound.version)
    (settled : isConflict t bound rows = false) : 1 ≤ rows := by
  apply Nat.one_le_iff_ne_zero.mpr
  intro none
  rw [isConflict_iff.mpr ⟨none, versioned, positive⟩] at settled
  cases settled

theorem LockedRun.tooMany {result : ExecResult} {args keys : List Value}
    (picks : R.PicksRow ctx w t version before args keys) (some : 1 ≤ result.rowsAffected)
    (many : UInt64.size ≤ count + result.rowsAffected) :
    R.LockedRun ctx w t version count before after [.exec (w.plan t ctx.dialect).sql args (.ok result)]
      (.error .overflow) := by
  have ended : R.LockedRun ctx w t version count before after _ _ := .hit picks some
  rwa [if_pos many] at ended

theorem LockedRun.counted {result : ExecResult} {args keys : List Value}
    (picks : R.PicksRow ctx w t version before args keys) (some : 1 ≤ result.rowsAffected)
    (few : count + result.rowsAffected < UInt64.size) :
    R.LockedRun ctx w t version count before after [.exec (w.plan t ctx.dialect).sql args (.ok result)]
      (.ok (.ok (count + result.rowsAffected), after)) := by
  have ended : R.LockedRun ctx w t version count before after _ _ := .hit picks some
  rwa [if_neg (Nat.not_le_of_lt few)] at ended

theorem LockedRun.of_lookup {result : ExecResult} (lookup : Except Error (List Row))
    (picks : R.PicksRow ctx w t bound.version before bound.args bound.keys) (none : result.rowsAffected = 0) :
    R.LockedRun ctx w t bound.version count before after
      [.exec (w.plan t ctx.dialect).sql bound.args (.ok result),
        .query (Plan.get t ctx.dialect).sql bound.keys lookup]
      ((t.refusal bound lookup).map fun e => (.error e, before)) :=
  .missed picks none (Table.refusal_reports lookup)

theorem UpdateRun.locked {accepts : Option (Column → Bool)} {outcome : Except Fault (Except Error Nat × R.Values)}
    (plain : R.hooks (Write.update accepts).postHook ctx = pure ()) (versioned : t.version.isSome = true)
    (positive : 0 < bound.version) (hasNext : bound.version ≠ Int64.maxValue) (sends : bound.sql ≠ "")
    (text : bound.sql = ((Write.update accepts).plan t ctx.dialect).sql)
    (picks : R.PicksRow ctx (.update accepts) t bound.version before bound.args bound.keys)
    (wrote : R.storeVersion t (bound.version + 1) before = (.ok (), after))
    (run : R.UpdateRun ctx t accepts bound count before log outcome) :
    R.LockedRun ctx (.update accepts) t bound.version count before after log outcome := by
  cases run with
  | refused e =>
    rw [text]
    exact .refused e picks
  | conflict lookup answered found =>
    cases answered with
    | empty nothing => exact absurd nothing sends
    | answered result =>
      rw [text]
      exact .of_lookup lookup picks (isConflict_iff.mp found).1
  | noNextVersion _ _ greatest => exact absurd greatest hasNext
  | unstored _ _ _ failed => cases wrote.symm.trans failed
  | tooMany answered settled _ _ many =>
    cases answered with
    | empty nothing => exact absurd nothing sends
    | answered result =>
      rw [text]
      exact .tooMany picks (hit_of_settled versioned positive settled) many
  | stored answered settled _ again few hook =>
    cases wrote.symm.trans again
    rw [plain] at hook
    obtain ⟨rfl, rfl⟩ := hook
    cases answered with
    | empty nothing => exact absurd nothing sends
    | answered result =>
      rw [text]
      exact .counted picks (hit_of_settled versioned positive settled) few

theorem Prepared.delete_locked {outcome : Except Fault (Except Error Nat × R.Values)}
    (plain : R.hooks Write.delete.postHook ctx = pure ()) (versioned : t.version.isSome = true)
    (positive : 0 < bound.version) (picks : R.PicksRow ctx .delete t bound.version before bound.args bound.keys)
    (p : R.Prepared ctx .delete before t [] before bound before)
    (run : Script.Runs ctx (R.delete ctx count before) log outcome) :
    R.LockedRun ctx .delete t bound.version count before before log outcome := by
  have text : bound.sql = (Write.delete.plan t ctx.dialect).sql := p.binds.sql
  rw [← List.nil_append log] at run
  obtain ⟨answer, late, rfl, goesOn⟩ := Step.runs_exec.mp (p.rest_run run)
  show R.LockedRun ctx .delete t bound.version count before before (.exec bound.sql bound.args answer :: late) outcome
  rw [text]
  cases answer with
  | error e =>
    obtain ⟨rfl, rfl⟩ := goesOn
    exact .refused e picks
  | ok result =>
    dsimp only at goesOn
    cases found : isConflict t bound result.rowsAffected with
    | true =>
      obtain ⟨lookup, rfl, rfl⟩ := conflict_run p.registered found goesOn
      exact .of_lookup lookup picks (isConflict_iff.mp found).1
    | false =>
      have some := hit_of_settled versioned positive found
      rw [bind_refuseConflict_of_not found] at goesOn
      by_cases many : UInt64.size ≤ count + result.rowsAffected
      · rw [Step.bind_of_fault (addCount_overflows many before)] at goesOn
        obtain ⟨rfl, rfl⟩ := goesOn
        exact .tooMany picks some many
      · rw [Step.bind_of_done (addCount_fits many before), plain] at goesOn
        obtain ⟨rfl, rfl⟩ := goesOn
        exact .counted picks some (Nat.lt_of_not_le many)

/-- A conflict is reported exactly when the statement of a write under a version hits no row: then one lookup with the
keys of the statement follows, its answer is what is reported, and the record is as it was. A row that is hit ends the
write; an update leaves its record with the next version, and a deletion leaves its record alone. -/
theorem locked_write (registered : ctx.table? R.typeName = some t) (keyed : t.keys ≠ [])
    (versioned : t.StoresVersion c) (shown : R.localVersion t before = .ok version) (positive : 0 < version)
    (hasNext : version ≠ Int64.maxValue) :
    (R.hooks .preUpdate ctx = pure () → R.hooks .postUpdate ctx = pure () → R.HoldsVersion c.path (version + 1) →
      ∃ after, R.write c.path (.bigInt (version + 1)) before = .ok after ∧
        R.localVersion t after = .ok (version + 1) ∧
        ∀ {accepts count log outcome}, Script.Runs ctx (R.update ctx accepts count before) log outcome →
          R.LockedRun ctx (.update accepts) t version count before after log outcome) ∧
    (R.hooks .preDelete ctx = pure () → R.hooks .postDelete ctx = pure () →
      ∀ {count log outcome}, Script.Runs ctx (R.delete ctx count before) log outcome →
        R.LockedRun ctx .delete t version count before before log outcome) := by
  have isSome := Table.version_isSome versioned.version
  constructor
  · intro noPreHook noPostHook holds
    obtain ⟨after, wrote⟩ : ∃ after, R.storeVersion t (version + 1) before = (.ok (), after) :=
      storeVersion_of_holds versioned.version holds
    have written := wrote
    rw [storeVersion_of_column versioned.version, writeField_eq_ok] at written
    refine ⟨after, written, localVersion_stored versioned.version holds wrote, ?_⟩
    intro accepts count log outcome run
    rcases prepare_locked (w := .update accepts) registered keyed shown positive hasNext noPreHook run with
      ⟨rfl, k, e, asked, unread, rfl⟩ | ⟨bound, p, rfl⟩
    · exact .unsent asked unread
    · have sends : bound.sql ≠ "" := by
        rw [p.binds.sql]
        exact Plan.update_sql_ne_empty (List.ne_nil_of_mem versioned.mem_updateTerms)
      rw [← List.nil_append log] at run
      exact (p.update_run run).locked noPostHook isSome positive hasNext sends p.binds.sql
        (p.picksRow versioned.version rfl sends) wrote
  · intro noPreHook noPostHook count log outcome run
    rcases prepare_locked (w := .delete) registered keyed shown positive hasNext noPreHook run with
      ⟨rfl, k, e, asked, unread, rfl⟩ | ⟨bound, p, rfl⟩
    · exact .unsent asked unread
    · have sends : bound.sql ≠ "" := by
        rw [p.binds.sql]
        exact Plan.delete_sql_ne_empty
      exact p.delete_locked noPostHook isSome positive (p.picksRow versioned.version rfl sends) run

end RecordType

def eventDeletion (version : Int64) : Bound where
  sql := (Plan.delete events eventContext.dialect).sql
  args := [.bigInt 5, .bigInt version]
  keys := [.bigInt 5]
  version

/-- The update of an event with version 1 that is gone, and its deletion while it is there. -/
theorem event_locked_write :
    (∃ after, eventType.write eventVersion.path (.bigInt 2) (event 0 1) = .ok after ∧
      eventType.localVersion events after = .ok 2 ∧
      eventType.LockedRun eventContext (.update none) events 1 0 (event 0 1) after
        [.exec (eventUpdate 1).sql (eventUpdate 1).args (.ok {}),
          .query (Plan.get events eventContext.dialect).sql [.bigInt 5] (.ok [])]
        (.ok (.error (.optimisticLock
          { tableName := "events", keys := [.bigInt 5], rowExists := false, localVersion := 1 }), event 0 1))) ∧
    eventType.LockedRun eventContext .delete events 1 0 (event 0 1) (event 0 1)
      [.exec (eventDeletion 1).sql (eventDeletion 1).args (.ok { rowsAffected := 1 })] (.ok (.ok 1, event 0 1)) := by
  have missed : Script.Runs eventContext (eventType.update eventContext none 0 (event 0 1))
      [.exec (eventUpdate 1).sql (eventUpdate 1).args (.ok {}),
        .query (Plan.get events eventContext.dialect).sql [.bigInt 5] (.ok [])]
      (.ok (.error (.optimisticLock
        { tableName := "events", keys := [.bigInt 5], rowExists := false, localVersion := 1 }), event 0 1)) :=
    ⟨.ok {}, _, rfl, Script.runs_query.mpr ⟨.ok [], [], rfl, rfl, rfl⟩⟩
  have deleted : Script.Runs eventContext (eventType.delete eventContext 0 (event 0 1))
      [.exec (eventDeletion 1).sql (eventDeletion 1).args (.ok { rowsAffected := 1 })] (.ok (.ok 1, event 0 1)) :=
    ⟨.ok { rowsAffected := 1 }, [], rfl, rfl, rfl⟩
  have holds : eventType.HoldsVersion eventVersion.path (1 + 1) := ⟨_, rfl, NativeType.int64_holds 2⟩
  obtain ⟨updates, deletes⟩ := @RecordType.locked_write eventType eventContext events 1 (event 0 1) eventVersion rfl
    (by decide) events_storesVersion rfl (by decide) (by decide)
  obtain ⟨after, wrote, shown, runs⟩ := updates rfl rfl holds
  exact ⟨⟨after, wrote, shown, runs missed⟩, deletes rfl rfl deleted⟩

end RowMapper
