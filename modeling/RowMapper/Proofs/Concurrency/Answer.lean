import RowMapper.Proofs.Concurrency.Bound
import RowMapper.Proofs.Crud.Untouched

/-!
# Answers to a copy

The update of a copy sends one statement. If the row still has the version of the copy, the update returns with the next
one. If not, it looks the row up and then returns the conflict.
-/

namespace RowMapper

inductive Returned.Settled {R : RecordType} (t : Table) (n : Int64) (r : Returned R) : Prop where
  | won {after} (shows : R.localVersion t after = .ok (n + 1)) (ended : r.outcome = .ok (.ok 1, after))
  | lost {keys} (read : List.Forall₂ (fun k y => R.read k.path r.copy = .ok y) t.keyColumns keys)
    (ended : r.outcome =
      .ok (.error (.optimisticLock { tableName := t.name, keys, rowExists := true, localVersion := n }), r.copy))
  | unread {k e} (member : k ∈ t.columns) (unread : R.read k.path r.copy = .error e)
    (ended : r.outcome = .ok (.error e, r.copy))

namespace Returned.Settled

variable {R : RecordType} {t : Table} {n : Int64} {r : Returned R}

theorem left_eq (settled : r.Settled t n) :
    (r.won = true → ∃ after, r.left = [after] ∧ R.localVersion t after = .ok (n + 1)) ∧
      (r.won = false → r.left = [r.copy]) := by
  unfold Returned.won Returned.left
  cases settled with
  | won shows ended =>
    rw [ended]
    exact ⟨fun _ => ⟨_, rfl, shows⟩, nofun⟩
  | lost _ ended | unread _ _ ended =>
    rw [ended]
    exact ⟨nofun, fun _ => rfl⟩

end Returned.Settled

/-- What is left of an update that missed its row: it looks the row up and returns the conflict. -/
def Loses (R : RecordType) (ctx : Context) (t : Table) (bound : Bound) (copy : R.Values)
    (rest : Script (Except Error Nat × R.Values)) : Prop :=
  ∀ {log outcome}, rest.Runs ctx log outcome →
    ∃ lookup, log = [.query (Plan.get t ctx.dialect).sql bound.keys lookup] ∧
      outcome = (t.refusal bound lookup).map fun e => (.error e, copy)

/-- What is left of an update that found its row: it returns, and the record has got the next version. -/
def Wins (R : RecordType) (ctx : Context) (t : Table) (bound : Bound) (copy : R.Values)
    (rest : Script (Except Error Nat × R.Values)) : Prop :=
  ∃ after, R.storeVersion t (bound.version + 1) copy = (.ok (), after) ∧
    ∀ {log outcome}, rest.Runs ctx log outcome → log = [] ∧ outcome = .ok (.ok 1, after)

namespace Setting

variable {ctx : Context} {R : RecordType} {t : Table} {c : Column} {B : Backend} {view : RowView B}
  {start : Column → Value} {accepts : Option (Column → Bool)} {version : Int64} {copy : R.Values} {bound : Bound}

theorem update_cases (setting : Setting ctx R t c view) (loaded : CopyOf R t view start version copy)
    (below : R.localVersion t copy ≠ .ok Int64.maxValue) :
    (∃ bound, R.Prepared ctx (.update accepts) copy t [] copy bound copy ∧
      bound.Asks t ctx.dialect c accepts view start copy) ∨
    ∀ {log outcome}, Script.Runs ctx (R.update ctx accepts 0 copy) log outcome →
      log = [] ∧ ∃ k e, k ∈ t.columns ∧ R.read k.path copy = .error e ∧ outcome = .ok (.error e, copy) := by
  -- Binding has one run, so that the first case holds of every run if it holds of one.
  by_cases prepared : ∃ bound after, R.Prepared ctx (.update accepts) copy t [] copy bound after
  · obtain ⟨bound, after, p⟩ := prepared
    obtain ⟨rfl, asks⟩ := setting.asks loaded p
    exact .inl ⟨bound, p, asks⟩
  · refine .inr fun run => ?_
    obtain ⟨n, shown, positive, _⟩ := loaded.version
    have versioned : R.localVersion t copy ≠ .ok 0 := by
      rw [shown]
      rintro ⟨⟩
      exact absurd positive (by decide)
    rcases RecordType.prepare_run (w := .update accepts) setting.registered setting.noPreHook run with
      ⟨rfl, ended⟩ | ready
    · cases ended with
      | noKeys _ keyless => exact absurd keyless setting.keyed
      | noNextVersion why => exact absurd why.2.2 below
      | unbound why =>
        have same := (RecordType.Unprepared.unbound (α := Nat) why).kept versioned
        subst same
        rcases why.cause with unread | unversioned | ⟨k, asked, unread⟩
        · cases shown.symm.trans unread
        · exact absurd unversioned versioned
        · rw [setting.noConverter, RecordType.supplied_default] at unread
          exact ⟨rfl, k, _, asked.elim Table.mem_columns_of_field Table.mem_columns_of_key, unread, rfl⟩
    · exact absurd ready prepared

/-- The statement of an update finds the row in the version of the copy and makes the next one, or it changes
nothing. -/
theorem sends_update (setting : Setting ctx R t c view) (p : R.Prepared ctx (.update accepts) copy t [] copy bound copy)
    (asks : bound.Asks t ctx.dialect c accepts view start copy) {database next : B.State} {x : Exchange}
    {rest : Script (Except Error Nat × R.Values)} (row : RowAt t c start (view.cell database) version)
    (sends : (R.update ctx accepts 0 copy).Sends ctx x rest) (served : B.Answers none database x next) :
    (version = bound.version ∧ RowAt t c start (view.cell next) (version + 1) ∧ Wins R ctx t bound copy rest) ∨
      version ≠ bound.version ∧ view.cell next = view.cell database ∧ Loses R ctx t bound copy rest := by
  have runs {log outcome} (run : rest.Runs ctx log outcome) :
      Script.Runs ctx (R.update ctx accepts 0 copy) ([] ++ x :: log) outcome :=
    Script.runs_cons.mpr ⟨rest, sends, run⟩
  obtain ⟨_, _, someRun⟩ := rest.exists_run
  obtain ⟨answer, _, same⟩ := (p.update_run (runs someRun)).exec asks.sends
  cases same
  obtain ⟨result, after, executed, does⟩ :=
    setting.honest.update (accepts.getD fun _ => true) bound.args database asks.bindable
  rw [← asks.sql] at executed
  cases (show B.execute none bound.sql bound.args database = (answer, next) from served).symm.trans executed
  rw [asks.finds row] at does
  -- The versions are compared by the database, which takes two integers as equal only if they are.
  by_cases current : version = bound.version
  · subst current
    rw [if_pos ((setting.honest.same_version _ _).mpr rfl)] at does
    have touched : (Exchange.exec bound.sql bound.args (.ok result)).touched = 1 := does.1
    obtain ⟨stored, wrote⟩ : ∃ stored, R.storeVersion t (bound.version + 1) copy = (.ok (), stored) :=
      RecordType.storeVersion_of_holds setting.versioned.version (setting.holds _)
    refine .inl ⟨rfl, does.2 ▸ asks.sets row, stored, wrote, fun run => ?_⟩
    obtain ⟨_, ⟨many, _⟩ | hook⟩ :=
      (p.update_run (runs run)).found asks.sends asks.hasNext wrote (Nat.le_of_eq touched.symm)
    · rw [touched] at many
      exact absurd many (by decide)
    · rw [show R.hooks (Write.update accepts).postHook ctx = pure () from setting.noPostHook, touched] at hook
      exact hook
  · rw [if_neg (fun same => current ((setting.honest.same_version _ _).mp same))] at does
    have untouched : (Exchange.exec bound.sql bound.args (.ok result)).touched = 0 := does.1
    have isVersioned := Table.version_isSome setting.versioned.version
    exact .inr ⟨current, does.2, fun run =>
      (p.update_run (runs run)).missed asks.sends isVersioned asks.positive untouched rfl⟩

/-- The lookup of an update that missed its row finds the row, and the update returns the conflict. -/
theorem sends_lookup (setting : Setting ctx R t c view) (asks : bound.Asks t ctx.dialect c accepts view start copy)
    {database next : B.State} {x : Exchange} {script rest : Script (Except Error Nat × R.Values)}
    (row : RowAt t c start (view.cell database) version) (loses : Loses R ctx t bound copy script)
    (sends : script.Sends ctx x rest) (served : B.Answers none database x next) :
    view.cell next = view.cell database ∧ ∀ {log outcome}, rest.Runs ctx log outcome →
      log = [] ∧ outcome = .ok (.error (.optimisticLock
        { tableName := t.name, keys := bound.keys, rowExists := true, localVersion := bound.version }), copy) := by
  have runs {log outcome} (run : rest.Runs ctx log outcome) : script.Runs ctx (x :: log) outcome :=
    Script.runs_cons.mpr ⟨rest, sends, run⟩
  obtain ⟨_, _, someRun⟩ := rest.exists_run
  obtain ⟨lookup, same, _⟩ := loses (runs someRun)
  cases same
  have kept := setting.honest.get bound.keys database lookup next asks.keys.length_eq.symm served
  obtain ⟨found, after, queried, aligned⟩ :=
    setting.honest.finds bound.keys database (asks.keys.imp fun _ _ read => ⟨copy, read⟩) (asks.looksUp row)
  cases (show B.query none _ bound.keys database = (lookup, next) from served).symm.trans queried
  refine ⟨kept.1, fun run => ?_⟩
  obtain ⟨_, same, rfl⟩ := loses (runs run)
  cases same
  have checked : Mapper.checkRows (.ok [found]) = .ok (.ok [found]) := by
    unfold Mapper.checkRows
    simp [aligned]
  refine ⟨rfl, ?_⟩
  unfold Table.refusal
  rw [checked]
  rfl

end Setting

end RowMapper
