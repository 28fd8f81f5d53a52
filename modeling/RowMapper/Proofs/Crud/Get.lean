import Mathlib.Data.List.Basic
import RowMapper.Crud.Read
import RowMapper.Proofs.Record.Binding

/-!
# Runs of loads by key

A load by key sends one query. The record of its row holds, in the field of each stored column, what the column's value
decodes to.
-/

namespace RowMapper

namespace RecordType

variable {R : RecordType} {ctx : Context} {conv : Converter} {t : Table} {columns : List Column} {values : List Value}
  {before after : R.Values} {log : List Exchange}

theorem loadByPlace_cons {c : Column} :
    R.loadByPlace {} (c :: columns) values before = (.ok (), after) ↔
      ∃ mid, R.write c.path (values.head?.getD .null) before = .ok mid ∧
        R.loadByPlace {} columns values.tail mid = (.ok (), after) := by
  have first : R.loadColumn {} c (values.head?.getD .null) before =
      R.writeField c.path (values.head?.getD .null) before := rfl
  rw [loadByPlace]
  simp only [Bind.bind, ExceptT.bind, ExceptT.mk, StateT.bind]
  rw [show (R.loadColumn {} c (values.head?.getD .null) before) = _ from first]
  rcases wrote : R.writeField c.path (values.head?.getD .null) before with ⟨e | _, mid⟩
  · constructor
    · intro loaded
      cases loaded
    · rintro ⟨mid', written, _⟩
      cases wrote.symm.trans (writeField_eq_ok.mpr written)
  · constructor
    · intro loaded
      exact ⟨mid, writeField_eq_ok.mp wrote, loaded⟩
    · rintro ⟨mid', written, loaded⟩
      cases wrote.symm.trans (writeField_eq_ok.mpr written)
      exact loaded

theorem loadByPlace_ok {cell : Column → Value}
    (read : ∀ c ∈ columns, ∃ p content, R.place c.path = .ok p ∧ p.leaf.type.decode (cell c) = .ok content) :
    ∃ after, R.loadByPlace {} columns (columns.map cell) before = (.ok (), after) := by
  induction columns generalizing before with
  | nil => exact ⟨before, rfl⟩
  | cons c rest ih =>
    obtain ⟨p, content, place, decoded⟩ := read c List.mem_cons_self
    have wrote : R.write c.path (cell c) before = .ok (p.leaf.set content before) :=
      write_eq_ok.mpr ⟨p, content, place, decoded, rfl⟩
    have others : ∃ after, R.loadByPlace {} rest (rest.map cell) (p.leaf.set content before) = (.ok (), after) :=
      ih fun d member => read d (List.mem_cons_of_mem _ member)
    obtain ⟨after, loaded⟩ := others
    exact ⟨after, loadByPlace_cons.mpr ⟨_, wrote, loaded⟩⟩

theorem loadByPlace_other {path : String} {x : Value} (shows : R.Shows path x before)
    (loaded : R.loadByPlace {} columns values before = (.ok (), after)) (unnamed : path ∉ columns.map (·.path)) :
    R.Shows path x after := by
  induction columns generalizing before values with
  | nil =>
    cases loaded
    exact shows
  | cons c rest ih =>
    obtain ⟨mid, wrote, loaded⟩ := loadByPlace_cons.mp loaded
    rw [List.map_cons, List.mem_cons, not_or] at unnamed
    exact ih (shows.write_other wrote unnamed.1) loaded unnamed.2

theorem loadByPlace_shows {cell : Column → Value} (distinct : (columns.map (·.path)).Nodup)
    (loaded : R.loadByPlace {} columns (columns.map cell) before = (.ok (), after)) :
    ∀ c ∈ columns, R.Shows c.path (cell c) after := by
  induction columns generalizing before with
  | nil => exact fun c member => absurd member List.not_mem_nil
  | cons c rest ih =>
    obtain ⟨fresh, distinctRest⟩ := List.nodup_cons.mp distinct
    obtain ⟨mid, wrote, loaded⟩ := loadByPlace_cons.mp loaded
    intro d member
    rcases List.mem_cons.mp member with rfl | later
    · exact loadByPlace_other (shows_write wrote) loaded fresh
    · exact ih distinctRest loaded d later

theorem load_eq (step : Step R.Values Unit) :
    R.load step = Script.bind (step R.fresh) fun loaded => .done (loaded.1.map fun _ => loaded.2) := by
  unfold load
  rw [Attempt.bind_apply]
  show Script.bind (Script.bind (step R.fresh) fun loaded => .done (Except.ok loaded)) _ = _
  rw [Script.bind_assoc]
  congr 1
  funext ⟨answer, record⟩
  cases answer <;> rfl

theorem load_of_edit {edit : Edit R.Values Unit} (plain : R.hooks .postGet ctx = pure ()) :
    R.load (liftM edit >>= fun _ => R.hooks .postGet ctx : Step R.Values Unit) =
      Script.done ((edit R.fresh).1.map fun _ => (edit R.fresh).2) := by
  rw [load_eq, plain, Step.bind_apply, Step.edit_apply]
  rcases edit R.fresh with ⟨e | _, record⟩ <;> rfl

/-- A load by key sends its query first, and then loads what it got with the columns of the table in order. -/
theorem runs_get (registered : ctx.table? R.typeName = some t) (keyed : t.keys ≠ []) {keys : List Value}
    {outcome : Except Fault (Except Error (Option R.Values))} :
    Script.Runs ctx (R.get ctx keys) log outcome ↔
      ∃ answer late, log = .query (Plan.get t ctx.dialect).sql keys answer :: late ∧
        match Mapper.checkRows answer with
        | .ok (.ok rows) =>
          Script.Runs ctx (match rows.head? with
            | none => return none
            | some row => do
              let record ← R.load do
                R.loadByPlace ctx.converter t.storedColumns row.values
                R.hooks .postGet ctx
              return some record : Attempt (Option R.Values)) late outcome
        | .ok (.error e) => late = [] ∧ outcome = .ok (.error e)
        | .error reason => late = [] ∧ outcome = .error reason := by
  have planned : ctx.planFor R.typeName .get = .ok (.get t ctx.dialect) := by
    unfold Context.planFor
    rw [registered]
    rfl
  have found : R.tableOfType ctx = (pure t : Attempt Table) := by
    unfold tableOfType
    rw [registered]
  have allowed : (ofExcept t.requireKeys : Attempt Unit) = pure () := by
    rw [Table.requireKeys, if_neg (by simpa using keyed)]
    rfl
  unfold get
  rw [found, pure_bind, allowed, pure_bind, Attempt.bind_apply]
  simp only [Attempt.plan, Script.bind, Script.Runs, planned]
  exact Attempt.runs_queryRow

/-- What a load by key makes of the answer to its query. -/
def loaded (R : RecordType) (ctx : Context) (t : Table) (answer : Except Error (List Row)) :
    Except Fault (Except Error (Option R.Values)) :=
  (Mapper.checkRows answer).map fun checked => checked.bind fun rows =>
    match rows.head? with
    | none => .ok none
    | some row =>
      match R.loadByPlace ctx.converter t.storedColumns row.values R.fresh with
      | (.ok (), record) => .ok (some record)
      | (.error e, _) => .error e

/-- A load by key sends one query, and the answer decides what it returns. -/
theorem get_answered (registered : ctx.table? R.typeName = some t) (keyed : t.keys ≠ [])
    (plain : R.hooks .postGet ctx = pure ()) {keys : List Value}
    {outcome : Except Fault (Except Error (Option R.Values))}
    (run : Script.Runs ctx (R.get ctx keys) log outcome) :
    ∃ answer, log = [.query (Plan.get t ctx.dialect).sql keys answer] ∧ outcome = R.loaded ctx t answer := by
  obtain ⟨answer, late, rfl, rest⟩ := (runs_get registered keyed).mp run
  unfold loaded
  rcases checked : Mapper.checkRows answer with reason | e | rows
  · simp only [checked] at rest
    obtain ⟨rfl, rfl⟩ := rest
    exact ⟨_, rfl, by rw [checked]; rfl⟩
  · simp only [checked] at rest
    obtain ⟨rfl, rfl⟩ := rest
    exact ⟨_, rfl, by rw [checked]; rfl⟩
  · simp only [checked] at rest
    cases rows with
    | nil =>
      obtain ⟨rfl, rfl⟩ := rest
      exact ⟨_, rfl, by rw [checked]; rfl⟩
    | cons row rows =>
      simp only [List.head?_cons] at rest
      rw [Attempt.bind_apply, load_of_edit plain] at rest
      rcases read : R.loadByPlace ctx.converter t.storedColumns row.values R.fresh with ⟨e | _, record⟩
      all_goals
        rw [read] at rest
        obtain ⟨rfl, rfl⟩ := rest
        refine ⟨_, rfl, ?_⟩
        rw [checked]
        simp only [Except.map, Except.bind, List.head?_cons, read]

/-- A load by key returns a record only if its query returned a row. -/
theorem get_run (registered : ctx.table? R.typeName = some t) (keyed : t.keys ≠ [])
    (plain : R.hooks .postGet ctx = pure ()) {keys : List Value}
    {outcome : Except Fault (Except Error (Option R.Values))}
    (run : Script.Runs ctx (R.get ctx keys) log outcome) :
    ∃ answer, log = [.query (Plan.get t ctx.dialect).sql keys answer] ∧
      ∀ record, outcome = .ok (.ok (some record)) → ∃ row rows, answer = .ok (row :: rows) ∧
        R.loadByPlace ctx.converter t.storedColumns row.values R.fresh = (.ok (), record) := by
  obtain ⟨answer, sent, rfl⟩ := get_answered registered keyed plain run
  refine ⟨answer, sent, fun record ended => ?_⟩
  unfold loaded at ended
  cases answer with
  | error e => cases ended
  | ok rows =>
    rcases checked : Mapper.checkRows (.ok rows) with reason | answer
    · rw [checked] at ended
      cases ended
    · cases Mapper.checkRows_ok checked
      rw [checked] at ended
      cases rows with
      | nil => cases ended
      | cons row rows =>
        rcases read : R.loadByPlace ctx.converter t.storedColumns row.values R.fresh with ⟨e | _, found⟩
        all_goals
          simp only [Except.map, Except.bind, List.head?_cons, read] at ended
          cases ended
        exact ⟨row, rows, rfl, read⟩

end RecordType

end RowMapper
