import RowMapper.Proofs.Crud.Get
import RowMapper.Proofs.Crud.Records
import RowMapper.Proofs.Crud.Rows
import RowMapper.Proofs.History

/-!
# Inserted records are loaded again

On a backend that does what statements say, a record that was inserted is loaded by the keys that the insertion left in
it, with the same content in all columns.
-/

namespace RowMapper

variable {B : Backend} {view : TableView B} {R : RecordType} {t : Table} {d : Dialect} {c : Column}
  {handle? : Option B.Handle} {state : B.State} {row : String → Value} {keys : List Value}

/-- A row that no other one shares its keys with. -/
def TableView.Alone (view : TableView B) (t : Table) (d : Dialect) (handle? : Option B.Handle) (state : B.State)
    (row : String → Value) : Prop :=
  view.holds handle? state row ∧ ∀ other, view.holds handle? state other → other ≠ row →
    ∃ k ∈ t.keyColumns, view.same (other (d.fold k.name)) (row (d.fold k.name)) = false

namespace TableView.Honest

variable (honest : view.Honest R t d)

include honest

theorem alone_of_insert {after : B.State} {x : Exchange} (answers : B.Answers handle? state x after)
    (answered : x.refusal? = none) (text : x.sql = (Plan.insert t d).sql)
    (counted : x.args.length = (Plan.insert t d).sources.length) :
    ∃ row, R.MadeRow t d x row ∧ view.Alone t d handle? after row := by
  obtain ⟨row, made, holds, apart⟩ := honest.insert answers answered text counted
  refine ⟨row, made, (holds row).mpr (.inl rfl), fun other held differs => ?_⟩
  exact apart other (((holds other).mp held).resolve_left differs)

/-- A selection by the keys of a row that stands alone returns its cells, in the order of the columns. -/
theorem selects (alone : view.Alone t d handle? state row)
    (found : List.Forall₂ (fun k y => view.same (row (d.fold k.name)) y = true) t.keyColumns keys) :
    ∃ first rest after, B.query handle? (Plan.get t d).sql keys state = (.ok (first :: rest), after) ∧
      (∀ r ∈ first :: rest, r.isAligned = true) ∧ first.values = t.storedColumns.map fun c => row (d.fold c.name) := by
  obtain ⟨rows, after, answer, aligned, columns, names, text, selected⟩ := honest.get found.length_eq.symm
  obtain ⟨rfl, rfl⟩ := Dialect.selection_unique (text.symm.trans Plan.get_text)
  have own : (t.storedColumns.map fun c => d.fold c.name).map row ∈ rows.map (·.values) := by
    refine (selected _).mpr ⟨row, alone.1, ?_, rfl⟩
    intro term among
    rw [List.zip_map_left, List.mem_map] at among
    obtain ⟨⟨k, y⟩, among, rfl⟩ := among
    exact (List.forall₂_iff_zip.mp found).2 among
  cases rows with
  | nil => exact absurd own List.not_mem_nil
  | cons first rest =>
    refine ⟨first, rest, after, answer, aligned, ?_⟩
    obtain ⟨other, held, agrees, values⟩ := (selected first.values).mp (List.mem_map_of_mem List.mem_cons_self)
    have same : other = row := by
      by_contra differs
      obtain ⟨k, isKey, apart⟩ := alone.2 other held differs
      obtain ⟨y, among, matched⟩ := exists_of_forall₂ found isKey
      have listed : (d.fold k.name, y) ∈ (t.keyColumns.map fun c => d.fold c.name).zip keys := by
        rw [List.zip_map_left, List.mem_map]
        exact ⟨(k, y), among, rfl⟩
      have shared := honest.same_trans (agrees _ listed) (honest.same_symm matched)
      rw [apart] at shared
      cases shared
    rw [values, same, List.map_map]
    rfl

end TableView.Honest

namespace RecordType

variable {ctx : Context} {final : R.Values}

theorem Storable.loads (storable : R.Storable ctx t)
    (stored : ∀ c ∈ t.storedColumns, R.StoredAs t c (row (d.fold c.name)) final) {first : Row} {rest : List Row}
    (aligned : ∀ r ∈ first :: rest, r.isAligned = true)
    (values : first.values = t.storedColumns.map fun c => row (d.fold c.name)) :
    ∃ loaded, R.loaded ctx t (.ok (first :: rest)) = .ok (.ok (some loaded)) ∧
      ∀ c ∈ t.storedColumns, ∃ p, R.place c.path = .ok p ∧
        (p.leaf.type.Exact (p.leaf.get final) → p.leaf.get loaded = p.leaf.get final) := by
  have checked := Mapper.checkRows_aligned aligned
  have read : ∀ c ∈ t.storedColumns, ∃ p content, R.place c.path = .ok p ∧
      p.leaf.type.decode (row (d.fold c.name)) = .ok content := by
    intro c member
    obtain ⟨p, content, place, decoded, _⟩ := (stored c member).restores
    exact ⟨p, content, place, decoded⟩
  obtain ⟨loaded, scanned⟩ : ∃ loaded, R.loadByPlace {} t.storedColumns
      (t.storedColumns.map fun c => row (d.fold c.name)) R.fresh = (.ok (), loaded) := loadByPlace_ok read
  refine ⟨loaded, ?_, fun c member => ?_⟩
  · simp only [RecordType.loaded, checked, Except.map, Except.bind, List.head?_cons, storable.noConverter, values,
      scanned]
  · have distinct := storable.maps.sound.storedPaths_nodup storable.undotted
    obtain ⟨p, content, place, decoded, got⟩ := loadByPlace_shows distinct scanned c member
    obtain ⟨q, content', place', decoded', back⟩ := (stored c member).restores
    cases place.symm.trans place'
    cases decoded.symm.trans decoded'
    exact ⟨p, place, fun exact => got.trans (back exact)⟩

end RecordType

namespace Mapper

variable {m m' : Mapper B} {via : Executor B} {before after : R.Values}

/-- What an insertion leaves of the mapper and its backend: the same context, and a row of the record. -/
theorem Reached.inserted_row (reached : m.Reached) (storable : R.Storable m.context t)
    (honest : view.Honest R t m.dialect) (unversioned : R.localVersion t before = .ok 0)
    (inserted : m.run via (m.context.insert [⟨R, before⟩]) = (.ok (.ok (), [⟨R, after⟩]), m')) :
    m'.Reached ∧ m'.context = m.context ∧
      ∃ handle? row, m'.Reaches handle? via ∧ view.Alone t m.dialect handle? m'.connection row ∧
        ∀ c ∈ t.storedColumns, R.StoredAs t c (row (m.dialect.fold c.name)) after := by
  have again := reached.ran via (m.context.insert [⟨R, before⟩])
  have planned : RunsAsPlanned via m (m.context.insert [⟨R, before⟩]) := runsAsPlanned reached.coherent _
  have same := planned.context
  rw [inserted] at again same
  refine ⟨again, same, ?_⟩
  obtain ⟨log, batch, served⟩ := run_runs reached.coherent inserted
  have runs : Script.Runs m.context (R.insert m.context before) log (.ok (.ok (), after)) := by
    obtain ⟨ended, runs, same⟩ := Record.runs_runAll_single.mp batch
    rcases ended with reason | ⟨answer, values⟩
    · cases same
    · cases same
      exact runs
  obtain ⟨x, rfl, answered, text, counted, stores⟩ := storable.insert_stores unversioned runs
  obtain ⟨handle?, start, ⟨mid, answers, rfl⟩, reaches⟩ := served.answered x [] rfl answered
  obtain ⟨row, made, alone⟩ := honest.alone_of_insert answers answered text counted
  exact ⟨handle?, row, reaches, alone, stores row made⟩

theorem Reached.get_eq (reached : m.Reached) (storable : R.Storable m.context t) {rows : List Row} {last : B.State}
    {result : Except Error (Option R.Values)} (reaches : m.Reaches handle? via)
    (answer : B.query handle? (Plan.get t m.dialect).sql keys m.connection = (.ok rows, last))
    (loads : R.loaded m.context t (.ok rows) = .ok result) :
    ∃ after, m.run via (R.get m.context keys) = (.ok result, after) := by
  rcases ran : m.run via (R.get m.context keys) with ⟨outcome, after⟩
  obtain ⟨log, runs, served⟩ := run_runs reached.coherent ran
  have noHook : R.hooks .postGet m.context = pure () := storable.noHooks .postGet (by decide)
  obtain ⟨given, rfl, rfl⟩ := RecordType.get_answered storable.registered storable.keyed noHook runs
  obtain ⟨⟨_, queried, _⟩, _⟩ := served.reached handle? reaches
  cases (Prod.mk.inj (queried.symm.trans answer)).1
  exact ⟨after, by rw [loads]⟩

/-- A record without a version that was inserted is loaded by its keys, as they are after that, if they can be compared.
The loaded record then has the same content in each column that can be read back from its value. -/
theorem Reached.insert_then_get (reached : m.Reached) (storable : R.Storable m.context t)
    (honest : view.Honest R t m.dialect) (unversioned : R.localVersion t before = .ok 0)
    (inserted : m.run via (m.context.insert [⟨R, before⟩]) = (.ok (.ok (), [⟨R, after⟩]), m')) :
    ∃ keys, List.Forall₂ (fun k y => R.read k.path after = .ok y) t.keyColumns keys ∧
      ((∀ y ∈ keys, y.isNull = false ∧ y.isFloat = false) →
        ∃ loaded m'', m'.run via (R.get m'.context keys) = (.ok (.ok (some loaded)), m'') ∧
          ∀ c ∈ t.storedColumns, ∃ p, R.place c.path = .ok p ∧
            (p.leaf.type.Exact (p.leaf.get after) → p.leaf.get loaded = p.leaf.get after)) := by
  obtain ⟨again, same, handle?, row, reaches, alone, stored⟩ :=
    reached.inserted_row storable honest unversioned inserted
  have shown : ∀ k ∈ t.keyColumns, ∃ y, R.read k.path after = .ok y ∧
      t.ShownFor k (row (m.dialect.fold k.name)) y :=
    fun k isKey => (stored k (Table.mem_storedColumns_of_key isKey (storable.keysKept k isKey))).shown
  choose! key reads forms using shown
  refine ⟨t.keyColumns.map key, List.forall₂_map_right_iff.mpr (List.forall₂_same.mpr reads), fun comparable => ?_⟩
  have found : List.Forall₂ (fun k y => view.same (row (m.dialect.fold k.name)) y = true) t.keyColumns
      (t.keyColumns.map key) := by
    refine List.forall₂_map_right_iff.mpr (List.forall₂_same.mpr fun k isKey => ?_)
    obtain ⟨present, exact⟩ := comparable (key k) (List.mem_map_of_mem isKey)
    exact honest.same_of_shown isKey (forms k isKey) present exact
  obtain ⟨first, rest, last, answer, aligned, values⟩ := honest.selects alone found
  obtain ⟨loaded, returned, agrees⟩ := storable.loads stored aligned values
  have sameDialect : m'.dialect = m.dialect := congrArg Context.dialect same
  rw [← same] at storable returned
  rw [← sameDialect] at answer
  obtain ⟨m'', got⟩ := again.get_eq storable reaches answer returned
  exact ⟨loaded, m'', got, agrees⟩

end Mapper

open Mapper

def countedEventMapper : Mapper (rowsBackend countedEvents eventContext.dialect) :=
  let new : Mapper (rowsBackend countedEvents eventContext.dialect) :=
    { dialect := eventContext.dialect, connection := [fun _ => .bigInt 1] }
  (new.register eventType none none).reconfigured "Event" [.change (.keys true ["id"])]

theorem countedEventMapper_reached : countedEventMapper.Reached := by
  have new := Reached.fresh (B := rowsBackend countedEvents eventContext.dialect) eventContext.dialect
    [fun _ => .bigInt 1]
  exact (new.registered eventType none none).reconfigured "Event" [.change (.keys true ["id"])]

theorem countedEvents_storable : eventType.Storable countedEventMapper.context countedEvents where
  registered := rfl
  maps := countedEvents_maps
  undotted := eventType_undotted
  keyed := by decide
  keysKept := by decide
  versionKept := by
    intro c versioned
    cases versioned
    rfl
  reports _ _ _ := by decide
  noConverter := rfl
  noHooks := by
    intro hook _
    rfl

def numberedEvent : eventType.Values := (⟨2, by decide, by decide⟩, (event 1000 1).2)

/-- A second event that is inserted gets the key 2, and is loaded by it. -/
theorem event_insert_then_get :
    ∃ m', countedEventMapper.run .mapper (countedEventMapper.context.insert [⟨eventType, event 1000 0⟩]) =
        (.ok (.ok (), [⟨eventType, numberedEvent⟩]), m') ∧
      ∃ m'', m'.run .mapper (eventType.get m'.context [.bigInt 2]) = (.ok (.ok (some numberedEvent)), m'') := by
  have inserted : countedEventMapper.run .mapper (countedEventMapper.context.insert [⟨eventType, event 1000 0⟩]) =
      (.ok (.ok (), [⟨eventType, numberedEvent⟩]), _) := rfl
  refine ⟨_, inserted, ?_⟩
  obtain ⟨keys, shown, loads⟩ := countedEventMapper_reached.insert_then_get countedEvents_storable
    countedEvents_countable.honest rfl inserted
  have same : keys = [.bigInt 2] := by
    rcases shown with _ | ⟨id, _ | _⟩
    cases id
    rfl
  subst same
  obtain ⟨loaded, m'', got, agrees⟩ := loads (by decide)
  have restored : loaded = numberedEvent := by
    have content (i : Fin 3) := agrees (countedEvents.storedColumns.get i) (List.get_mem countedEvents.storedColumns i)
    obtain ⟨_, place, number⟩ := content 0
    cases place
    obtain ⟨_, place, moment⟩ := content 1
    cases place
    obtain ⟨_, place, version⟩ := content 2
    cases place
    have whole : (1000 : Int) ∣ 1000 := Int.dvd_refl 1000
    exact Prod.ext (number trivial) (Prod.ext (moment whole) (Prod.ext (version trivial) rfl))
  rw [restored] at got
  exact ⟨m'', got⟩

end RowMapper
