import RowMapper.Proofs.Crud.CurrentPlans

/-!
# Filtered updates

The update for a filter sets what the full update sets, in the same order, without the columns that the filter rejects.
The version is set whatever the filter says, and keys and transient columns never are.
-/

namespace RowMapper

namespace Table

variable (t : Table)

/-- The columns that an update can set: those that are stored, without the keys. -/
def settable : List Column := t.storedColumns.filter fun c => decide (c ∉ t.keyColumns)

def passes (accepts : Column → Bool) (c : Column) : Bool := decide (t.versionColumn? = some c) || accepts c

def assignment (c : Column) : Column × Source := (c, if t.versionColumn? = some c then .nextVersion else .field c)

end Table

/-- A plan that sets columns, in order, in the row of a record. Placeholders are numbered from the first column on, and
the row is picked by its keys and its version. The plan is empty if there is nothing to set. -/
structure Plan.Sets (p : Plan) (t : Table) (d : Dialect) (columns : List Column) : Prop where
  sql : p.sql =
    if columns = [] then "" else
      "update " ++ t.quotedName d ++ " set " ++ ", ".intercalate (d.equations 0 (columns.map t.assignment)) ++
        " where " ++ " and ".intercalate (d.equations columns.length (t.keyTerms true)) ++ d.terminator
  sources : p.sources =
    if columns = [] then [] else columns.map (fun c => (t.assignment c).2) ++ (t.keyTerms true).map (·.2)

namespace RecordType

variable {R : RecordType} {t : Table} {c : Column} {accepts : Column → Bool}

theorem Sound.place_unique (sound : R.Sound t) {i j : Nat} (here : t.columns[i]? = some c)
    (there : t.columns[j]? = some c) (stored : c.isTransient = false) : i = j := by
  have distinct : ((t.columns.zipIdx.filter fun place => !place.1.isTransient).map Prod.fst).Nodup := by
    have columns : (t.columns.zipIdx.map Prod.fst).filter (!·.isTransient) = t.storedColumns := by
      rw [List.zipIdx_map_fst]
      rfl
    rw [List.filter_map] at columns
    rw [show (t.columns.zipIdx.filter fun place => !place.1.isTransient).map Prod.fst = t.storedColumns from columns]
    exact sound.storedColumns_nodup
  have member {k : Nat} (place : t.columns[k]? = some c) :
      (c, k) ∈ t.columns.zipIdx.filter fun place => !place.1.isTransient :=
    List.mem_filter.mpr ⟨List.mem_zipIdx_iff_getElem?.mpr place, by rw [stored]; rfl⟩
  exact congrArg Prod.snd (List.inj_on_of_nodup_map distinct (member here) (member there) rfl)

theorem Sound.mem_keyColumns_iff (sound : R.Sound t) (member : c ∈ t.columns) :
    c ∈ t.keyColumns ↔ c.primaryKey = true := by
  refine ⟨sound.primaryKey_of_mem_keyColumns, fun key => ?_⟩
  obtain ⟨i, here⟩ := List.mem_iff_getElem?.mp member
  exact List.mem_filterMap.mpr ⟨i, (sound.columns i c here).primaryKey.mp key, here⟩

theorem Sound.version_iff (sound : R.Sound t) {i : Nat} (here : t.columns[i]? = some c)
    (stored : c.isTransient = false) : t.version = some i ↔ t.versionColumn? = some c := by
  rw [Table.versionColumn?_eq_some]
  constructor
  · intro place
    exact ⟨i, place, here⟩
  · rintro ⟨j, place, there⟩
    rw [place, sound.place_unique there here stored]

theorem filterMap_zipIdx {α : Type} {term? : Column × Nat → Option α} {listed : Column → Bool} {shown : Column → α}
    {columns : List Column}
    (own : ∀ c i, columns[i]? = some c → term? (c, i) = if listed c then some (shown c) else none) :
    columns.zipIdx.filterMap term? = (columns.filter listed).map shown := by
  calc columns.zipIdx.filterMap term?
    _ = columns.zipIdx.filterMap ((fun c => if listed c then some (shown c) else none) ∘ Prod.fst) :=
      List.filterMap_congr fun ⟨c, i⟩ member => own c i (List.mem_zipIdx_iff_getElem?.mp member)
    _ = columns.filterMap fun c => if listed c then some (shown c) else none := by
      rw [← List.filterMap_map, List.zipIdx_map_fst]
    _ = (columns.filter listed).map shown := by rw [← List.filterMap_eq_map, List.filterMap_filter]; rfl

/-- The terms of an update are those of the columns that it can set, without the rejected ones. -/
theorem Sound.updateTerms_eq (sound : R.Sound t) :
    t.updateTerms accepts = (t.settable.filter (t.passes accepts)).map t.assignment := by
  have columns : t.settable.filter (t.passes accepts) =
      t.columns.filter fun c => t.passes accepts c && decide (c ∉ t.keyColumns) && !c.isTransient := by
    rw [Table.settable, Table.storedColumns, List.filter_filter, List.filter_filter]
  rw [columns]
  refine filterMap_zipIdx fun c i here => ?_
  have key := sound.mem_keyColumns_iff (List.mem_of_getElem? here)
  cases hidden : c.isTransient with
  | true => simp [hidden]
  | false =>
    have version := sound.version_iff here hidden
    cases marked : c.primaryKey with
    | true => simp [hidden, key, marked]
    | false => simp [hidden, key, marked, version, Table.passes, Table.assignment, Table.storedSource]

theorem filter_passes_all : t.settable.filter (t.passes fun _ => true) = t.settable :=
  List.filter_eq_self.mpr fun _ _ => Bool.or_true _

theorem Sound.update_sets (sound : R.Sound t) (d : Dialect) (accepts : Column → Bool) :
    (Plan.update t d accepts).Sets t d (t.settable.filter (t.passes accepts)) := by
  have terms : t.updateTerms accepts = _ := sound.updateTerms_eq
  by_cases none : t.settable.filter (t.passes accepts) = []
  · rw [none] at terms ⊢
    refine ⟨?_, ?_⟩ <;> simp [Plan.update, terms]
  · have some : t.updateTerms accepts ≠ [] := by
      rw [terms]
      simpa using none
    refine ⟨?_, ?_⟩
    · rw [if_neg none, Plan.update_sql some, terms, List.length_map]
    · rw [if_neg none, Plan.update_sources some, terms, List.map_map]
      rfl

theorem Sound.version_left (sound : R.Sound t) (versioned : t.StoresVersion c) :
    c ∈ t.settable.filter (t.passes accepts) := by
  have notKey : c ∉ t.keyColumns := fun key => by
    have marked := sound.primaryKey_of_mem_keyColumns key
    rw [versioned.notKey] at marked
    cases marked
  refine List.mem_filter.mpr ⟨List.mem_filter.mpr ⟨versioned.mem_storedColumns, decide_eq_true notKey⟩, ?_⟩
  simp [Table.passes, versioned.version]

end RecordType

theorem Plan.Sets.empty_iff {p : Plan} {t : Table} {d : Dialect} {columns : List Column} (sets : p.Sets t d columns) :
    (p.sql = "" ↔ columns = []) ∧ (p.sources = [] ↔ columns = []) := by
  rw [sets.sql, sets.sources]
  by_cases none : columns = []
  · simp [none]
  · rw [if_neg none, if_neg none]
    constructor
    · refine ⟨fun empty => ?_, fun nothing => absurd nothing none⟩
      have letters := congrArg String.toList empty
      simp at letters
    · refine ⟨fun empty => ?_, fun nothing => absurd nothing none⟩
      exact absurd (List.map_eq_nil_iff.mp (List.append_eq_nil_iff.mp empty).1) none

namespace Mapper

variable {B : Backend} {m : Mapper B} {R : RecordType} {t : Table}

/-- The kept plan of full updates is the one that is built for the table as it is. -/
theorem Reached.run_updatePlan (reached : Reached m) (registered : m.context.table? R.typeName = some t)
    (via : Executor B) :
    ∃ kept : Mapper B, m.run via (R.writePlan m.context t (.update none)) =
      (.ok (.ok (.update t m.dialect fun _ => true)), kept) := by
  rw [m.context_table?] at registered
  obtain ⟨entry, found, rfl⟩ := Option.map_eq_some_iff.mp registered
  obtain ⟨registry, handed, _⟩ := reached.coherent.plan_ok .update found
  refine ⟨{ m with registry }, ?_⟩
  simp only [RecordType.writePlan, Attempt.plan, run, handed]
  rfl

/-- An update for a filter sets what the full update sets, without the columns that the filter rejects. The version is
set in any case, and keys and transient columns are not. A plan is empty exactly if nothing is left to set, and a filter
that accepts all gives the plan of the full update. -/
theorem Reached.filtered_update (reached : Reached m) (registered : m.context.table? R.typeName = some t)
    (maps : R.Maps t) (via : Executor B) (accepts : Column → Bool) :
    ∃ (full filtered : Plan) (kept : Mapper B),
      m.run via (R.writePlan m.context t (.update none)) = (.ok (.ok full), kept) ∧
      m.run via (R.writePlan m.context t (.update (some accepts))) = (.ok (.ok filtered), m) ∧
      full.Sets t m.dialect t.settable ∧
      filtered.Sets t m.dialect (t.settable.filter (t.passes accepts)) ∧
      (∀ c ∈ t.settable, c.isTransient = false ∧ c ∉ t.keyColumns) ∧
      (∀ c, t.StoresVersion c → c ∈ t.settable.filter (t.passes accepts)) ∧
      (filtered.sql = "" ↔ ∀ c ∈ t.settable, t.passes accepts c = false) ∧
      (filtered.sources = [] ↔ ∀ c ∈ t.settable, t.passes accepts c = false) ∧
      ((∀ c ∈ t.settable, t.passes accepts c = true) → filtered = full) := by
  obtain ⟨kept, ran⟩ := reached.run_updatePlan registered via
  have sets := maps.sound.update_sets m.dialect accepts
  have setsAll := maps.sound.update_sets m.dialect fun _ => true
  rw [RecordType.filter_passes_all] at setsAll
  have nothing : t.settable.filter (t.passes accepts) = [] ↔ ∀ c ∈ t.settable, t.passes accepts c = false := by
    simp [List.filter_eq_nil_iff]
  refine ⟨_, .update t m.dialect accepts, kept, ran, rfl, setsAll, sets, ?_, ?_, ?_, ?_, ?_⟩
  · intro c member
    obtain ⟨stored, notKey⟩ := List.mem_filter.mp member
    exact ⟨by simpa using (List.mem_filter.mp stored).2, of_decide_eq_true notKey⟩
  · exact fun c versioned => maps.sound.version_left versioned
  · exact sets.empty_iff.1.trans nothing
  · exact sets.empty_iff.2.trans nothing
  · intro all
    have same : t.updateTerms accepts = t.updateTerms fun _ => true := by
      rw [maps.sound.updateTerms_eq, maps.sound.updateTerms_eq, RecordType.filter_passes_all,
        List.filter_eq_self.mpr all]
    unfold Plan.update
    rw [same]

end Mapper

theorem eventType_maps_movedEvents : eventType.Maps movedEvents := by
  have change : events.change (.column "at" [.rename "moment"]) =
      .ok { table := movedEvents, column := movedEvents.columns[1]? } := rfl
  exact eventType_maps.changed change

/-- Without the moment, an update of an event sets its version alone. -/
theorem moved_event_filtered_update :
    ∃ (full filtered : Plan) (kept : Mapper Backend.scripted),
      movedEventMapper.run .mapper (eventType.writePlan movedEventMapper.context movedEvents (.update none)) =
        (.ok (.ok full), kept) ∧
      movedEventMapper.run .mapper
          (eventType.writePlan movedEventMapper.context movedEvents (.update (some (·.name != "moment")))) =
        (.ok (.ok filtered), movedEventMapper) ∧
      full.sql = "update \"events\" set \"moment\"=?, \"version\"=? where \"id\"=? and \"version\"=?;" ∧
      filtered.sql = "update \"events\" set \"version\"=? where \"id\"=? and \"version\"=?;" ∧
      filtered.sources.length = 3 := by
  obtain ⟨full, filtered, kept, ran, ranFiltered, sets, setsLeft, _⟩ :=
    movedEventMapper_reached.filtered_update (R := eventType) (t := movedEvents) rfl eventType_maps_movedEvents .mapper
      (·.name != "moment")
  refine ⟨full, filtered, kept, ran, ranFiltered, sets.sql.trans ?_, setsLeft.sql.trans ?_, ?_⟩
  · decide +kernel
  · decide +kernel
  · rw [setsLeft.sources]
    decide +kernel

end RowMapper
