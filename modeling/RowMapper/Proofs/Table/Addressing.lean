import RowMapper.Proofs.Table.Configuration

/-!
# Addressing columns

A name stands for the first column, in table order, that answers to it, and every call that takes names of columns means
that one. So the path of a column stands for it unless a column before it answers to that text, which a transient field
or a column of that name can.
-/

namespace RowMapper

namespace Table

variable {t : Table} {name : String} {i : Nat} {c : Column}

/-- The column that a name stands for, in each call that takes names of columns. -/
structure Addresses (t : Table) (name : String) (i : Nat) (c : Column) : Prop where
  here : t.columns[i]? = some c
  answers : c.answersTo name = true
  column : t.column name = .ok c
  setColumn : ∀ settings, t.setColumn name settings = (c.setAll settings).map fun new =>
    { table := { t with columns := t.columns.set i new }, column := some new }
  setVersion : ∀ settings, t.setVersion name settings = (c.setAll settings).map fun new =>
    { table := { t with version := some i, columns := t.columns.set i new }, column := some new }
  setKeys : ∀ autoIncrement fields, (autoIncrement = true → fields.length = 1) →
    (∀ field ∈ fields, ∃ d ∈ t.columns, d.answersTo field = true) →
    ∃ places, t.setKeys autoIncrement fields = .ok (t.keyed autoIncrement places) ∧ places.length = fields.length ∧
      ∀ k : Nat, fields[k]? = some name → places[k]? = some i
  setUniqueTogether : ∀ fields, 2 ≤ fields.length → (∀ field ∈ fields, ∃ d ∈ t.columns, d.answersTo field = true) →
    ∃ names, t.setUniqueTogether fields =
        .ok (if t.uniqueTogether.contains names then t else { t with uniqueTogether := t.uniqueTogether ++ [names] }) ∧
      names.length = fields.length ∧ ∀ k : Nat, fields[k]? = some name → names[k]? = some c.name
  addIndex : ∀ index method fields unique, (∀ field ∈ fields, ∃ d ∈ t.columns, d.answersTo field = true) →
    ∃ names, t.addIndex index method fields unique =
        .ok { table := { t with indexes := t.indexes ++ [⟨index, method, names, unique⟩] }
              index := some ⟨index, method, names, unique⟩ } ∧
      names.length = fields.length ∧ ∀ k : Nat, fields[k]? = some name → names[k]? = some c.name

/-- The place that a name stands for has a column that answers to it, and no column before that does. -/
theorem place_eq_ok_iff :
    t.place name = .ok i ↔ ∃ c, t.columns[i]? = some c ∧ c.answersTo name = true ∧
      ∀ d ∈ t.columns.take i, d.answersTo name = false := by
  rw [place_eq_ok, List.findIdx?_eq_some_iff_getElem]
  constructor
  · rintro ⟨inRange, answers, before⟩
    refine ⟨t.columns[i], List.getElem?_eq_getElem inRange, answers, fun d member => ?_⟩
    obtain ⟨j, isBefore, rfl⟩ := List.mem_take_iff_getElem.mp member
    simpa using before j (by omega)
  · rintro ⟨c, here, answers, before⟩
    obtain ⟨inRange, rfl⟩ := List.getElem?_eq_some_iff.mp here
    refine ⟨inRange, answers, fun j isBefore => ?_⟩
    simpa using before _ (List.mem_take_iff_getElem.mpr ⟨j, by omega, rfl⟩)

theorem exists_place (known : ∃ d ∈ t.columns, d.answersTo name = true) : ∃ i, t.place name = .ok i := by
  obtain ⟨d, member, answers⟩ := known
  cases found : t.columns.findIdx? (·.answersTo name) with
  | some i => exact ⟨i, place_eq_ok.mpr found⟩
  | none => exact absurd answers (by simpa using List.findIdx?_eq_none_iff.mp found d member)

theorem exists_places {fields : List String} (known : ∀ field ∈ fields, ∃ d ∈ t.columns, d.answersTo field = true) :
    ∃ places, fields.mapM t.place = .ok places := by
  induction fields with
  | nil => exact ⟨[], rfl⟩
  | cons field rest ih =>
    obtain ⟨first, others⟩ := List.forall_mem_cons.mp known
    obtain ⟨i, placed⟩ := exists_place first
    obtain ⟨places, later⟩ := ih others
    refine ⟨i :: places, ?_⟩
    rw [List.mapM_cons, placed, later]
    rfl

theorem place_at {fields : List String} {places : List Nat} {k : Nat} (all : fields.mapM t.place = .ok places)
    (placed : t.place name = .ok i) (among : fields[k]? = some name) : places[k]? = some i := by
  have same := congrArg (·[k]?) (except_mapM_ok_iff.mp all)
  simp only [List.getElem?_map, among, Option.map_some, placed] at same
  obtain ⟨j, there, isPlace⟩ := Option.map_eq_some_iff.mp same.symm
  rw [there, Except.ok.inj isPlace]

theorem name_at {fields : List String} {places : List Nat} {k : Nat} (all : fields.mapM t.place = .ok places)
    (placed : t.place name = .ok i) (here : t.columns[i]? = some c) (among : fields[k]? = some name) :
    (t.namesAt places)[k]? = some c.name := by
  have same := congrArg (·[k]?) (map_nameAt (places_lt all))
  simp only [List.getElem?_map, place_at all placed among, Option.map_some, nameAt, here] at same
  obtain ⟨n, there, isName⟩ := Option.map_eq_some_iff.mp same.symm
  rw [there, Option.some.inj isName]

theorem addresses_of_place (placed : t.place name = .ok i) (here : t.columns[i]? = some c) : t.Addresses name i c where
  here := here
  answers := by
    obtain ⟨d, there, answers, _⟩ := place_eq_ok_iff.mp placed
    rw [here] at there
    cases there
    exact answers
  column := column_of_place placed here
  setColumn := setColumn_eq placed here
  setVersion := setVersion_eq placed here
  setKeys autoIncrement fields alone known := by
    obtain ⟨places, all⟩ := exists_places known
    exact ⟨places, setKeys_eq alone all, except_mapM_length all, fun k => place_at all placed⟩
  setUniqueTogether fields enough known := by
    obtain ⟨places, all⟩ := exists_places known
    refine ⟨t.namesAt places, ?_, length_namesAt all, fun k => name_at all placed here⟩
    rw [setUniqueTogether_eq enough all]
  addIndex index method fields unique known := by
    obtain ⟨places, all⟩ := exists_places known
    refine ⟨t.namesAt places, ?_, length_namesAt all, fun k => name_at all placed here⟩
    rw [addIndex_eq all]

end Table

namespace RecordType

variable {R : RecordType} {t : Table} {name : String} {schema : Option String} {l : List TableCall} {i j : Nat}
  {c d : Column}

theorem Sound.fieldName_ne (sound : R.Sound t) (here : t.columns[i]? = some c) (there : t.columns[j]? = some d)
    (apart : j ≠ i) (mapped : c.declaredTransient = false) (otherMapped : d.declaredTransient = false) :
    d.fieldName ≠ c.fieldName := by
  have distinct := sound.declaredNames_nodup
  unfold storedNames at distinct
  rw [List.filter_map, List.map_map, List.Nodup, List.pairwise_map, List.pairwise_filter,
    List.pairwise_iff_getElem] at distinct
  obtain ⟨inRange, rfl⟩ := List.getElem?_eq_some_iff.mp here
  obtain ⟨otherInRange, rfl⟩ := List.getElem?_eq_some_iff.mp there
  have shown : (!t.columns[i].declaredTransient) = true := by rw [mapped]; rfl
  have otherShown : (!t.columns[j].declaredTransient) = true := by rw [otherMapped]; rfl
  rcases Nat.lt_or_gt_of_ne apart with before | after
  · exact distinct j i otherInRange inRange before otherShown shown
  · exact (distinct i j inRange otherInRange after shown otherShown).symm

/-- The path of a column is the path or the field's name of no other column but a transient one. -/
theorem Sound.answersTo_path (sound : R.Sound t) (undotted : R.fields.Undotted) (here : t.columns[i]? = some c)
    (there : t.columns[j]? = some d) (apart : j ≠ i) (mapped : c.declaredTransient = false) :
    d.answersTo c.path = true ↔
      d.name = c.path ∨ d.declaredTransient = true ∧ (d.path = c.path ∨ d.fieldName = c.path) := by
  have either : d.answersTo c.path = true ↔ (d.path = c.path ∨ d.fieldName = c.path) ∨ d.name = c.path := by
    simp [Column.answersTo]
  rw [either, or_comm]
  apply or_congr_right
  refine ⟨fun alike => ⟨?_, alike⟩, And.right⟩
  by_contra shown
  have differs := sound.fieldName_ne here there apart mapped (Bool.eq_false_iff.mpr shown)
  have placed := sound.placed undotted (List.mem_of_getElem? here)
  have otherPlaced := sound.placed undotted (List.mem_of_getElem? there)
  rcases alike with samePath | asField
  · exact differs (otherPlaced.fieldName_eq placed samePath)
  · obtain ⟨_, parent, above, path⟩ := placed
    rcases above with rfl | ⟨start, rfl⟩
    · exact differs (asField.trans (path.trans String.empty_append))
    · apply otherPlaced.1
      rw [asField, path]
      simp

/-- A path stands for the first column that answers to it, at the place of its own column or before. That is its own
column unless one before it answers to the path, which takes that name or a transient field. -/
theorem addressed_by_path (configured : R.Configured name schema l t) (here : t.columns[i]? = some c)
    (mapped : c.declaredTransient = false) :
    ∃ first d, first ≤ i ∧ t.Addresses c.path first d ∧ (∀ e ∈ t.columns.take first, e.answersTo c.path = false) ∧
      (first = i ↔ ∀ e ∈ t.columns.take i, e.answersTo c.path = false) ∧
      (R.fields.Undotted → ∀ e ∈ t.columns.take i, (e.answersTo c.path = true ↔
        e.name = c.path ∨ e.declaredTransient = true ∧ (e.path = c.path ∨ e.fieldName = c.path))) := by
  have answers : c.answersTo c.path = true := by simp [Column.answersTo]
  obtain ⟨first, placed⟩ := Table.exists_place ⟨c, List.mem_of_getElem? here, answers⟩
  obtain ⟨d, there, _, before⟩ := Table.place_eq_ok_iff.mp placed
  refine ⟨first, d, ?_, Table.addresses_of_place placed there, before, ⟨?_, fun free => ?_⟩, ?_⟩
  · by_contra later
    have among : c ∈ t.columns.take first := by
      obtain ⟨inRange, rfl⟩ := List.getElem?_eq_some_iff.mp here
      exact List.mem_take_iff_getElem.mpr ⟨i, by omega, rfl⟩
    rw [before c among] at answers
    cases answers
  · rintro rfl
    exact before
  · have own : t.place c.path = .ok i := Table.place_eq_ok_iff.mpr ⟨c, here, answers, free⟩
    rw [placed] at own
    exact Except.ok.inj own
  · intro undotted e member
    obtain ⟨j, isBefore, rfl⟩ := List.mem_take_iff_getElem.mp member
    exact configured.maps.sound.answersTo_path undotted here (List.getElem?_eq_getElem (by omega)) (by omega) mapped

end RecordType

/-- The size of a shipment's box has its own path, whatever its column is called. -/
theorem shipment_size_by_path :
    shipmentType.Configured "shipments" none shipmentCalls shipments ∧
      ∃ size, shipments.columns[1]? = some size ∧ size.path = "box.size" ∧ size.name = "volume" ∧
        size.declaredTransient = false ∧ shipments.Addresses "box.size" 1 size := by
  have configured : shipmentType.Configured "shipments" none shipmentCalls shipments := rfl
  obtain ⟨first, size, _, addresses, _, own, _⟩ :=
    RecordType.addressed_by_path configured (i := 1) rfl (by decide)
  have isOwn : first = 1 := own.mpr (by decide)
  subst isOwn
  have here := addresses.here
  refine ⟨configured, size, here, ?_, ?_, ?_, addresses⟩
  all_goals
    cases here
    rfl

/-- The path of a shipment's number is the name of the code's column, and the path of its note is the name of a transient
field; both of these come first, so a key of either path is another column. -/
theorem shipment_paths_taken :
    shipmentType.Configured "shipments" none [] newShipments ∧
      ¬ (∀ c ∈ newShipments.columns, c.isTransient = false → newShipments.column c.path = .ok c) ∧
      newShipments.columns.map (fun c => (c.path, c.name, c.isTransient)) =
        [("code", "id", false), ("box.size", "size", false), ("box.note", "-", true), ("id", "number", false),
          ("note", "note", false), ("version", "version", false)] ∧
      (newShipments.column "id").map (·.path) = .ok "code" ∧
      (newShipments.setKeys false ["id"]).map (·.keys) = .ok [0] ∧
      (newShipments.column "note").map (·.path) = .ok "box.note" ∧
      (newShipments.setKeys false ["note"]).map (·.keys) = .ok [2] := by
  refine ⟨rfl, ?_, rfl, rfl, rfl, rfl, rfl⟩
  intro all
  have number := all (.ofColumn "id" (some "number") "id" .int64 false) (by decide) rfl
  have paths : (Except.ok "code" : Except Fault String) = .ok "id" := congrArg (·.map (·.path)) number
  exact absurd (Except.ok.inj paths) (by decide)

end RowMapper
