import Mathlib.Data.List.Nodup
import RowMapper.Proofs.Table.Calls
import RowMapper.Proofs.Table.Flatten
import RowMapper.Record.Basic

/-!
# Tables of record types

Registration makes a table for a record type, and configuration changes it. What both keep: the fields behind the
columns, that transient fields have no columns in statements, and that columns know whether they are keys.
-/

namespace RowMapper

/-- What registration and configuration make of a record type. -/
inductive RecordType.Maps (R : RecordType) : Table → Prop where
  | registered (name : String) (schema : Option String) : Maps R (.ofFields R.typeName name schema R.fields)
  | renamed {t : Table} (name : String) (schema : Option String) (maps : Maps R t) : Maps R { t with name, schema }
  | changed {t : Table} {c : TableChange} {result : ChangedTable} (maps : Maps R t)
      (change : t.change c = .ok result) : Maps R result.table
  | indexRemoved {t : Table} (name : String) (maps : Maps R t) : Maps R (t.removeIndex name)

/-- A column as it is before any setting, its tag aside. -/
def Column.origin (c : Column) : Column :=
  { c with
    name := c.fieldName
    isTransient := c.declaredTransient
    unique := false
    notNull := false
    maxSize := 0
    primaryKey := false
    autoIncrement := false }

structure Column.Sound (keys : List Nat) (i : Nat) (c : Column) : Prop where
  transient : c.declaredTransient = true → c.isTransient = true
  primaryKey : c.primaryKey = true ↔ i ∈ keys
  /-- A key that the database generates is the only one. -/
  autoIncrement : c.autoIncrement = true → keys = [i]

structure RecordType.Sound (R : RecordType) (t : Table) : Prop where
  typeName : t.typeName = R.typeName
  origins : ∀ i : Nat, t.columns[i]?.map Column.origin = R.fields.columns[i]?.map Column.origin
  columns : ∀ (i : Nat) (c : Column), t.columns[i]? = some c → c.Sound t.keys i

namespace Column

variable {c d : Column} {keys : List Nat} {i : Nat}

theorem set_ok {setting : ColumnSetting} (h : c.set setting = .ok d) :
    d.origin = c.origin ∧ (c.Sound keys i → d.Sound keys i) := by
  cases setting with
  | transient on =>
    simp only [set] at h
    split at h
    · cases h
    · rename_i allowed
      cases h
      refine ⟨rfl, fun sound => ⟨fun declared => ?_, sound.primaryKey, sound.autoIncrement⟩⟩
      simpa [show c.declaredTransient = true from declared] using allowed
  | rename name | unique on | notNull on | maxSize n =>
    cases h
    exact ⟨rfl, fun sound => ⟨sound.transient, sound.primaryKey, sound.autoIncrement⟩⟩

theorem setAll_ok {settings : List ColumnSetting} (h : c.setAll settings = .ok d) :
    d.origin = c.origin ∧ (c.Sound keys i → d.Sound keys i) := by
  induction settings generalizing c with
  | nil =>
    cases h
    exact ⟨rfl, id⟩
  | cons setting rest ih =>
    obtain ⟨mid, first, others⟩ := except_bind_ok h
    obtain ⟨sameFirst, keepsFirst⟩ : mid.origin = c.origin ∧ (Sound keys i c → Sound keys i mid) := set_ok first
    obtain ⟨same, keeps⟩ := ih others
    exact ⟨same.trans sameFirst, fun sound => keeps (keepsFirst sound)⟩

end Column

namespace RecordType

variable {R : RecordType} {t : Table}

theorem Sound.ofFields (name : String) (schema : Option String) :
    R.Sound (.ofFields R.typeName name schema R.fields) where
  typeName := rfl
  origins _ := rfl
  columns i c found := by
    have unset := R.fields.columns_unset c (List.mem_of_getElem? found)
    refine ⟨fun declared => unset.transient.trans declared, ?_, ?_⟩
    · simp [unset.primaryKey, Table.ofFields]
    · simp [unset.autoIncrement]

theorem Sound.setColumn (sound : R.Sound t) {i : Nat} {old new : Column} {settings : List ColumnSetting}
    (here : t.columns[i]? = some old) (set : old.setAll settings = .ok new) :
    R.Sound { t with columns := t.columns.set i new } := by
  have inRange : i < t.columns.length := (List.getElem?_eq_some_iff.mp here).1
  have atPlace : (t.columns.set i new)[i]? = some new := by rw [List.getElem?_set_self', here]; rfl
  obtain ⟨keptOrigin, keptSound⟩ : new.origin = old.origin ∧ (old.Sound t.keys i → new.Sound t.keys i) :=
    Column.setAll_ok set
  refine ⟨sound.typeName, fun j => ?_, fun j c there => ?_⟩
  · show (t.columns.set i new)[j]?.map Column.origin = _
    rw [← sound.origins j]
    by_cases same : i = j
    · subst same
      rw [atPlace, here, Option.map_some, Option.map_some, keptOrigin]
    · rw [List.getElem?_set_ne same]
  · replace there : (t.columns.set i new)[j]? = some c := there
    by_cases same : i = j
    · subst same
      rw [atPlace] at there
      cases there
      exact keptSound (sound.columns i old here)
    · rw [List.getElem?_set_ne same] at there
      exact sound.columns j c there

theorem Sound.keyed (sound : R.Sound t) {autoIncrement : Bool} {fields : List String} {places : List Nat}
    (alone : autoIncrement = true → fields.length = 1) (placed : fields.mapM t.place = .ok places) :
    R.Sound (t.keyed autoIncrement places) := by
  refine ⟨sound.typeName, fun j => ?_, fun j c there => ?_⟩
  · rw [← sound.origins j]
    simp only [Table.keyed, List.getElem?_mapIdx, Option.map_map]
    rfl
  · simp only [Table.keyed, List.getElem?_mapIdx, Option.map_eq_some_iff] at there
    obtain ⟨old, here, rfl⟩ := there
    refine ⟨(sound.columns j old here).transient, List.contains_iff_mem, fun auto => ?_⟩
    simp only [Bool.and_eq_true, List.contains_iff_mem] at auto
    obtain ⟨place, only⟩ := List.length_eq_one_iff.mp ((except_mapM_length placed).trans (alone auto.1))
    rw [only, List.mem_singleton] at auto
    show places = [j]
    rw [only, auto.2]

theorem Sound.becomes {c : TableCall} {after : Table} (sound : R.Sound t) (becomes : t.Becomes c after) :
    R.Sound after := by
  cases becomes with
  | keys alone placed => exact sound.keyed alone placed
  | version placed here set =>
    have changed := sound.setColumn here set
    exact ⟨changed.typeName, changed.origins, changed.columns⟩
  | column placed here set => exact sound.setColumn here set
  | group | groupAgain | noVersion | index | rename | removeIndex =>
    exact ⟨sound.typeName, sound.origins, sound.columns⟩

/-- Whatever the configuration, a table keeps the fields of its type and agrees with itself on its keys. -/
theorem Maps.sound (maps : R.Maps t) : R.Sound t := by
  induction maps with
  | registered name schema => exact .ofFields name schema
  | renamed name schema _ sound => exact sound.becomes (.rename schema name)
  | changed _ change sound => exact sound.becomes (Table.becomes_of_change change)
  | indexRemoved name _ sound => exact sound.becomes (.removeIndex name)

theorem Sound.map_origin (sound : R.Sound t) : t.columns.map Column.origin = R.fields.columns.map Column.origin := by
  apply List.ext_getElem?
  intro i
  rw [List.getElem?_map, List.getElem?_map]
  exact sound.origins i

theorem Sound.placed (sound : R.Sound t) (undotted : R.fields.Undotted) {c : Column} (member : c ∈ t.columns) :
    c.Placed := by
  have there : c.origin ∈ R.fields.columns.map Column.origin :=
    sound.map_origin ▸ List.mem_map_of_mem member
  obtain ⟨d, inFields, same⟩ := List.mem_map.mp there
  have placed : d.origin.Placed := Fields.columns_placed undotted d inFields
  rw [same] at placed
  exact placed

theorem Sound.transient (sound : R.Sound t) {c : Column} (member : c ∈ t.columns) (declared : c.declaredTransient = true) :
    c.isTransient = true := by
  obtain ⟨i, here⟩ := List.mem_iff_getElem?.mp member
  exact (sound.columns i c here).transient declared

/-- The fields that are not transient keep their names, whatever is hidden from statements. -/
theorem Sound.declaredNames_nodup (sound : R.Sound t) : (storedNames (t.columns.map Column.origin)).Nodup := by
  have declared : storedNames (t.columns.map Column.origin) = storedNames R.fields.columns := by
    rw [sound.map_origin]
    unfold storedNames
    rw [List.filter_map, List.map_map]
    congr 1
    apply List.filter_congr
    intro c member
    exact congrArg (!·) (R.fields.columns_unset c member).transient.symm
  rw [declared]
  exact R.fields.columns_nodup

theorem Sound.storedNames_nodup (sound : R.Sound t) : (storedNames t.columns).Nodup := by
  -- Configuration can hide columns but show none that its field hides, so stored names are among the declared ones.
  have narrowed : t.columns.filter (!·.isTransient) =
      (t.columns.filter (!·.declaredTransient)).filter (!·.isTransient) := by
    rw [List.filter_filter]
    apply List.filter_congr
    intro c member
    cases marked : c.declaredTransient with
    | false => exact (Bool.and_true _).symm
    | true => rw [sound.transient member marked]; rfl
  have sub : (storedNames t.columns).Sublist (storedNames (t.columns.map Column.origin)) := by
    unfold storedNames
    rw [List.filter_map, List.map_map, narrowed]
    exact List.filter_sublist.map _
  exact sound.declaredNames_nodup.sublist sub

theorem Sound.storedColumns_inj (sound : R.Sound t) (undotted : R.fields.Undotted) {c d : Column}
    (hc : c ∈ t.storedColumns) (hd : d ∈ t.storedColumns) (same : c.path = d.path) : c = d := by
  have placed : ∀ e ∈ t.storedColumns, e.Placed := fun e member =>
    sound.placed undotted (List.mem_filter.mp member).1
  exact List.inj_on_of_nodup_map sound.storedNames_nodup hc hd ((placed c hc).fieldName_eq (placed d hd) same)

theorem Sound.storedColumns_nodup (sound : R.Sound t) : t.storedColumns.Nodup :=
  List.Nodup.of_map _ sound.storedNames_nodup

theorem Sound.storedPaths_nodup (sound : R.Sound t) (undotted : R.fields.Undotted) :
    (t.storedColumns.map (·.path)).Nodup :=
  List.Nodup.map_on (fun _ hc _ hd => sound.storedColumns_inj undotted hc hd) sound.storedColumns_nodup

theorem Sound.primaryKey_of_mem_keyColumns (sound : R.Sound t) {c : Column} (member : c ∈ t.keyColumns) :
    c.primaryKey = true := by
  obtain ⟨i, listed, here⟩ := List.mem_filterMap.mp member
  exact (sound.columns i c here).primaryKey.mpr listed

end RecordType

/-- Events with a key, the moment that they happened at, and a version. -/
def eventType : RecordType where
  typeName := "Event"
  recordName := "Event"
  tableName := "events"
  fields := .column "id" none (.int .i64) (.column "at" none .instant (.column "version" none (.int .i64) .nil))

def events : Table :=
  ((Table.ofFields "Event" "events" none eventType.fields).setKeys false ["id"]).toOption.getD
    (.ofFields "Event" "events" none eventType.fields)

theorem eventType_maps : eventType.Maps events := by
  have registered : eventType.Maps (Table.ofFields "Event" "events" none eventType.fields) := .registered "events" none
  have change : (Table.ofFields "Event" "events" none eventType.fields).change (.keys false ["id"]) =
      .ok { table := events } := rfl
  exact registered.changed change

theorem eventType_undotted : eventType.fields.Undotted := by
  refine ⟨?_, ?_, ?_, trivial⟩ <;> decide

def event (nanos : Int) (version : Int64) : eventType.Values :=
  (⟨5, by decide, by decide⟩, ⟨nanos⟩, ⟨version.toInt, version.le_toInt, version.toInt_le⟩, ())

def eventContext : Context := { dialect := .sqlite "" false, converter := {}, tables := [events] }

def eventVersion : Column :=
  { name := "version", fieldName := "version", path := "version", type := .int64, nullable := false,
    declaredTransient := false, isTransient := false, unique := false, notNull := false, maxSize := 0,
    primaryKey := false, autoIncrement := false }

theorem events_versionColumn : events.versionColumn? = some eventVersion := rfl

end RowMapper
