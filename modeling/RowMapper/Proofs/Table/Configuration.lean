import RowMapper.Proofs.Table.Mapping

/-!
# Configured tables

What calls in order make of a table. Each call that is not refused does one thing to it, so whatever a table keeps under
each call it has after any number of them: its keys and its version are columns, columns know whether they are keys, a
transient field stays transient, and the columns are those of the fields.
-/

namespace RowMapper

namespace Table

variable {t after : Table}

/-- Keys and the version are columns, and groups are no single columns and are there once. -/
structure Closed (t : Table) : Prop where
  keys : ∀ i ∈ t.keys, i < t.columns.length
  version : ∀ i, t.version = some i → i < t.columns.length
  groups : ∀ group ∈ t.uniqueTogether, 2 ≤ group.length
  groupsOnce : t.uniqueTogether.Nodup

theorem Closed.becomes {c : TableCall} (closed : t.Closed) (becomes : t.Becomes c after) : after.Closed := by
  have sameLength := becomes.columns_length
  have keptKeys : ∀ i ∈ t.keys, i < after.columns.length := by
    intro i member
    rw [sameLength]
    exact closed.keys i member
  have keptVersion : ∀ i, t.version = some i → i < after.columns.length := by
    intro i isVersion
    rw [sameLength]
    exact closed.version i isVersion
  cases becomes with
  | keys alone placed =>
    refine ⟨fun i member => ?_, keptVersion, closed.groups, closed.groupsOnce⟩
    rw [sameLength]
    exact places_lt placed i member
  | group enough placed fresh =>
    refine ⟨closed.keys, closed.version, fun names member => ?_, ?_⟩
    · rcases List.mem_append.mp member with old | new
      · exact closed.groups names old
      · rw [List.mem_singleton.mp new, length_namesAt placed]
        exact enough
    · refine List.nodup_append.mpr ⟨closed.groupsOnce, List.pairwise_singleton _ _, ?_⟩
      rintro old isOld new isNew rfl
      rw [List.mem_singleton.mp isNew] at isOld
      exact fresh isOld
  | version placed here set =>
    refine ⟨keptKeys, fun _ isVersion => ?_, closed.groups, closed.groupsOnce⟩
    cases isVersion
    rw [sameLength]
    exact place_lt placed
  | noVersion => exact ⟨closed.keys, nofun, closed.groups, closed.groupsOnce⟩
  | column placed here set => exact ⟨keptKeys, keptVersion, closed.groups, closed.groupsOnce⟩
  | groupAgain enough placed known => exact closed
  | index | rename | removeIndex => exact ⟨closed.keys, closed.version, closed.groups, closed.groupsOnce⟩

theorem closed_ofFields (typeName name : String) (schema : Option String) (fields : Fields) :
    (ofFields typeName name schema fields).Closed where
  keys := List.forall_mem_nil _
  version _ isVersion := (List.findIdx?_eq_some_iff_getElem.mp isVersion).1
  groups := List.forall_mem_nil _
  groupsOnce := List.nodup_nil

end Table

namespace RecordType

variable {R : RecordType} {t after : Table} {name : String} {schema : Option String} {l : List TableCall}

theorem Maps.call {c : TableCall} (maps : R.Maps t) (done : t.call c = .ok after) : R.Maps after := by
  cases c with
  | change c =>
    obtain ⟨result, changed, rfl⟩ := except_map_ok done
    exact maps.changed changed
  | rename schema name =>
    cases done
    exact maps.renamed name schema
  | removeIndex index =>
    cases done
    exact maps.indexRemoved index

/-- The table that calls make of a new one for a record type. -/
def Configured (R : RecordType) (name : String) (schema : Option String) (l : List TableCall) (t : Table) : Prop :=
  (Table.ofFields R.typeName name schema R.fields).calls l = .ok t

theorem Configured.maps (configured : R.Configured name schema l t) : R.Maps t :=
  Table.calls_keep (P := R.Maps) (fun _ _ => Maps.call) (.registered name schema) configured

theorem Configured.closed (configured : R.Configured name schema l t) : t.Closed :=
  Table.calls_keep (fun _ _ _ _ closed done => closed.becomes (Table.becomes_of_call done))
    (Table.closed_ofFields R.typeName name schema R.fields) configured

/-- What each table of a record type has, however it was configured. -/
structure Consistent (R : RecordType) (t : Table) : Prop where
  /-- A column is marked as key if it is in the key. -/
  primaryKey : ∀ (i : Nat) (c : Column), t.columns[i]? = some c → (c.primaryKey = true ↔ i ∈ t.keys)
  /-- A generated column is the whole key. -/
  autoIncrement : ∀ (i : Nat) (c : Column), t.columns[i]? = some c → c.autoIncrement = true → t.keys = [i]
  keys : ∀ i ∈ t.keys, i < t.columns.length
  version : ∀ i, t.version = some i → i < t.columns.length
  transient : ∀ (i : Nat) (declared c : Column), R.fields.columns[i]? = some declared → t.columns[i]? = some c →
    declared.isTransient = true → c.isTransient = true
  groups : ∀ group ∈ t.uniqueTogether, 2 ≤ group.length
  groupsOnce : t.uniqueTogether.Nodup
  columns : t.columns.map (fun c => (c.fieldName, c.path, c.type, c.nullable)) =
    R.fields.columns.map fun c => (c.fieldName, c.path, c.type, c.nullable)

/-- However a table of a record type was configured, it agrees with itself on its keys, its keys and its version are
columns, its groups are real and each is there once, and its columns are those of the fields, the transient ones still
transient. -/
theorem configured_consistent (configured : R.Configured name schema l t) : R.Consistent t := by
  have sound := configured.maps.sound
  have closed := configured.closed
  refine ⟨fun i c here => (sound.columns i c here).primaryKey, fun i c here => (sound.columns i c here).autoIncrement,
    closed.keys, closed.version, fun i declared c there here hidden => ?_, closed.groups, closed.groupsOnce, ?_⟩
  · apply (sound.columns i c here).transient
    have same := sound.origins i
    rw [here, there, Option.map_some, Option.map_some] at same
    have unset := R.fields.columns_unset declared (List.mem_of_getElem? there)
    exact (congrArg Column.declaredTransient (Option.some.inj same)).trans (unset.transient.symm.trans hidden)
  · have shown := congrArg (List.map fun c : Column => (c.fieldName, c.path, c.type, c.nullable)) sound.map_origin
    rw [List.map_map, List.map_map] at shown
    exact shown

end RecordType

/-- Shipments: the code is kept under a name that is also a field's, and the box has a note that is not kept. -/
def shipmentType : RecordType where
  typeName := "Shipment"
  recordName := "Shipment"
  tableName := "shipments"
  fields :=
    .column "code" (some "id") .text
      (.embedded "box" "Box" (.column "size" none (.int .i64) (.transient "note" .text .nil))
        (.column "id" (some "number") (.int .i64) (.column "note" none .text (.column "version" none (.int .i64) .nil))))

/-- Shipments with keys that are set twice, a group that is named twice, and all else that can be configured. -/
def shipmentCalls : List TableCall :=
  [.change (.keys true ["number"]), .change (.uniqueTogether ["code", "size"]),
    .change (.column "box.size" [.rename "volume", .notNull true]), .change (.uniqueTogether ["id", "volume"]),
    .change (.index "by_size" "btree" ["size"] true), .change (.keys false ["number", "volume"]),
    .change (.version "code" [.transient true]), .rename (some "depot") "boxes", .removeIndex "by_size",
    .change .noVersion, .change (.uniqueTogether ["code", "size"])]

def newShipments : Table := .ofFields "Shipment" "shipments" none shipmentType.fields

def shipments : Table := (newShipments.calls shipmentCalls).toOption.getD newShipments

theorem shipments_consistent :
    shipmentType.Configured "shipments" none shipmentCalls shipments ∧ shipments.keys = [3, 1] ∧
      shipments.uniqueTogether = [["id", "size"], ["id", "volume"]] ∧ shipmentType.Consistent shipments := by
  have configured : shipmentType.Configured "shipments" none shipmentCalls shipments := rfl
  exact ⟨configured, rfl, rfl, RecordType.configured_consistent configured⟩

end RowMapper
