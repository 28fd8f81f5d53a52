import RowMapper.Proofs.Concurrency.World
import RowMapper.Proofs.Crud.Get
import RowMapper.Proofs.Crud.Update
import RowMapper.Proofs.Crud.Version

/-!
# Copies of a row

A copy that was loaded from a row shows a version that the row has or had, and keys that the row has. From such a copy
an update is bound to what it finds in the row.
-/

namespace RowMapper

/-- A table with a stored 64-bit version and keys, used without hooks and converters on a backend that does what
statements say. -/
structure Setting (ctx : Context) (R : RecordType) (t : Table) (c : Column) {B : Backend} (view : RowView B) :
    Prop where
  registered : ctx.table? R.typeName = some t
  maps : R.Maps t
  undotted : R.fields.Undotted
  keyed : t.keys ≠ []
  versioned : t.StoresVersion c
  wide : ∃ p, R.place c.path = .ok p ∧ p.leaf.type = .int .i64
  noPreHook : R.hooks .preUpdate ctx = pure ()
  noPostHook : R.hooks .postUpdate ctx = pure ()
  noGetHook : R.hooks .postGet ctx = pure ()
  noConverter : ctx.converter = {}
  honest : view.Honest R t c ctx.dialect

/-- Whether the cells of the keys, once loaded, are bound as values that the database takes as equal. -/
def KeysReturn (R : RecordType) (t : Table) {B : Backend} (view : RowView B) (cells : Column → Value) : Prop :=
  ∀ k ∈ t.keyColumns, k.isTransient = false ∧
    ∀ p content, R.place k.path = .ok p → p.leaf.type.decode (cells k) = .ok content →
      ∃ y, p.leaf.type.encode content = .ok y ∧ view.same k (cells k) y = true

/-- A record that was loaded from a row with these cells, when the row had at most this version. -/
structure CopyOf (R : RecordType) (t : Table) {B : Backend} (view : RowView B) (cells : Column → Value)
    (version : Int64) (copy : R.Values) : Prop where
  version : ∃ n, R.localVersion t copy = .ok n ∧ 0 < n ∧ n ≤ version
  keys : ∀ k ∈ t.keyColumns, ∃ y, R.read k.path copy = .ok y ∧ view.same k (cells k) y = true

structure RowAt (t : Table) (c : Column) (start cells : Column → Value) (version : Int64) : Prop where
  version : cells c = .bigInt version
  keys : ∀ k ∈ t.keyColumns, cells k = start k

variable {ctx : Context} {R : RecordType} {t : Table} {c : Column} {B : Backend} {view : RowView B}
  {cells : Column → Value} {version n : Int64} {copy changed : R.Values} {log : List Exchange}

theorem CopyOf.mono {later : Int64} (loaded : CopyOf R t view cells version copy) (le : version ≤ later) :
    CopyOf R t view cells later copy := by
  obtain ⟨n, shown, positive, below⟩ := loaded.version
  exact ⟨⟨n, shown, positive, Int64.le_trans below le⟩, loaded.keys⟩

theorem CopyOf.edit (loaded : CopyOf R t view cells version copy) (same : World.SameIdentity R t copy changed) :
    CopyOf R t view cells version changed := by
  obtain ⟨n, shown, positive, below⟩ := loaded.version
  refine ⟨⟨n, same.version.trans shown, positive, below⟩, fun k member => ?_⟩
  rw [same.keys k member]
  exact loaded.keys k member

namespace Setting

variable (setting : Setting ctx R t c view)

include setting

theorem holds (n : Int64) : R.HoldsVersion c.path n := by
  obtain ⟨p, place, wide⟩ := setting.wide
  exact ⟨p, place, wide ▸ NativeType.int64_holds n⟩

theorem copyOf_loaded {stored : Column → Value} {row : Row} (returns : KeysReturn R t view cells)
    (held : RowAt t c cells stored version) (positive : 0 < version) (values : row.values = t.storedColumns.map stored)
    (loaded : R.loadByPlace ctx.converter t.storedColumns row.values R.fresh = (.ok (), copy)) :
    CopyOf R t view cells version copy := by
  rw [setting.noConverter, values] at loaded
  have shows := RecordType.loadByPlace_shows (setting.maps.sound.storedPaths_nodup setting.undotted) loaded
  refine ⟨⟨version, ?_, positive, Int64.le_refl version⟩, fun k member => ?_⟩
  · have shown := shows c setting.versioned.mem_storedColumns
    rw [held.version] at shown
    obtain ⟨p, content, place, decoded, read⟩ := shown.read
    obtain ⟨q, place', content', x, decoded', encoded, same⟩ := setting.holds version
    cases place.symm.trans place'
    cases decoded.symm.trans decoded'
    rw [RecordType.localVersion_of_column setting.versioned.version, read, encoded]
    show Except.ok (x.asInt?.getD 0) = _
    rw [same]
    rfl
  · obtain ⟨kept, back⟩ := returns k member
    obtain ⟨p, content, place, decoded, read⟩ := (shows k (Table.mem_storedColumns_of_key member kept)).read
    rw [held.keys k member] at decoded
    obtain ⟨y, encoded, same⟩ := back p content place decoded
    rw [encoded] at read
    exact ⟨y, read, same⟩

theorem path_ne_of_key {k : Column} (member : k ∈ t.keyColumns) (stored : k.isTransient = false) : k.path ≠ c.path := by
  intro same
  have equal := setting.maps.sound.storedColumns_inj setting.undotted (Table.mem_storedColumns_of_key member stored)
    setting.versioned.mem_storedColumns same
  have isKey := setting.maps.sound.primaryKey_of_mem_keyColumns member
  rw [equal, setting.versioned.notKey] at isKey
  cases isKey

theorem copyOf_stored (returns : KeysReturn R t view cells) (loaded : CopyOf R t view cells version copy)
    (positive : 0 < n) (below : n ≤ version) (wrote : R.storeVersion t n copy = (.ok (), changed)) :
    CopyOf R t view cells version changed := by
  refine ⟨⟨n, RecordType.localVersion_stored setting.versioned.version (setting.holds n) wrote, positive, below⟩,
    fun k member => ?_⟩
  rw [RecordType.storeVersion_of_column setting.versioned.version, RecordType.writeField_eq_ok] at wrote
  rw [RecordType.read_write_other wrote (setting.path_ne_of_key member (returns k member).1)]
  exact loaded.keys k member

end Setting

end RowMapper
