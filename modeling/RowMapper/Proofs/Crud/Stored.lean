import RowMapper.Proofs.Crud.Version
import RowMapper.Proofs.Field.RoundTrip
import RowMapper.Proofs.Sql.Listing

/-!
# Stored records

A database that stores what an insertion lists has a cell for each column of the record. The record that the insertion
leaves is what its cells are loaded to.
-/

namespace RowMapper

/-- Whether a value can be generated for a field: what the field then shows is the value, or the same integer. -/
def NativeType.Fits (type : NativeType) (x : Value) : Prop :=
  ∃ content y, type.decode x = .ok content ∧ type.encode content = .ok y ∧
    (y = x ∨ ∃ n, x.integer? = some n ∧ y.integer? = some n)

/-- How to look at the rows that a backend keeps in one table. A cell stands under the folded name of its column. -/
structure TableView (B : Backend) where
  holds : Option B.Handle → B.State → (String → Value) → Prop
  /-- Which values the backend takes as equal. -/
  same : Value → Value → Bool

/-- A row that an insertion has made. The columns that its text lists have its arguments, and an id that was generated
fits its field and is reported. -/
structure RecordType.MadeRow (R : RecordType) (t : Table) (d : Dialect) (x : Exchange) (row : String → Value) :
    Prop where
  listed : ∃ listed ending, (Plan.insert t d).sql = d.insertion (t.quotedName d) listed ++ ending ∧
    ∀ entry ∈ ((listed.filter (·.2)).map (·.1)).zip x.args, row entry.1 = entry.2
  reported : ∀ c ∈ t.storedColumns, c.autoIncrement = true → d.keyReport ≠ .notReported →
    ∀ key?, d.keyReport.Reports x key? → key? = some (row (d.fold c.name))
  fits : ∀ c ∈ t.storedColumns, c.autoIncrement = true →
    ∀ p, R.place c.path = .ok p → p.leaf.type.Fits (row (d.fold c.name))

/-- What a field shows for its cell: the value itself, the same integer, or the first version in another form. -/
inductive Table.ShownFor (t : Table) (c : Column) (x : Value) : Value → Prop where
  | itself : ShownFor t c x x
  | integer {y n} (stored : x.integer? = some n) (shown : y.integer? = some n) : ShownFor t c x y
  | first {y} (versioned : t.versionColumn? = some c) (stored : x = .bigInt 1)
    (shown : y = .bool true ∨ y = .timestamp 1) : ShownFor t c x y
  | float {y} (shown : y.isFloat = true) : ShownFor t c x y

namespace TableView

variable {B : Backend}

/-- A backend that stores what insertions list, keeps keys apart, and selects the rows with given keys. -/
structure Honest (view : TableView B) (R : RecordType) (t : Table) (d : Dialect) : Prop where
  same_self {x : Value} : x.isNull = false → x.isFloat = false → view.same x x = true
  same_integer {x y : Value} {n : Int64} : x.integer? = some n → y.integer? = some n → view.same x y = true
  /-- A version among the keys is found, also if its field is no integer. -/
  same_version : ∀ c ∈ t.keyColumns, t.versionColumn? = some c →
    view.same (.bigInt 1) (.bool true) = true ∧ view.same (.bigInt 1) (.timestamp 1) = true
  same_symm {x y : Value} : view.same x y = true → view.same y x = true
  same_trans {x y z : Value} : view.same x y = true → view.same y z = true → view.same x z = true
  insert {handle? : Option B.Handle} {before after : B.State} {x : Exchange} :
    B.Answers handle? before x after → x.refusal? = none → x.sql = (Plan.insert t d).sql →
      x.args.length = (Plan.insert t d).sources.length →
      ∃ row, R.MadeRow t d x row ∧
        (∀ other, view.holds handle? after other ↔ other = row ∨ view.holds handle? before other) ∧
        ∀ other, view.holds handle? before other →
          ∃ k ∈ t.keyColumns, view.same (other (d.fold k.name)) (row (d.fold k.name)) = false
  get {handle? : Option B.Handle} {before : B.State} {args : List Value} : args.length = t.keyColumns.length →
    ∃ found after, B.query handle? (Plan.get t d).sql args before = (.ok found, after) ∧
      (∀ row ∈ found, row.isAligned = true) ∧
      ∃ columns keys, (Plan.get t d).sql = d.selection (t.quotedName d) columns keys ++ d.terminator ∧
        ∀ values, values ∈ found.map (·.values) ↔ ∃ row, view.holds handle? before row ∧
          (∀ term ∈ keys.zip args, view.same (row term.1) term.2 = true) ∧ values = columns.map row

end TableView

namespace Table

variable {t : Table} {d : Dialect}

theorem listing_bound :
    ((t.listing d).filter (·.2)).map (·.1) = (t.boundTerms d).map fun term => d.fold term.1.name := by
  unfold listing boundTerms
  induction t.insertTerms d with
  | nil => rfl
  | cons term rest ih =>
    obtain ⟨c, _ | source⟩ := term
    all_goals simpa using ih

end Table

theorem exists_of_forall₂ {α β : Type} {P : α → β → Prop} {xs : List α} {ys : List β}
    (each : List.Forall₂ P xs ys) {x : α} (member : x ∈ xs) : ∃ y, (x, y) ∈ xs.zip ys ∧ P x y := by
  induction each with
  | nil => cases member
  | cons first _ ih =>
    rcases List.mem_cons.mp member with rfl | later
    · exact ⟨_, List.mem_cons_self, first⟩
    · obtain ⟨y, among, holds⟩ := ih later
      exact ⟨y, List.mem_cons_of_mem _ among, holds⟩

namespace RecordType

variable {R : RecordType} {ctx : Context} {t : Table} {d : Dialect} {c : Column} {x : Exchange} {row : String → Value}
  {before mid after final : R.Values} {log : List Exchange}

theorem MadeRow.cell (made : R.MadeRow t d x row) {P : Source → Value → Prop}
    (supplied : List.Forall₂ P (Plan.insert t d).sources x.args) {source : Source}
    (member : (c, source) ∈ t.boundTerms d) : P source (row (d.fold c.name)) := by
  obtain ⟨listed, ending, text, stored⟩ := made.listed
  obtain ⟨ending', text'⟩ := Plan.insert_text (t := t) (d := d)
  have same : listed = t.listing d := Dialect.insertion_unique (text.symm.trans text')
  subst same
  rw [Table.listing_bound] at stored
  rw [Plan.insert_sources, List.forall₂_map_left_iff] at supplied
  obtain ⟨y, among, holds⟩ := exists_of_forall₂ supplied member
  have entry : (d.fold c.name, y) ∈ ((t.boundTerms d).map fun term => d.fold term.1.name).zip x.args := by
    rw [List.zip_map_left, List.mem_map]
    exact ⟨((c, source), y), among, rfl⟩
  have stands : row (d.fold c.name) = y := stored _ entry
  rw [stands]
  exact holds

/-- What a value is loaded to in a field: what the field holds, if it can be read back at all. -/
def Restores (R : RecordType) (path : String) (x : Value) (v : R.Values) : Prop :=
  ∃ p content, R.place path = .ok p ∧ p.leaf.type.decode x = .ok content ∧
    (p.leaf.type.Exact (p.leaf.get v) → content = p.leaf.get v)

theorem Shows.restores {path : String} {y : Value} (shows : R.Shows path y after) : R.Restores path y after := by
  obtain ⟨p, content, place, decoded, got⟩ := shows
  exact ⟨p, content, place, decoded, fun _ => got.symm⟩

theorem restores_of_read {path : String} {y : Value} (read : R.read path after = .ok y) : R.Restores path y after := by
  obtain ⟨p, place, encoded⟩ := read_eq_ok.mp read
  obtain ⟨content, decoded, same⟩ := NativeType.decode_of_encode encoded
  exact ⟨p, content, place, decoded, same⟩

/-- A cell whose value is loaded to what the field of its column holds, and is what the field shows. -/
structure StoredAs (R : RecordType) (t : Table) (c : Column) (x : Value) (v : R.Values) : Prop where
  restores : R.Restores c.path x v
  shown : ∃ y, R.read c.path v = .ok y ∧ t.ShownFor c x y

/-- A registered table with keys that is used without a converter, and without hooks around insertions and loads. -/
structure Storable (R : RecordType) (ctx : Context) (t : Table) : Prop where
  registered : ctx.table? R.typeName = some t
  maps : R.Maps t
  undotted : R.fields.Undotted
  keyed : t.keys ≠ []
  keysKept : ∀ c ∈ t.keyColumns, c.isTransient = false
  versionKept : ∀ c, t.versionColumn? = some c → c.isTransient = false
  reports : ∀ c ∈ t.storedColumns, c.autoIncrement = true → ctx.dialect.keyReport ≠ .notReported
  noConverter : ctx.converter = {}
  noHooks : ∀ hook ∈ [Hook.preInsert, .postInsert, .postGet], R.hooks hook ctx = pure ()

namespace Storable

variable {bound : Bound} (storable : R.Storable ctx t)

include storable

theorem insert_run (run : Script.Runs ctx (R.insert ctx before) log (.ok (.ok (), final))) :
    ∃ x bound after, log = [x] ∧ bound.IsSentBy x ∧ x.refusal? = none ∧
      R.Binds {} t (Plan.insert t ctx.dialect) before bound after ∧
      R.KeyWritten ctx (Plan.insert t ctx.dialect).generated x after final := by
  have noPreHook : R.hooks .preInsert ctx = pure () := storable.noHooks .preInsert (by decide)
  have noPostHook : R.hooks .postInsert ctx = pure () := storable.noHooks .postInsert (by decide)
  have ran := insert_ok storable.registered noPreHook noPostHook run
  rwa [storable.noConverter] at ran

theorem other_fields (written : R.KeyWritten ctx (Plan.insert t ctx.dialect).generated x after final)
    (stored : c ∈ t.storedColumns) (manual : c.autoIncrement = false) :
    R.read c.path final = R.read c.path after ∧ ∀ y, R.Shows c.path y after → R.Shows c.path y final := by
  rcases written.cases with rfl | ⟨key, id, generated, wrote⟩
  · exact ⟨rfl, fun _ => id⟩
  · have differs := generated_path_ne storable.maps storable.undotted stored manual generated
    exact ⟨read_write_other wrote differs, fun y shows => shows.write_other wrote differs⟩

theorem generated_stored (made : R.MadeRow t ctx.dialect x row)
    (written : R.KeyWritten ctx (Plan.insert t ctx.dialect).generated x after final) (stored : c ∈ t.storedColumns)
    (auto : c.autoIncrement = true) :
    R.StoredAs t c (row (ctx.dialect.fold c.name)) final := by
  rw [generated_eq storable.maps stored auto] at written
  obtain ⟨key?, reports, ended⟩ := written
  have reported := made.reported c stored auto (storable.reports c stored auto) key? reports
  subst reported
  obtain ⟨id, converted, wrote⟩ := ended
  rw [storable.noConverter] at converted
  cases converted
  have shows : R.Shows c.path (row (ctx.dialect.fold c.name)) final := shows_write wrote
  obtain ⟨p, content, place, decoded, read⟩ := shows.read
  obtain ⟨known, y, decoded', encoded, fits⟩ := made.fits c stored auto p place
  cases decoded.symm.trans decoded'
  rw [encoded] at read
  refine ⟨shows.restores, y, read, ?_⟩
  rcases fits with rfl | ⟨n, number, number'⟩
  · exact .itself
  · exact .integer number number'

theorem version_stored (unversioned : R.localVersion t before = .ok 0)
    (binds : R.Binds {} t (Plan.insert t ctx.dialect) before bound after) (sent : bound.IsSentBy x)
    (made : R.MadeRow t ctx.dialect x row)
    (written : R.KeyWritten ctx (Plan.insert t ctx.dialect).generated x after final)
    (versioned : t.versionColumn? = some c) (manual : c.autoIncrement = false) :
    R.StoredAs t c (row (ctx.dialect.fold c.name)) final := by
  have kept := storable.versionKept c versioned
  have first : bound.version = 0 := Except.ok.inj (binds.version.symm.trans unversioned)
  have asks : (c, .nextVersion) ∈ t.boundTerms ctx.dialect := Table.nextVersion_mem_boundTerms versioned kept manual
  have asked : .nextVersion ∈ (Plan.insert t ctx.dialect).sources := by
    rw [Plan.insert_sources]
    exact List.mem_map_of_mem asks
  have cell : row (ctx.dialect.fold c.name) = .bigInt 1 := by
    have supplied := binds.args
    rw [← sent.2, first] at supplied
    exact made.cell supplied asks
  have wrote : R.write c.path (.bigInt 1) before = .ok after := by
    have touched := binds.touched
    rw [first, touched_zero asked, storeVersion_of_column versioned] at touched
    exact writeField_eq_ok.mp touched
  have others := storable.other_fields written (Table.mem_storedColumns_of_version versioned kept) manual
  have shows : R.Shows c.path (.bigInt 1) final := others.2 _ (shows_write wrote)
  rw [cell]
  refine ⟨shows.restores, ?_⟩
  obtain ⟨p, content, place, decoded, read⟩ := shows.read
  obtain ⟨y, encoded, form⟩ := NativeType.encode_of_first decoded
  rw [encoded] at read
  refine ⟨y, read, ?_⟩
  rcases form with float | number | other
  · exact .float float
  · exact .integer rfl number
  · exact .first versioned rfl other

theorem field_stored (binds : R.Binds {} t (Plan.insert t ctx.dialect) before bound after) (sent : bound.IsSentBy x)
    (made : R.MadeRow t ctx.dialect x row)
    (written : R.KeyWritten ctx (Plan.insert t ctx.dialect).generated x after final) (stored : c ∈ t.storedColumns)
    (unversioned : t.versionColumn? ≠ some c) (manual : c.autoIncrement = false) :
    R.StoredAs t c (row (ctx.dialect.fold c.name)) final := by
  obtain ⟨member, kept⟩ := List.mem_filter.mp stored
  obtain ⟨i, here⟩ := List.mem_iff_getElem?.mp member
  have noVersion : t.version ≠ some i := fun place =>
    unversioned (Table.versionColumn?_eq_some.mpr ⟨i, place, here⟩)
  have asks : (c, .field c) ∈ t.boundTerms ctx.dialect := by
    refine Table.mem_boundTerms.mpr ⟨i, here, by simpa using kept, manual, ?_⟩
    rw [Table.storedSource, if_neg noVersion]
  have supplied : R.Supplies {} bound.version before after (.field c) (row (ctx.dialect.fold c.name)) := by
    have args := binds.args
    rw [← sent.2] at args
    exact made.cell args asks
  have same : R.read c.path after = R.read c.path before := by
    have touched := binds.touched
    unfold Touched at touched
    split at touched
    · rename_i asked
      obtain ⟨v, versioned⟩ := Table.versionColumn?_of_nextVersion (w := .insert) asked.2
      obtain ⟨⟨_, found, _, others⟩, _⟩ := firstVersioned versioned touched
      cases versioned.symm.trans found
      apply others
      intro samePath
      have keptVersion := Table.mem_storedColumns_of_version versioned (storable.versionKept v versioned)
      cases storable.maps.sound.storedColumns_inj storable.undotted stored keptVersion samePath
      exact unversioned versioned
    · rw [touched]
  have read : R.read c.path after = .ok (row (ctx.dialect.fold c.name)) := by
    rcases supplied with early | late
    · rw [same, ← supplied_default c, early]
    · rw [← supplied_default c, late]
  have final : R.read c.path final = .ok (row (ctx.dialect.fold c.name)) :=
    (storable.other_fields written stored manual).1.trans read
  exact ⟨restores_of_read final, _, final, .itself⟩

/-- An insertion that succeeds sends one statement, and whatever row is made of it stores the record that it leaves. -/
theorem insert_stores (unversioned : R.localVersion t before = .ok 0)
    (run : Script.Runs ctx (R.insert ctx before) log (.ok (.ok (), final))) :
    ∃ x, log = [x] ∧ x.refusal? = none ∧ x.sql = (Plan.insert t ctx.dialect).sql ∧
      x.args.length = (Plan.insert t ctx.dialect).sources.length ∧
      ∀ row, R.MadeRow t ctx.dialect x row → ∀ c ∈ t.storedColumns,
        R.StoredAs t c (row (ctx.dialect.fold c.name)) final := by
  obtain ⟨x, bound, after, rfl, sent, answered, binds, written⟩ := storable.insert_run run
  have counted : x.args.length = (Plan.insert t ctx.dialect).sources.length := by
    rw [sent.2]
    exact binds.args.length_eq.symm
  refine ⟨x, rfl, answered, sent.1.trans binds.sql, counted, fun row made c stored => ?_⟩
  cases auto : c.autoIncrement with
  | true => exact storable.generated_stored made written stored auto
  | false =>
    by_cases versioned : t.versionColumn? = some c
    · exact storable.version_stored unversioned binds sent made written versioned auto
    · exact storable.field_stored binds sent made written stored versioned auto

end Storable

end RecordType

theorem TableView.Honest.same_of_shown {B : Backend} {view : TableView B} {R : RecordType} {t : Table} {d : Dialect}
    {c : Column} {x y : Value} (honest : view.Honest R t d) (isKey : c ∈ t.keyColumns) (shown : t.ShownFor c x y)
    (present : y.isNull = false) (exact : y.isFloat = false) : view.same x y = true := by
  cases shown with
  | itself => exact honest.same_self present exact
  | integer stored shown => exact honest.same_integer stored shown
  | first versioned stored shown =>
    obtain ⟨asBool, asMoment⟩ := honest.same_version c isKey versioned
    subst stored
    rcases shown with rfl | rfl
    · exact asBool
    · exact asMoment
  | float shown =>
    rw [shown] at exact
    cases exact

end RowMapper
