import RowMapper.Proofs.Record.Binding
import RowMapper.Proofs.Table.Flatten

/-!
# Paths and columns

The paths that a record answers for are those of its columns, at any depth, as long as no two fields of a record share a
name. Every other path is followed through embedded records as far as it goes, and the record where it ends reports it.
-/

namespace RowMapper

namespace Fields

def names : Fields → List String
  | nil => []
  | column name _ _ rest | transient name _ rest | embedded name _ _ rest => name :: rest.names

def Distinct : Fields → Prop
  | nil => True
  | column name _ _ rest | transient name _ rest => name ∉ rest.names ∧ rest.Distinct
  | embedded name _ inner rest => name ∉ rest.names ∧ inner.Distinct ∧ rest.Distinct

/-- The embedded records, each with the name of its field and of its type. -/
def records : Fields → List (String × String × Fields)
  | nil => []
  | column _ _ _ rest | transient _ _ rest => rest.records
  | embedded name recordName inner rest => (name, recordName, inner) :: rest.records

/-- Embedded records lead a path to one of them that it does not leave: its type's name and the rest of the path. -/
inductive Leads : (fs : Fields) → (recordName path innermost remaining : String) → Prop where
  | ends {fs : Fields} {recordName path : String}
      (stays : ∀ name type inner rest, (name, type, inner) ∈ fs.records → path ≠ name ++ "." ++ rest) :
    Leads fs recordName path recordName path
  | enters {fs inner : Fields} {recordName name type path innermost remaining : String}
      (embedded : (name, type, inner) ∈ fs.records) (further : Leads inner type path innermost remaining) :
    Leads fs recordName (name ++ "." ++ path) innermost remaining

end Fields

theorem name_of_dotted {name other rest more : String} (plain : '.' ∉ name.toList) (plainToo : '.' ∉ other.toList)
    (same : name ++ "." ++ rest = other ++ "." ++ more) : name = other ∧ rest = more := by
  have lists : name.toList ++ '.' :: rest.toList = other.toList ++ '.' :: more.toList := by
    simpa using congrArg String.toList same
  have upToDot {s t : List Char} (clean : '.' ∉ s) : (s ++ '.' :: t).takeWhile (· != '.') = s := by
    have stays : ∀ c ∈ s, (c != '.') = true := fun c member => bne_iff_ne.mpr fun same => clean (same ▸ member)
    rw [List.takeWhile_append_of_pos stays]
    simp
  have names : name.toList = other.toList := by
    rw [← upToDot (t := rest.toList) plain, lists, upToDot plainToo]
  rw [names] at lists
  have rests := List.append_cancel_left lists
  exact ⟨String.toList_inj.mp names, String.toList_inj.mp (List.cons.inj rests).2⟩

theorem dotted_not_plain (name rest : String) : '.' ∈ (name ++ "." ++ rest).toList := by
  simp

theorem enterPath?_dotted (name rest : String) : enterPath? name (name ++ "." ++ rest) = some rest := by
  have found : (name.toList ++ ['.']).isPrefixOf? (name ++ "." ++ rest).toList = some rest.toList :=
    List.isPrefixOf?_eq_some_iff_append_eq.mpr (by simp)
  unfold enterPath?
  rw [found]
  exact congrArg some (String.ofList_toList)

theorem enterPath?_eq_none {name path : String} (outside : ∀ rest, path ≠ name ++ "." ++ rest) :
    enterPath? name path = none :=
  Option.eq_none_iff_forall_ne_some.mpr fun rest entered => outside rest (enterPath?_eq_some entered)

namespace Leaf

/-- The path of a column begins with the name of one of the record's own fields. -/
theorem path_begins {fs : Fields} (l : Leaf fs) :
    ∃ name ∈ fs.names, l.path = name ∨ ∃ rest, l.path = name ++ "." ++ rest := by
  induction l with
  | @here name tag type rest => exact ⟨name, List.mem_cons_self, .inl rfl⟩
  | @inside name recordName inner rest l _ => exact ⟨name, List.mem_cons_self, .inr ⟨l.path, rfl⟩⟩
  | afterColumn l ih | afterTransient l ih | afterEmbedded l ih =>
    obtain ⟨name, member, begins⟩ := ih
    exact ⟨name, List.mem_cons_of_mem _ member, begins⟩

end Leaf

namespace Fields

variable {fs inner rest : Fields} {name path recordName type : String}

theorem names_plain (undotted : fs.Undotted) (member : name ∈ fs.names) : '.' ∉ name.toList := by
  induction fs with
  | nil => cases member
  | column _ _ _ _ ih | transient _ _ _ ih =>
    rcases List.mem_cons.mp member with rfl | later
    · exact undotted.1
    · exact ih undotted.2 later
  | embedded _ _ _ _ _ ih =>
    rcases List.mem_cons.mp member with rfl | later
    · exact undotted.1
    · exact ih undotted.2.2 later

theorem records_name (member : (name, type, inner) ∈ fs.records) : name ∈ fs.names := by
  induction fs with
  | nil => cases member
  | column _ _ _ _ ih | transient _ _ _ ih => exact List.mem_cons_of_mem _ (ih member)
  | embedded _ _ _ _ _ ih =>
    rcases List.mem_cons.mp member with here | later
    · cases here
      exact List.mem_cons_self
    · exact List.mem_cons_of_mem _ (ih later)

theorem records_parts (undotted : fs.Undotted) (distinct : fs.Distinct) (member : (name, type, inner) ∈ fs.records) :
    inner.Undotted ∧ inner.Distinct := by
  induction fs with
  | nil => cases member
  | column _ _ _ _ ih | transient _ _ _ ih => exact ih undotted.2 distinct.2 member
  | embedded _ _ _ _ _ ih =>
    rcases List.mem_cons.mp member with here | later
    · cases here
      exact ⟨undotted.2.1, distinct.2.1⟩
    · exact ih undotted.2.2 distinct.2.2 later

theorem records_unique (distinct : fs.Distinct) {type' : String} {inner' : Fields}
    (one : (name, type, inner) ∈ fs.records) (other : (name, type', inner') ∈ fs.records) :
    type = type' ∧ inner = inner' := by
  induction fs with
  | nil => cases one
  | column _ _ _ _ ih | transient _ _ _ ih => exact ih distinct.2 one other
  | embedded _ _ _ _ _ ih =>
    rcases List.mem_cons.mp one with here | later <;> rcases List.mem_cons.mp other with hereToo | laterToo
    · cases here
      cases hereToo
      exact ⟨rfl, rfl⟩
    · cases here
      exact absurd (records_name laterToo) distinct.1
    · cases hereToo
      exact absurd (records_name later) distinct.1
    · exact ih distinct.2.2 later laterToo

theorem Leads.unique {innermost innermost' remaining remaining' : String} (undotted : fs.Undotted)
    (distinct : fs.Distinct) (one : fs.Leads recordName path innermost remaining)
    (other : fs.Leads recordName path innermost' remaining') : innermost = innermost' ∧ remaining = remaining' := by
  -- the first dot of the path decides which embedded record it enters
  induction one with
  | ends stays =>
    cases other with
    | ends => exact ⟨rfl, rfl⟩
    | enters embedded => exact absurd rfl (stays _ _ _ _ embedded)
  | @enters fs inner recordName name type path innermost remaining embedded further ih =>
    generalize whole : name ++ "." ++ path = dotted at other
    cases other with
    | ends stays => exact absurd whole.symm (stays _ _ _ _ embedded)
    | @enters _ _ _ name' type' path' _ _ embeddedToo furtherToo =>
      have plain := names_plain undotted (records_name embedded)
      have plainToo := names_plain undotted (records_name embeddedToo)
      obtain ⟨rfl, rfl⟩ := name_of_dotted plain plainToo whole
      obtain ⟨rfl, rfl⟩ := records_unique distinct embedded embeddedToo
      obtain ⟨innerUndotted, innerDistinct⟩ := records_parts undotted distinct embedded
      exact ih innerUndotted innerDistinct furtherToo

theorem locate_column {tag : Option String} {t : NativeType} (differs : path ≠ name) :
    (column name tag t rest).locate .nested recordName path =
      (rest.locate .nested recordName path).map (Place.map .afterColumn) := by
  simp only [locate, direct?, entered?, if_neg differs]
  cases rest.direct? path <;> cases rest.entered? path <;> rfl

theorem locate_transient {t : NativeType} :
    (transient name t rest).locate .nested recordName path =
      (rest.locate .nested recordName path).map (Place.map .afterTransient) := by
  simp only [locate, direct?, entered?]
  cases rest.direct? path <;> cases rest.entered? path <;> rfl

theorem locate_embedded (outside : enterPath? name path = none) :
    (embedded name type inner rest).locate .nested recordName path =
      (rest.locate .nested recordName path).map (Place.map .afterEmbedded) := by
  simp only [locate, direct?, entered?, outside]
  cases rest.direct? path <;> cases rest.entered? path <;> rfl

theorem entered?_embedded {remaining : String} (enters : enterPath? name path = some remaining) :
    (embedded name type inner rest).entered? path =
      some ((inner.locate .nested type remaining).map (Place.map .inside)) := by
  simp only [locate, entered?, enters]
  cases inner.direct? remaining <;> cases inner.entered? remaining <;> rfl

theorem direct?_name {l : Leaf fs} (found : fs.direct? path = some l) : path ∈ fs.names := by
  induction fs with
  | nil => cases found
  | column name tag t rest ih =>
    simp only [direct?] at found
    split at found
    · exact List.mem_cons.mpr (.inl ‹path = name›)
    · obtain ⟨m, inRest, rfl⟩ := Option.map_eq_some_iff.mp found
      exact List.mem_cons_of_mem _ (ih inRest)
  | transient name t rest ih | embedded name recordName inner rest _ ih =>
    obtain ⟨m, inRest, rfl⟩ := Option.map_eq_some_iff.mp found
    exact List.mem_cons_of_mem _ (ih inRest)

theorem locate_leaf (undotted : fs.Undotted) (distinct : fs.Distinct) (l : Leaf fs) (recordName : String) :
    ∃ shown, fs.locate .nested recordName l.path = .ok ⟨l, shown⟩ := by
  induction l generalizing recordName with
  | @here name tag t rest =>
    refine ⟨name, ?_⟩
    simp only [locate, direct?, Leaf.path, if_true]
  | @afterColumn name tag t rest l ih =>
    obtain ⟨shown, found⟩ := ih undotted.2 distinct.2 recordName
    have differs : l.path ≠ name := by
      rintro rfl
      obtain ⟨first, member, same | ⟨more, same⟩⟩ := l.path_begins
      · exact distinct.1 (same ▸ member)
      · exact undotted.1 (same ▸ dotted_not_plain first more)
    exact ⟨shown, (locate_column differs).trans (congrArg (Except.map (Place.map .afterColumn)) found)⟩
  | afterTransient l ih =>
    obtain ⟨shown, found⟩ := ih undotted.2 distinct.2 recordName
    exact ⟨shown, locate_transient.trans (congrArg (Except.map (Place.map .afterTransient)) found)⟩
  | @inside name type inner rest l ih =>
    obtain ⟨shown, found⟩ := ih undotted.2.1 distinct.2.1 type
    have notOwn : (embedded name type inner rest).direct? (name ++ "." ++ l.path) = none := by
      refine Option.eq_none_iff_forall_ne_some.mpr fun m here => ?_
      exact names_plain undotted (direct?_name here) (dotted_not_plain name l.path)
    refine ⟨shown, ?_⟩
    have answered : (embedded name type inner rest).entered? (name ++ "." ++ l.path) = _ :=
      entered?_embedded (enterPath?_dotted name l.path)
    rw [found] at answered
    simp only [locate, Leaf.path, notOwn, answered]
    rfl
  | @afterEmbedded name type inner rest l ih =>
    obtain ⟨shown, found⟩ := ih undotted.2.2 distinct.2.2 recordName
    have outside : enterPath? name l.path = none := by
      refine enterPath?_eq_none fun more enters => ?_
      obtain ⟨first, member, same | ⟨later, same⟩⟩ := l.path_begins
      · exact names_plain undotted.2.2 member (same ▸ enters ▸ dotted_not_plain name more)
      · have plain := names_plain undotted.2.2 member
        have one := (name_of_dotted plain undotted.1 (same.symm.trans enters)).1
        exact distinct.1 (one ▸ member)
    exact ⟨shown, (locate_embedded outside).trans (congrArg (Except.map (Place.map .afterEmbedded)) found)⟩

theorem entered?_eq_none (outside : fs.entered? path = none) :
    ∀ name type inner rest, (name, type, inner) ∈ fs.records → path ≠ name ++ "." ++ rest := by
  induction fs with
  | nil => exact fun _ _ _ _ member => absurd member List.not_mem_nil
  | column _ _ _ _ ih | transient _ _ _ ih => exact ih (Option.map_eq_none_iff.mp outside)
  | embedded name type inner rest _ ih =>
    cases enters : enterPath? name path with
    | some remaining =>
      rw [entered?_embedded enters] at outside
      cases outside
    | none =>
      simp only [entered?, enters] at outside
      rintro name' type' inner' more member rfl
      rcases List.mem_cons.mp member with here | later
      · cases here
        rw [enterPath?_dotted] at enters
        cases enters
      · exact ih (Option.map_eq_none_iff.mp outside) name' type' inner' more later rfl

/-- A path that is not found ends in the record that reports it, if it does so in each embedded record. -/
theorem leads_of_locate {e : Error}
    (further : fs.entered? path = some (.error e) → ∃ name type inner rest innermost remaining,
      (name, type, inner) ∈ fs.records ∧ path = name ++ "." ++ rest ∧ inner.Leads type rest innermost remaining ∧
        e = .unknownField remaining innermost)
    (failed : fs.locate .nested recordName path = .error e) :
    ∃ innermost remaining, fs.Leads recordName path innermost remaining ∧ e = .unknownField remaining innermost := by
  cases direct : fs.direct? path with
  | some l =>
    simp only [locate, direct] at failed
    cases failed
  | none =>
    cases entered : fs.entered? path with
    | none =>
      simp only [locate, direct, entered] at failed
      cases failed
      exact ⟨_, _, .ends (entered?_eq_none entered), rfl⟩
    | some answer =>
      simp only [locate, direct, entered] at failed
      subst failed
      obtain ⟨name, type, inner, rest, innermost, remaining, member, rfl, leads, rfl⟩ := further entered
      exact ⟨innermost, remaining, .enters member leads, rfl⟩

theorem entered?_error {e : Error} (failed : fs.entered? path = some (.error e)) :
    ∃ name type inner rest innermost remaining, (name, type, inner) ∈ fs.records ∧ path = name ++ "." ++ rest ∧
      inner.Leads type rest innermost remaining ∧ e = .unknownField remaining innermost := by
  induction fs generalizing path with
  | nil => cases failed
  | column _ _ _ _ ih | transient _ _ _ ih =>
    obtain ⟨answer | _, entered, mapped⟩ := Option.map_eq_some_iff.mp failed
    · cases mapped
      exact ih entered
    · cases mapped
  | embedded name type inner rest innerIh ih =>
    cases enters : enterPath? name path with
    | none =>
      simp only [entered?, enters] at failed
      obtain ⟨answer | _, entered, mapped⟩ := Option.map_eq_some_iff.mp failed
      · cases mapped
        obtain ⟨name', type', inner', more, innermost, remaining, member, found⟩ := ih entered
        exact ⟨name', type', inner', more, innermost, remaining, List.mem_cons_of_mem _ member, found⟩
      · cases mapped
    | some remaining =>
      rw [entered?_embedded enters] at failed
      cases inside : inner.locate .nested type remaining with
      | ok p =>
        rw [inside] at failed
        cases failed
      | error reason =>
        rw [inside] at failed
        cases failed
        obtain ⟨innermost, last, leads, rfl⟩ := leads_of_locate innerIh inside
        exact ⟨name, type, inner, remaining, innermost, last, List.mem_cons_self, enterPath?_eq_some enters, leads, rfl⟩

/-- The record that a path ends in reports what is left of the path there. -/
theorem locate_error {e : Error} (failed : fs.locate .nested recordName path = .error e) :
    ∃ innermost remaining, fs.Leads recordName path innermost remaining ∧ e = .unknownField remaining innermost :=
  leads_of_locate entered?_error failed

/-- A stored column of a flattened record is one of those before it or a leaf, with its path and its type. -/
theorem flattenOnto_leaf {parent : String} {columns : List Column} {c : Column}
    (member : c ∈ fs.flattenOnto parent columns) (stored : c.isTransient = false) :
    c ∈ columns ∨
      ∃ l : Leaf fs, c.path = parent ++ l.path ∧ c.type = l.type.semantic ∧ c.nullable = l.type.nullable := by
  induction fs generalizing parent columns with
  | nil => exact .inl member
  | column name tag t rest ih =>
    rcases ih member with earlier | ⟨l, found⟩
    · rcases mem_replaceColumn earlier with old | rfl
      · exact .inl old
      · exact .inr ⟨.here, rfl, rfl, rfl⟩
    · exact .inr ⟨.afterColumn l, found⟩
  | transient name t rest ih =>
    rcases ih member with earlier | ⟨l, found⟩
    · rcases List.mem_append.mp earlier with old | new
      · exact .inl old
      · cases List.mem_singleton.mp new
        cases stored
    · exact .inr ⟨.afterTransient l, found⟩
  | embedded name type inner rest innerIh ih =>
    rcases ih member with earlier | ⟨l, found⟩
    · rcases mem_embedColumns earlier with old | new
      · exact .inl old
      · rcases innerIh new with impossible | ⟨l, path, shape⟩
        · cases impossible
        · refine .inr ⟨.inside l, ?_, shape⟩
          rw [path, Leaf.path, String.append_assoc, String.append_assoc, String.append_assoc]
    · exact .inr ⟨.afterEmbedded l, found⟩

theorem columns_leaf {c : Column} (member : c ∈ fs.columns) (stored : c.isTransient = false) :
    ∃ l : Leaf fs, l.path = c.path ∧ l.type.semantic = c.type ∧ l.type.nullable = c.nullable := by
  rcases flattenOnto_leaf member stored with impossible | ⟨l, path, type, nullable⟩
  · cases impossible
  · exact ⟨l, (path.trans (String.empty_append)).symm, type.symm, nullable.symm⟩

end Fields

namespace RecordType

variable {R : RecordType} {path : String} {before after : R.Values} {x : Value}

theorem place_leaf (nested : R.addressing = .nested) (undotted : R.fields.Undotted) (distinct : R.fields.Distinct)
    (l : Leaf R.fields) : ∃ shown, R.place l.path = .ok ⟨l, shown⟩ := by
  unfold place
  rw [nested]
  exact Fields.locate_leaf undotted distinct l R.recordName

theorem place_error (nested : R.addressing = .nested) {e : Error} (failed : R.place path = .error e) :
    ∃ innermost remaining, R.fields.Leads R.recordName path innermost remaining ∧
      e = .unknownField remaining innermost := by
  unfold place at failed
  rw [nested] at failed
  exact Fields.locate_error failed

theorem read_of_place_error {e : Error} (failed : R.place path = .error e) : R.read path before = .error e := by
  show (R.place path >>= fun p => p.read before) = .error e
  rw [failed]
  rfl

theorem write_of_place_error {e : Error} (failed : R.place path = .error e) : R.write path x before = .error e := by
  show (R.place path >>= fun p => p.write x before) = .error e
  rw [failed]
  rfl

/-- A column that is found is known, even if its content cannot be converted. -/
theorem known_of_place {p : Place R.fields} (found : R.place path = .ok p) (field type : String) :
    R.read path before ≠ .error (.unknownField field type) ∧
      R.write path x before ≠ .error (.unknownField field type) := by
  rw [read_of_place found, write_of_place found, Place.read, Place.write]
  constructor
  · cases p.leaf.type.encode (p.leaf.get before) <;> simp [Except.mapError]
  · cases p.leaf.type.decode x <;> simp [Except.mapError, Except.map]

theorem leaf_of_known (nested : R.addressing = .nested)
    (known : (∀ field type, R.read path before ≠ .error (.unknownField field type)) ∨
      ∀ field type, R.write path x before ≠ .error (.unknownField field type)) :
    ∃ l : Leaf R.fields, l.path = path := by
  cases found : R.place path with
  | ok p => exact ⟨p.leaf, Fields.locate_path found⟩
  | error e =>
    obtain ⟨innermost, remaining, _, rfl⟩ := place_error nested found
    rcases known with known | known
    · exact absurd (read_of_place_error found) (known remaining innermost)
    · exact absurd (write_of_place_error found) (known remaining innermost)

/-- The fields that a record answers for by path are its columns at any depth, among them all that its table stores.
Writing one changes what it shows to what was written and nothing else, and a write that fails changes nothing. Any
other path is reported by the record that it ends in. -/
theorem fields_by_path (nested : R.addressing = .nested) (undotted : R.fields.Undotted)
    (distinct : R.fields.Distinct) (before : R.Values) :
    (∀ path, (∃ l : Leaf R.fields, l.path = path) ↔
      ∀ field type, R.read path before ≠ .error (.unknownField field type)) ∧
    (∀ path x, (∃ l : Leaf R.fields, l.path = path) ↔
      ∀ field type, R.write path x before ≠ .error (.unknownField field type)) ∧
    (∀ c ∈ R.fields.columns, c.isTransient = false →
      ∃ l : Leaf R.fields, l.path = c.path ∧ l.type.semantic = c.type ∧ l.type.nullable = c.nullable) ∧
    (∀ path x after, R.writeField path x before = (.ok (), after) →
      (∃ l : Leaf R.fields, l.path = path ∧ ∃ content shown, l.type.decode x = .ok content ∧
        R.read path after = (l.type.encode content).mapError (.field shown)) ∧
      (∀ other, other ≠ path → R.read other after = R.read other before) ∧
      R.fields.transients "" after = R.fields.transients "" before) ∧
    (∀ path x e after, R.writeField path x before = (.error e, after) → after = before) ∧
    ∀ path, (∀ l : Leaf R.fields, l.path ≠ path) → ∃ innermost remaining,
      (∀ type rest, R.fields.Leads R.recordName path type rest ↔ type = innermost ∧ rest = remaining) ∧
      R.read path before = .error (.unknownField remaining innermost) ∧
      ∀ x, R.write path x before = .error (.unknownField remaining innermost) := by
  have found {path : String} (known : ∃ l : Leaf R.fields, l.path = path) : ∃ p, R.place path = .ok p := by
    obtain ⟨l, rfl⟩ := known
    obtain ⟨shown, here⟩ := place_leaf nested undotted distinct l
    exact ⟨_, here⟩
  refine ⟨?_, ?_, fun c member stored => Fields.columns_leaf member stored, ?_, fun _ _ _ _ => writeField_failed, ?_⟩
  · intro path
    refine ⟨fun known => ?_, fun known => leaf_of_known (x := .null) nested (.inl known)⟩
    obtain ⟨p, here⟩ := found known
    exact fun field type => (known_of_place (x := .null) here field type).1
  · intro path x
    refine ⟨fun known => ?_, fun known => leaf_of_known nested (.inr known)⟩
    obtain ⟨p, here⟩ := found known
    exact fun field type => (known_of_place here field type).2
  · intro path x after wrote
    have written := writeField_eq_ok.mp wrote
    obtain ⟨p, content, here, decoded, shows⟩ := (shows_write written).read
    exact ⟨⟨p.leaf, Fields.locate_path here, content, p.shownPath, decoded, shows⟩,
      fun other differs => read_write_other written differs, transients_write written⟩
  · intro path unknown
    cases here : R.place path with
    | ok p => exact absurd (Fields.locate_path here) (unknown p.leaf)
    | error e =>
      obtain ⟨innermost, remaining, leads, rfl⟩ := place_error nested here
      refine ⟨innermost, remaining, fun type rest => ⟨fun other => ?_, ?_⟩, read_of_place_error here,
        fun x => write_of_place_error here⟩
      · exact other.unique undotted distinct leads
      · rintro ⟨rfl, rfl⟩
        exact leads

end RecordType

/-- A parcel, with the names of fields alike: `ab`, and `b` in the record `a`. -/
def parcelType : RecordType where
  typeName := "Parcel"
  recordName := "Parcel"
  tableName := "parcels"
  fields :=
    .column "ab" none .text
      (.embedded "a" "Sender"
        (.column "b" none .text
          (.transient "seen" .bool (.embedded "d" "Town" (.column "zip" none (.int .i32) .nil) .nil)))
        (.transient "note" .text .nil))

def parcel : parcelType.Values := ("to", ("from", true, (IntKind.zero .i32, ()), ()), "fragile", ())

/-- The sender is written under its path and not under the field that is named like it, and what is not a field of the
town is reported by the town. -/
theorem parcel_fields_by_path :
    (∃ after, parcelType.writeField "a.b" (.text "me") parcel = (.ok (), after) ∧
      parcelType.read "ab" after = parcelType.read "ab" parcel ∧
      parcelType.fields.transients "" after = parcelType.fields.transients "" parcel) ∧
    parcelType.read "a.d.street" parcel = .error (.unknownField "street" "Town") ∧
    ∀ x field type, parcelType.write "a.d.zip" x parcel ≠ .error (.unknownField field type) := by
  have undotted : parcelType.fields.Undotted := by
    simp [parcelType, Fields.Undotted]
  have distinct : parcelType.fields.Distinct := by
    simp [parcelType, Fields.Distinct, Fields.names]
  obtain ⟨known, writable, _, writes, _, unknown⟩ := RecordType.fields_by_path rfl undotted distinct parcel
  have wrote : parcelType.writeField "a.b" (.text "me") parcel =
      (.ok (), ("to", ("me", true, (IntKind.zero .i32, ()), ()), "fragile", ())) := rfl
  obtain ⟨_, others, transients⟩ := writes _ _ _ wrote
  refine ⟨⟨_, wrote, others "ab" (by decide), transients⟩, ?_, ?_⟩
  · have noStreet : ∀ l : Leaf parcelType.fields, l.path ≠ "a.d.street" :=
      fun l same => (known "a.d.street").mp ⟨l, same⟩ "street" "Town" rfl
    obtain ⟨innermost, remaining, leads, reported, _⟩ := unknown "a.d.street" noStreet
    have town : parcelType.fields.Leads "Parcel" ("a" ++ "." ++ ("d" ++ "." ++ "street")) "Town" "street" :=
      .enters List.mem_cons_self
        (.enters List.mem_cons_self (.ends fun _ _ _ _ member => absurd member List.not_mem_nil))
    obtain ⟨rfl, rfl⟩ := (leads _ _).mp town
    exact reported
  · exact fun x =>
      (writable "a.d.zip" x).mp ⟨.afterColumn (.inside (.afterColumn (.afterTransient (.inside .here)))), rfl⟩

end RowMapper
