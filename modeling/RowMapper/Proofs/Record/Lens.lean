import Mathlib.Data.List.Basic
import RowMapper.Record.Basic

/-!
# Independent fields

A column of a record is read back as it was written, and writing it leaves every other column and all transient fields
alone. Through paths: a path leads to the column that bears it, so different paths never share a column.
-/

namespace RowMapper

namespace Leaf

theorem get_set_self {fs : Fields} (l : Leaf fs) (x : l.type.Carrier) (v : fs.Values) : l.get (l.set x v) = x := by
  induction l with
  | here => rfl
  | inside l ih => exact ih x v.1
  | afterColumn l ih | afterTransient l ih | afterEmbedded l ih => exact ih x v.2

theorem set_set_self {fs : Fields} (l : Leaf fs) (x y : l.type.Carrier) (v : fs.Values) :
    l.set x (l.set y v) = l.set x v := by
  induction l with
  | here => rfl
  | inside l ih => exact congrArg (·, v.2) (ih x y v.1)
  | afterColumn l ih | afterTransient l ih | afterEmbedded l ih => exact congrArg (v.1, ·) (ih x y v.2)

theorem get_set_of_path_ne {fs : Fields} (l m : Leaf fs) (x : m.type.Carrier) (v : fs.Values)
    (different : l.path ≠ m.path) : l.get (m.set x v) = l.get v := by
  induction l with
  | here =>
    cases m with
    | here => exact absurd rfl different
    | afterColumn m => rfl
  | afterColumn l ih =>
    cases m with
    | here => rfl
    | afterColumn m => exact ih m x v.2 different
  | afterTransient l ih =>
    cases m with
    | afterTransient m => exact ih m x v.2 different
  | inside l ih =>
    cases m with
    | inside m => exact ih m x v.1 fun same => different (by simp only [path, same])
    | afterEmbedded m => rfl
  | afterEmbedded l ih =>
    cases m with
    | inside m => rfl
    | afterEmbedded m => exact ih m x v.2 different

theorem transients_set {fs : Fields} (l : Leaf fs) (parent : String) (x : l.type.Carrier) (v : fs.Values) :
    fs.transients parent (l.set x v) = fs.transients parent v := by
  induction l generalizing parent with
  | here => rfl
  | inside l ih => exact congrArg (· ++ _) (ih _ x v.1)
  | afterColumn l ih => exact ih parent x v.2
  | afterTransient l ih => exact congrArg (_ :: ·) (ih parent x v.2)
  | afterEmbedded l ih => exact congrArg (_ ++ ·) (ih parent x v.2)

end Leaf

theorem enterPath?_eq_some {name path remaining : String} (entered : enterPath? name path = some remaining) :
    path = name ++ "." ++ remaining := by
  unfold enterPath? at entered
  obtain ⟨rest, found, rfl⟩ := Option.map_eq_some_iff.mp entered
  have joined : path.toList = name.toList ++ ['.'] ++ rest := (List.isPrefixOf?_eq_some_iff_append_eq.mp found).symm
  apply String.toList_inj.mp
  rw [joined]
  simp only [String.toList_append, String.toList_ofList]
  rfl

namespace Fields

theorem direct?_path {fs : Fields} {path : String} {l : Leaf fs} (found : fs.direct? path = some l) :
    l.path = path := by
  induction fs with
  | nil => cases found
  | column name tag type rest ih =>
    simp only [direct?] at found
    split at found
    · cases found
      exact Eq.symm ‹path = name›
    · obtain ⟨m, inRest, rfl⟩ := Option.map_eq_some_iff.mp found
      exact ih inRest
  | transient name type rest ih | embedded name recordName inner rest _ ih =>
    obtain ⟨m, inRest, rfl⟩ := Option.map_eq_some_iff.mp found
    exact ih inRest

theorem map_map_eq_ok {fs gs : Fields} {answer? : Option (Except Error (Place fs))} {g : Leaf fs → Leaf gs}
    {p : Place gs} (found : answer?.map (Except.map (Place.map g)) = some (.ok p)) :
    ∃ q, answer? = some (.ok q) ∧ p = q.map g := by
  obtain ⟨answer, rfl, mapped⟩ := Option.map_eq_some_iff.mp found
  cases answer with
  | error e => cases mapped
  | ok q =>
    cases mapped
    exact ⟨q, rfl, rfl⟩

theorem entered?_path {fs : Fields} {path : String} {p : Place fs} (found : fs.entered? path = some (.ok p)) :
    p.leaf.path = path := by
  induction fs generalizing path with
  | nil => cases found
  | column name tag type rest ih =>
    obtain ⟨q, inRest, rfl⟩ := map_map_eq_ok found
    exact ih inRest
  | transient name type rest ih =>
    obtain ⟨q, inRest, rfl⟩ := map_map_eq_ok found
    exact ih inRest
  | embedded name recordName inner rest innerIh ih =>
    simp only [entered?] at found
    cases entered : enterPath? name path with
    | none =>
      simp only [entered] at found
      obtain ⟨q, inRest, rfl⟩ := map_map_eq_ok found
      exact ih inRest
    | some remaining =>
      rw [enterPath?_eq_some entered]
      simp only [entered] at found
      cases direct : inner.direct? remaining with
      | some l =>
        simp only [direct, Option.some.injEq, Except.ok.injEq] at found
        subst found
        exact congrArg (name ++ "." ++ ·) (direct?_path direct)
      | none =>
        cases further : inner.entered? remaining with
        | none => simp [direct, further] at found
        | some answer =>
          simp only [direct, further, Option.some.injEq] at found
          cases answer with
          | error e => cases found
          | ok q =>
            cases found
            exact congrArg (name ++ "." ++ ·) (innerIh further)

theorem locate_path {fs : Fields} {addressing : Addressing} {recordName path : String} {p : Place fs}
    (found : fs.locate addressing recordName path = .ok p) : p.leaf.path = path := by
  cases addressing with
  | nested =>
    simp only [locate] at found
    split at found
    · cases found
      exact direct?_path ‹_›
    · subst found
      exact entered?_path ‹_›
    · cases found
  | whole =>
    simp only [locate] at found
    split at found
    · cases found
      exact eq_of_beq (List.find?_some ‹_› :)
    · cases found

end Fields

namespace RecordType

variable {R : RecordType} {path other : String} {x y : Value} {before after : R.Values}

def place (R : RecordType) (path : String) : Except Error (Place R.fields) :=
  R.fields.locate R.addressing R.recordName path

theorem read_of_place {p : Place R.fields} (found : R.place path = .ok p) : R.read path before = p.read before := by
  show (R.place path >>= fun q => q.read before) = p.read before
  rw [found]
  rfl

theorem write_of_place {p : Place R.fields} (found : R.place path = .ok p) :
    R.write path x before = p.write x before := by
  show (R.place path >>= fun q => q.write x before) = p.write x before
  rw [found]
  rfl

theorem read_eq_ok :
    R.read path before = .ok x ↔ ∃ p, R.place path = .ok p ∧ p.leaf.type.encode (p.leaf.get before) = .ok x := by
  cases found : R.place path with
  | error e =>
    have failed : R.read path before = .error e := by
      show (R.place path >>= fun q => q.read before) = .error e
      rw [found]
      rfl
    rw [failed]
    constructor
    · intro impossible
      cases impossible
    · rintro ⟨_, impossible, _⟩
      cases impossible
  | ok p =>
    rw [read_of_place found, Place.read]
    cases encoded : p.leaf.type.encode (p.leaf.get before) with
    | error e =>
      constructor
      · intro impossible
        cases impossible
      · rintro ⟨_, same, known⟩
        cases same
        cases encoded.symm.trans known
    | ok y =>
      constructor
      · intro same
        cases same
        exact ⟨p, rfl, encoded⟩
      · rintro ⟨_, same, known⟩
        cases same
        cases encoded.symm.trans known
        rfl

/-- A write that succeeds sets one column and nothing else. -/
theorem write_eq_ok :
    R.write path x before = .ok after ↔
      ∃ p content, R.place path = .ok p ∧ p.leaf.type.decode x = .ok content ∧
        after = p.leaf.set content before := by
  show (R.place path >>= fun q => q.write x before) = .ok after ↔ _
  cases R.place path with
  | error e => simp [Bind.bind, Except.bind]
  | ok p =>
    show p.write x before = .ok after ↔ _
    unfold Place.write
    cases decoded : p.leaf.type.decode x with
    | error e =>
      constructor
      · intro impossible
        cases impossible
      · rintro ⟨_, _, found, known, _⟩
        cases found
        rw [decoded] at known
        cases known
    | ok content =>
      constructor
      · intro written
        cases written
        exact ⟨p, content, rfl, decoded, rfl⟩
      · rintro ⟨_, _, found, known, rfl⟩
        cases found
        rw [decoded] at known
        cases known
        rfl

theorem read_write_other (written : R.write path x before = .ok after) (different : other ≠ path) :
    R.read other after = R.read other before := by
  obtain ⟨p, content, located, -, rfl⟩ := write_eq_ok.mp written
  cases found : R.place other with
  | error e => simp only [read, show R.fields.locate R.addressing R.recordName other = .error e from found]; rfl
  | ok q =>
    have apart : q.leaf.path ≠ p.leaf.path := by
      rw [Fields.locate_path found, Fields.locate_path located]
      exact different
    rw [read_of_place found, read_of_place found, Place.read, Place.read,
      Leaf.get_set_of_path_ne q.leaf p.leaf content before apart]

theorem write_write (written : R.write path x before = .ok after) :
    R.write path y after = R.write path y before := by
  obtain ⟨p, content, located, -, rfl⟩ := write_eq_ok.mp written
  rw [write_of_place located, write_of_place located, Place.write, Place.write]
  congr 1
  funext again
  exact Leaf.set_set_self p.leaf again content before

theorem transients_write (written : R.write path x before = .ok after) :
    R.fields.transients "" after = R.fields.transients "" before := by
  obtain ⟨p, content, -, -, rfl⟩ := write_eq_ok.mp written
  exact Leaf.transients_set p.leaf "" content before

/-- What the field of a path shows if a value was written into it. -/
def Shows (R : RecordType) (path : String) (x : Value) (v : R.Values) : Prop :=
  ∃ p content, R.place path = .ok p ∧ p.leaf.type.decode x = .ok content ∧ p.leaf.get v = content

theorem Shows.read {path : String} {x : Value} (shows : R.Shows path x before) :
    ∃ p content, R.place path = .ok p ∧ p.leaf.type.decode x = .ok content ∧
      R.read path before = (p.leaf.type.encode content).mapError (.field p.shownPath) := by
  obtain ⟨p, content, place, decoded, got⟩ := shows
  refine ⟨p, content, place, decoded, ?_⟩
  rw [read_of_place place, Place.read, got]

theorem shows_write {path : String} {x : Value} (wrote : R.write path x before = .ok after) : R.Shows path x after := by
  obtain ⟨p, content, place, decoded, rfl⟩ := write_eq_ok.mp wrote
  exact ⟨p, content, place, decoded, Leaf.get_set_self p.leaf content before⟩

theorem Shows.write_other {path other : String} {x y : Value} (shows : R.Shows path x before)
    (wrote : R.write other y before = .ok after) (differs : path ≠ other) : R.Shows path x after := by
  obtain ⟨p, content, place, decoded, got⟩ := shows
  obtain ⟨q, content', placed, _, rfl⟩ := write_eq_ok.mp wrote
  have apart : p.leaf.path ≠ q.leaf.path := by
    rw [Fields.locate_path place, Fields.locate_path placed]
    exact differs
  exact ⟨p, content, place, decoded, (Leaf.get_set_of_path_ne p.leaf q.leaf content' before apart).trans got⟩

end RecordType

end RowMapper
