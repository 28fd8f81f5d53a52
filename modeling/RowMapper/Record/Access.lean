import RowMapper.Record.Fields

/-!
# Fields by path

A column of a record is named by the dotted path that leads to it. Reading and writing by path convert between the
column's type and values; a write that fails changes nothing.
-/

namespace RowMapper

/-- Which part of a record answers for a path. -/
inductive Addressing where
  /-- Each embedded record resolves the rest of the path, and errors are its own. -/
  | nested
  /-- The record resolves the whole path, and errors are its own. -/
  | whole
deriving DecidableEq

def enterPath? (name path : String) : Option String :=
  ((name.toList ++ ['.']).isPrefixOf? path.toList).map String.ofList

structure Place (fs : Fields) where
  leaf : Leaf fs
  shownPath : String

def Place.map {fs gs : Fields} (f : Leaf fs → Leaf gs) (p : Place fs) : Place gs := ⟨f p.leaf, p.shownPath⟩

namespace Fields

def direct? : (fs : Fields) → String → Option (Leaf fs)
  | nil, _ => none
  | column name _ _ rest, path => if path = name then some .here else (rest.direct? path).map .afterColumn
  | transient _ _ rest, path => (rest.direct? path).map .afterTransient
  | embedded _ _ _ rest, path => (rest.direct? path).map .afterEmbedded

/-- The answer of the first embedded record that a path enters. -/
def entered? : (fs : Fields) → String → Option (Except Error (Place fs))
  | nil, _ => none
  | column _ _ _ rest, path => (rest.entered? path).map (Except.map (Place.map .afterColumn))
  | transient _ _ rest, path => (rest.entered? path).map (Except.map (Place.map .afterTransient))
  | embedded name recordName inner rest, path =>
    match enterPath? name path with
    | some remaining =>
      match inner.direct? remaining, inner.entered? remaining with
      | some l, _ => some (.ok ⟨.inside l, remaining⟩)
      | none, some answer => some (answer.map (Place.map .inside))
      | none, none => some (.error (.unknownField remaining recordName))
    | none => (rest.entered? path).map (Except.map (Place.map .afterEmbedded))

/-- The column that a path names. A record's own columns come before its embedded records. -/
def locate (fs : Fields) (addressing : Addressing) (recordName path : String) : Except Error (Place fs) :=
  match addressing with
  | .nested =>
    match fs.direct? path, fs.entered? path with
    | some l, _ => .ok ⟨l, path⟩
    | none, some answer => answer
    | none, none => .error (.unknownField path recordName)
  | .whole =>
    match fs.leaves.find? (·.path == path) with
    | some l => .ok ⟨l, path⟩
    | none => .error (.unknownField path recordName)

end Fields

namespace Place

def read {fs : Fields} (p : Place fs) (v : fs.Values) : Except Error Value :=
  (p.leaf.type.encode (p.leaf.get v)).mapError (.field p.shownPath)

def write {fs : Fields} (p : Place fs) (x : Value) (v : fs.Values) : Except Error fs.Values :=
  ((p.leaf.type.decode x).mapError (.field p.shownPath)).map fun content => p.leaf.set content v

end Place

end RowMapper
