import RowMapper.Field.Codec

/-!
# The fields of a record

A record type is a list of fields: columns, transient fields, which never reach the database, and embedded records,
which have fields of their own. A leaf is a column at any depth; it is read and written in a record without touching
the others.
-/

namespace RowMapper

inductive Fields where
  | nil
  /-- A field kept in a column, whose name can be given by a tag. -/
  | column (name : String) (tag : Option String) (type : NativeType) (rest : Fields)
  | transient (name : String) (type : NativeType) (rest : Fields)
  | embedded (name recordName : String) (inner rest : Fields)
deriving DecidableEq

namespace Fields

def Values : Fields → Type
  | nil => Unit
  | column _ _ type rest => type.Carrier × rest.Values
  | transient _ type rest => type.Carrier × rest.Values
  | embedded _ _ inner rest => inner.Values × rest.Values

def fresh : (fs : Fields) → fs.Values
  | nil => ()
  | column _ _ type rest => (type.default, rest.fresh)
  | transient _ type rest => (type.default, rest.fresh)
  | embedded _ _ inner rest => (inner.fresh, rest.fresh)

end Fields

/-- A column of a record type, at any depth. -/
inductive Leaf : Fields → Type where
  | here {name tag type rest} : Leaf (.column name tag type rest)
  | afterColumn {name tag type rest} (l : Leaf rest) : Leaf (.column name tag type rest)
  | afterTransient {name type rest} (l : Leaf rest) : Leaf (.transient name type rest)
  | inside {name recordName inner rest} (l : Leaf inner) : Leaf (.embedded name recordName inner rest)
  | afterEmbedded {name recordName inner rest} (l : Leaf rest) : Leaf (.embedded name recordName inner rest)

namespace Leaf

def type {fs : Fields} : Leaf fs → NativeType
  | @here _ _ type _ => type
  | afterColumn l | afterTransient l | inside l | afterEmbedded l => l.type

def path {fs : Fields} : Leaf fs → String
  | @here name _ _ _ => name
  | @inside name _ _ _ l => name ++ "." ++ l.path
  | afterColumn l | afterTransient l | afterEmbedded l => l.path

def get {fs : Fields} : (l : Leaf fs) → fs.Values → l.type.Carrier
  | here, v => v.1
  | inside l, v => l.get v.1
  | afterColumn l, v | afterTransient l, v | afterEmbedded l, v => l.get v.2

def set {fs : Fields} : (l : Leaf fs) → l.type.Carrier → fs.Values → fs.Values
  | here, x, v => (x, v.2)
  | inside l, x, v => (l.set x v.1, v.2)
  | afterColumn l, x, v | afterTransient l, x, v | afterEmbedded l, x, v => (v.1, l.set x v.2)

end Leaf

/-- All columns, depth first, in order. -/
def Fields.leaves : (fs : Fields) → List (Leaf fs)
  | nil => []
  | column _ _ _ rest => .here :: rest.leaves.map .afterColumn
  | transient _ _ rest => rest.leaves.map .afterTransient
  | embedded _ _ inner rest => inner.leaves.map .inside ++ rest.leaves.map .afterEmbedded

/-- The paths and contents of all transient fields, depth first, in order; `parent` stands before the paths. -/
def Fields.transients (parent : String) : (fs : Fields) → fs.Values → List (String × (t : NativeType) × t.Carrier)
  | nil, _ => []
  | column _ _ _ rest, v => rest.transients parent v.2
  | transient name type rest, v => (parent ++ name, ⟨type, v.1⟩) :: rest.transients parent v.2
  | embedded name _ inner rest, v => inner.transients (parent ++ name ++ ".") v.1 ++ rest.transients parent v.2

end RowMapper
