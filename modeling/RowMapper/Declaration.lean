import RowMapper.Text.Basic
import RowMapper.Text.Quoted

/-!
# Declarations

A record type is declared as a struct whose `db` attributes name the table, tag columns and mark fields as transient or
embedded. Of several attributes or items the last one counts.
-/

namespace RowMapper

inductive AttributeValue where
  | text (s : String)
  | boolean (b : Bool)
  | number
deriving DecidableEq

/-- One item of a list of arguments: a path as its key, and a value if one is assigned. -/
structure AttributeItem where
  key : String
  value : Option AttributeValue
deriving DecidableEq

inductive AttributeForm where
  | bare
  | assigned (v : AttributeValue)
  /-- A value alone between the parentheses. -/
  | single (v : AttributeValue)
  | items (l : List AttributeItem)
deriving DecidableEq

structure Attribute where
  path : String
  form : AttributeForm
deriving DecidableEq

/-- What is declared: only structs with named fields, or without any, can be record types. -/
inductive DeclaredItem where
  | namedFields
  | unnamedFields
  | noFields
  | enumeration
  | union
deriving DecidableEq

structure FieldDeclaration where
  name : String
  attributes : List Attribute
deriving DecidableEq

structure Declaration where
  item : DeclaredItem
  name : String
  attributes : List Attribute
  fields : List FieldDeclaration
deriving DecidableEq

inductive FieldKind where
  | column (tag : Option String)
  | transient
  | embedded
deriving DecidableEq

structure RecordDefinition where
  name : String
  table : Option String
  customHooks : Bool
  fields : List (String × FieldKind)
deriving DecidableEq

inductive DeclarationError where
  | noArguments
  | noParentheses
  | valueWithoutKey
  | noValue
  | valueNotText
  | unexpectedValue
  | unknownStructKey (key : String)
  | unknownFieldKey (key : String)
  | invalidName (name : String)
  | enumeration
  | union
  | unnamedFields
deriving DecidableEq

/-- What may surround a word: white space, and the two marks that set a direction. -/
def isSpacing (c : Char) : Bool := Text.isBlank c || c == '\u200e' || c == '\u200f'

def bareWord (s : String) : String := String.ofList (Text.trimEnds isSpacing s.toList)

def betweenColons : List Char → List (List Char)
  | ':' :: ':' :: rest => [] :: betweenColons rest
  | c :: rest =>
    match betweenColons rest with
    | word :: others => (c :: word) :: others
    | [] => [[c]]
  | [] => [[]]

/-- The words of a path, which two colons join. -/
def pathWords (path : String) : List String :=
  (betweenColons path.toList).map fun word => bareWord (String.ofList word)

namespace DeclarationError

/-- A key with one blank between its words and the colons. -/
def spaced (key : String) : String := bareWord (" :: ".intercalate (pathWords key))

def message : DeclarationError → String
  | noArguments => "expected attribute arguments in parentheses: #[db(...)]"
  | noParentheses => "expected parentheses: #[db(...)]"
  | valueWithoutKey => "unexpected literal in nested attribute, expected ident"
  | noValue => "expected \x60=\x60"
  | valueNotText => "expected string literal"
  | unexpectedValue => "expected \x60,\x60"
  | unknownStructKey key =>
    "unknown db struct attribute \x60" ++ spaced key ++ "\x60. Valid attributes are: table, hooks"
  | unknownFieldKey key =>
    "unknown db attribute \x60" ++ spaced key ++ "\x60. Valid attributes are: column, transient, embed"
  | invalidName name =>
    "invalid column name " ++ Text.quoted name ++
      ": must be non-empty and contain no whitespace, quotes, semicolons or NUL"
  | enumeration => "Record can only be derived for structs, not enums"
  | union => "Record can only be derived for structs, not unions"
  | unnamedFields => "Record requires a struct with named fields"

end DeclarationError

namespace Declaration

/-- Blanks, quotes, semicolons and the zero character cannot stand in a name. -/
def isNameChar (c : Char) : Bool := !Text.isBlank c && !(['"', '\'', '\x60', ';', '\x00'].contains c)

def checkName (name : String) : Except DeclarationError String :=
  if name.isEmpty || name.toList.any (!isNameChar ·) then .error (.invalidName name) else .ok name

def itemText (i : AttributeItem) : Except DeclarationError String :=
  match i.value with
  | some (.text s) => .ok s
  | some _ => .error .valueNotText
  | none => .error .noValue

def flag {α : Type} (i : AttributeItem) (a : α) : Except DeclarationError α :=
  if i.value.isSome then .error .unexpectedValue else .ok a

/-- The items between the parentheses. A boolean alone is read as a key. -/
def argumentItems : AttributeForm → Except DeclarationError (List AttributeItem)
  | .bare => .error .noArguments
  | .assigned _ => .error .noParentheses
  | .single (.boolean b) => .ok [{ key := if b then "true" else "false", value := none }]
  | .single _ => .error .valueWithoutKey
  | .items l => .ok l

def ownAttributes (l : List Attribute) : List Attribute := l.filter (pathWords ·.path == ["db"])

def structItem (sofar : Option String × Bool) (i : AttributeItem) : Except DeclarationError (Option String × Bool) :=
  match pathWords i.key with
  | ["table"] => do return (some (← checkName (← itemText i)), sofar.2)
  | ["hooks"] => flag i (sofar.1, true)
  | _ => .error (.unknownStructKey i.key)

def structAttributes (l : List Attribute) : Except DeclarationError (Option String × Bool) :=
  (ownAttributes l).foldlM (fun sofar a => do (← argumentItems a.form).foldlM structItem sofar) (none, false)

/-- A tag names a column; a dash marks the field as transient. -/
def tagKind (tag : String) : Except DeclarationError FieldKind :=
  if tag = "-" then .ok .transient else (checkName tag).map fun tag => .column (some tag)

def fieldItem (i : AttributeItem) : Except DeclarationError FieldKind :=
  match pathWords i.key with
  | ["column"] => do tagKind (← itemText i)
  | ["transient"] => flag i .transient
  | ["embed"] => flag i .embedded
  | _ => .error (.unknownFieldKey i.key)

def fieldAttribute (sofar : FieldKind) (a : Attribute) : Except DeclarationError FieldKind :=
  match a.form with
  | .single (.text tag) => tagKind tag
  | form => do (← argumentItems form).foldlM (fun _ => fieldItem) sofar

def fieldKind (f : FieldDeclaration) : Except DeclarationError FieldKind :=
  (ownAttributes f.attributes).foldlM fieldAttribute (.column none)

def declaredFields (d : Declaration) : Except DeclarationError (List (String × FieldKind)) :=
  match d.item with
  | .namedFields => d.fields.mapM fun f => (fieldKind f).map (bareWord f.name, ·)
  | .noFields => .ok []
  | .unnamedFields => .error .unnamedFields
  | .enumeration => .error .enumeration
  | .union => .error .union

/-- The definition, or the first error: of the struct's attributes, of what is declared, of the fields in order. -/
def read (d : Declaration) : Except DeclarationError RecordDefinition := do
  let (table, customHooks) ← structAttributes d.attributes
  return { name := bareWord d.name, table, customHooks, fields := ← d.declaredFields }

end Declaration

namespace RecordDefinition

def describedNames : String × FieldKind → List String
  | (name, .column (some tag)) => [name, tag]
  | (name, _) => [name]

def columnNames (r : RecordDefinition) : List String :=
  r.fields.filterMap fun
    | (name, .column _) => some name
    | _ => none

def embeddedStarts (r : RecordDefinition) : List String :=
  r.fields.filterMap fun
    | (name, .embedded) => some (name ++ ".")
    | _ => none

/-- The names that a reader or a writer of fields tells apart, and the one that its errors show. -/
def accessorNames (r : RecordDefinition) : List String := r.columnNames ++ r.embeddedStarts ++ [r.name]

/-- All names in an implementation of the record type: its description, its table and name, a reader and a writer. -/
def allNames (r : RecordDefinition) : List String :=
  r.fields.flatMap describedNames ++ [r.table.getD r.name, r.name] ++ r.accessorNames ++ r.accessorNames

end RecordDefinition

end RowMapper
