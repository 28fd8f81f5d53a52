import RowMapper.Store.Statement
import RowMapper.Store.Token

/-!
# The grammar of statements

How tokens are read as a statement. Keywords are read without regard to case, and placeholders without a number count
on from the greatest number so far.
-/

namespace RowMapper.Store

/-- Reads something off the front of the tokens. -/
abbrev Grammar (α : Type) := StateT (List Token) Option α

namespace Grammar

variable {α : Type}

def lowercase (s : String) : String := String.ofList (s.toList.map Char.toLower)

def next : Grammar Token := fun
  | [] => none
  | token :: rest => some (token, rest)

/-- Whether the tokens begin with a keyword. -/
def startsWith (keyword : String) : List Token → Bool
  | .word s :: _ => lowercase s == keyword
  | _ => false

def keyword (s : String) : Grammar Unit := fun tokens =>
  if startsWith s tokens then some ((), tokens.tail) else none

def keywords (words : List String) : Grammar Unit := words.forM keyword

def symbol (c : Char) : Grammar Unit := fun tokens =>
  if tokens.head? = some (.symbol c) then some ((), tokens.tail) else none

/-- Reads something if it is there, and nothing otherwise. -/
def optional (g : Grammar α) : Grammar (Option α) := fun tokens =>
  match g tokens with
  | some (a, rest) => some (some a, rest)
  | none => some (none, tokens)

def present (g : Grammar α) : Grammar Bool := return (← optional g).isSome

/-- One or more items, with separators between them, at most as many as `fuel` and one. -/
def separatedWithin (separator : Grammar Unit) (item : Grammar α) : (fuel : Nat) → Grammar (List α)
  | 0 => return [← item]
  | fuel + 1 => do
    let first ← item
    if ← present separator then return first :: (← separatedWithin separator item fuel) else return [first]

/-- One or more items; each takes at least one token. -/
def separated (separator : Grammar Unit) (item : Grammar α) : Grammar (List α) := fun tokens =>
  separatedWithin separator item tokens.length tokens

/-- Zero or more items, at most as many as `fuel`. -/
def repeatedWithin (item : Grammar α) : (fuel : Nat) → Grammar (List α)
  | 0 => return []
  | fuel + 1 => do
    match ← optional item with
    | some first => return first :: (← repeatedWithin item fuel)
    | none => return []

def repeated (item : Grammar α) : Grammar (List α) := fun tokens => repeatedWithin item tokens.length tokens

def grouped (item : Grammar α) : Grammar (List α) := do
  symbol '('
  let items ← separated (symbol ',') item
  symbol ')'
  return items

/-- Words that cannot be the name of anything. -/
def reserved : List String :=
  ["add", "all", "alter", "and", "as", "autoincrement", "between", "case", "check", "collate", "commit", "constraint",
   "create", "default", "deferrable", "delete", "distinct", "drop", "else", "escape", "except", "exists", "foreign",
   "from", "group", "having", "in", "index", "insert", "intersect", "into", "is", "isnull", "join", "limit", "not",
   "nothing", "notnull", "null", "on", "or", "order", "primary", "references", "returning", "select", "set", "table",
   "then", "to", "transaction", "union", "unique", "update", "using", "values", "when", "where"]

def name : Grammar String := do
  match ← next with
  | .quoted s => return s
  | .text s => return s
  | .word s => if reserved.contains (lowercase s) then failure else return s
  | _ => failure

/-- An integer that does not fit is a real number. -/
def integerLiteral (negative : Bool) (n : Nat) : Cell :=
  let value : Int := if negative then -n else n
  if fitsInt64 value then .integer (Int64.ofInt value)
  else .real (realOfNumeral negative { whole := Nat.toDigits 10 n })

def number (negative : Bool) : Grammar Cell := do
  match ← next with
  | .integer n => return integerLiteral negative n
  | .real x => return .real (if negative then ⟨x.bits ^^^ 0x8000000000000000⟩ else x)
  | _ => failure

def expression : Grammar Expression := do
  match ← next with
  | .quoted s => return .name s true
  | .text s => return .literal (.text s)
  | .integer n => return .literal (integerLiteral false n)
  | .real x => return .literal (.real x)
  | .parameter (some n) => return .argument n
  | .symbol '-' => return .literal (← number true)
  | .symbol '+' => return .literal (← number false)
  | .word s =>
    if lowercase s == "null" then return .literal .null
    else if reserved.contains (lowercase s) then failure
    else return .name s false
  | _ => failure

def equation : Grammar Equation := do
  let left ← expression
  symbol '='
  let _ ← optional (symbol '=')
  return { left, right := ← expression }

/-- The conditions of a statement, all of which have to hold. -/
def conditions : Grammar (List Equation) := do
  if ← present (keyword "where") then separated (keyword "and") equation else return []

def typeWord : Grammar String := do
  match ← next with
  | .word s => if reserved.contains (lowercase s) then failure else return s
  | .quoted s => return s
  | _ => failure

/-- A declared type: words, and one or two sizes. -/
def typeName : Grammar String := do
  let words ← repeated typeWord
  let _ ← optional (grouped (number false))
  return " ".intercalate words

def reference : Grammar Reference := do
  keyword "references"
  let table ← name
  let column ← optional (grouped name)
  let deferrable ← present (keyword "deferrable")
  let deferred ← if deferrable then present (keywords ["initially", "deferred"]) else pure false
  return { table, column := (column.bind List.head?).getD "rowid", deferred }

/-- One constraint of a column, as what it does to the definition so far. -/
def columnConstraint : Grammar (ColumnDefinition → ColumnDefinition) := do
  let tokens ← get
  if startsWith "not" tokens then
    keywords ["not", "null"]
    return fun c => { c with notNull := true }
  else if startsWith "null" tokens then
    keyword "null"
    return id
  else if startsWith "unique" tokens then
    keyword "unique"
    return fun c => { c with unique := true }
  else if startsWith "primary" tokens then
    keywords ["primary", "key"]
    let autoIncrement ← present (keyword "autoincrement")
    return fun c => { c with isKey := true, autoIncrement }
  else
    let target ← reference
    return fun c => { c with reference := some target }

def columnDefinition : Grammar ColumnDefinition := do
  let name ← name
  let type ← typeName
  let constraints ← repeated columnConstraint
  return constraints.foldl (fun c f => f c) { name, type }

/-- A part of a table definition after its columns. -/
def tableConstraint : Grammar (TableDefinition → TableDefinition) := do
  if startsWith "unique" (← get) then
    keyword "unique"
    let columns ← grouped name
    return fun t => { t with uniqueGroups := t.uniqueGroups ++ [columns] }
  else
    keywords ["primary", "key"]
    let columns ← grouped name
    return fun t => { t with keys := t.keys ++ [columns] }

inductive DefinitionPart where
  | column (c : ColumnDefinition)
  | constraint (f : TableDefinition → TableDefinition)

def definitionPart : Grammar DefinitionPart := do
  let tokens ← get
  if startsWith "unique" tokens || startsWith "primary" tokens then return .constraint (← tableConstraint)
  else return .column (← columnDefinition)

/-- The columns come before the constraints of the table. -/
def addPart (t : TableDefinition) : DefinitionPart → Option TableDefinition
  | .column c => if t.keys.isEmpty && t.uniqueGroups.isEmpty then some { t with columns := t.columns ++ [c] } else none
  | .constraint f => if t.columns.isEmpty then none else some (f t)

def guard (words : List String) : Grammar Bool := present (keywords words)

def createTable : Grammar Statement := do
  keyword "table"
  let guarded ← guard ["if", "not", "exists"]
  let name ← name
  let parts ← grouped definitionPart
  match parts.foldlM addPart { name, columns := [] } with
  | some table => return .createTable guarded table
  | none => failure

def createIndex (unique : Bool) : Grammar Statement := do
  keyword "index"
  let guarded ← guard ["if", "not", "exists"]
  let index ← name
  keyword "on"
  let table ← name
  return .createIndex guarded unique index table (← grouped expression)

def create : Grammar Statement := do
  if startsWith "table" (← get) then createTable else createIndex (← present (keyword "unique"))

def drop : Grammar Statement := do
  if startsWith "table" (← get) then
    keyword "table"
    let guarded ← guard ["if", "exists"]
    return .dropTable guarded (← name)
  else
    keyword "index"
    let guarded ← guard ["if", "exists"]
    return .dropIndex guarded (← name)

def insert : Grammar Statement := do
  keyword "into"
  let table ← name
  let columns ← optional (grouped name)
  keyword "values"
  return .insert table columns (← grouped expression)

def change : Grammar (String × Expression) := do
  let column ← name
  symbol '='
  return (column, ← expression)

def update : Grammar Statement := do
  let table ← name
  keyword "set"
  let changes ← separated (symbol ',') change
  return .update table changes (← conditions)

def delete : Grammar Statement := do
  keyword "from"
  let table ← name
  return .delete table (← conditions)

def count : Grammar ResultColumn := do
  keyword "count"
  symbol '('
  symbol '*'
  symbol ')'
  return .count

def all : Grammar ResultColumn := do
  symbol '*'
  return .all

def resultColumn : Grammar ResultColumn := do
  match ← optional all, ← optional count with
  | some result, _ | none, some result => return result
  | none, none =>
    let e ← expression
    let label ← if ← present (keyword "as") then some <$> name else pure none
    return .value e label

def select : Grammar Statement := do
  let results ← separated (symbol ',') resultColumn
  let table ← if ← present (keyword "from") then some <$> name else pure none
  return .select results table (← conditions)

def setting : Grammar Statement := do
  let name ← name
  symbol '='
  match ← next with
  | .word value => return .setting (lowercase name) (lowercase value)
  | .integer n => return .setting (lowercase name) (Number.integerText n)
  | _ => failure

def statement : Grammar Statement := do
  match ← next with
  | .word s =>
    match lowercase s with
    | "create" => create
    | "drop" => drop
    | "insert" => insert
    | "update" => update
    | "delete" => delete
    | "select" => select
    | "pragma" => setting
    | _ => failure
  | _ => failure

end Grammar

/-- The tokens with every placeholder numbered, and the greatest number. -/
def numberPlaceholders (greatest : Nat) : List Token → List Token × Nat
  | [] => ([], greatest)
  | .parameter n :: rest =>
    let number := n.getD (greatest + 1)
    let (rest, count) := numberPlaceholders (max greatest number) rest
    (.parameter (some number) :: rest, count)
  | token :: rest =>
    let (rest, count) := numberPlaceholders greatest rest
    (token :: rest, count)

/-- The first statement of a text, and how many arguments it takes. -/
def Statement.parse? (sql : String) : Option (Statement × Nat) := do
  let (tokens, count) := numberPlaceholders 0 (← Token.scan? sql)
  match Grammar.statement tokens with
  | some (statement, []) => return (statement, count)
  | _ => none

end RowMapper.Store
