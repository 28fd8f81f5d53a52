import RowMapper.Number.Binary

/-!
# JSON documents

Documents as trees. The members of an object stand in the order in which they are kept; a canonical document has them
sorted by name, each name once.
-/

namespace RowMapper

open Number

inductive Json where
  | null
  | bool (b : Bool)
  | integer (n : Int)
  | real (x : Double)
  | string (s : String)
  | array (items : List Json)
  | object (members : List (String × Json))
deriving Inhabited

namespace Json

mutual

def decEq : (a b : Json) → Decidable (a = b)
  | .null, .null => isTrue rfl
  | .bool a, .bool b => if h : a = b then isTrue (h ▸ rfl) else isFalse fun e => h (by injection e)
  | .integer a, .integer b => if h : a = b then isTrue (h ▸ rfl) else isFalse fun e => h (by injection e)
  | .real a, .real b => if h : a = b then isTrue (h ▸ rfl) else isFalse fun e => h (by injection e)
  | .string a, .string b => if h : a = b then isTrue (h ▸ rfl) else isFalse fun e => h (by injection e)
  | .array a, .array b =>
    match decEqItems a b with
    | isTrue h => isTrue (h ▸ rfl)
    | isFalse h => isFalse fun e => h (by injection e)
  | .object a, .object b =>
    match decEqMembers a b with
    | isTrue h => isTrue (h ▸ rfl)
    | isFalse h => isFalse fun e => h (by injection e)
  | .null, .bool _ | .null, .integer _ | .null, .real _ | .null, .string _ | .null, .array _
  | .null, .object _ | .bool _, .null | .bool _, .integer _ | .bool _, .real _ | .bool _, .string _
  | .bool _, .array _ | .bool _, .object _ | .integer _, .null | .integer _, .bool _ | .integer _, .real _
  | .integer _, .string _ | .integer _, .array _ | .integer _, .object _ | .real _, .null | .real _, .bool _
  | .real _, .integer _ | .real _, .string _ | .real _, .array _ | .real _, .object _ | .string _, .null
  | .string _, .bool _ | .string _, .integer _ | .string _, .real _ | .string _, .array _
  | .string _, .object _ | .array _, .null | .array _, .bool _ | .array _, .integer _ | .array _, .real _
  | .array _, .string _ | .array _, .object _ | .object _, .null | .object _, .bool _ | .object _, .integer _
  | .object _, .real _ | .object _, .string _ | .object _, .array _ =>
    isFalse nofun

def decEqItems : (a b : List Json) → Decidable (a = b)
  | [], [] => isTrue rfl
  | [], _ :: _ | _ :: _, [] => isFalse nofun
  | x :: xs, y :: ys =>
    match decEq x y, decEqItems xs ys with
    | isTrue h, isTrue k => isTrue (h ▸ k ▸ rfl)
    | isFalse h, _ => isFalse fun e => h (by injection e)
    | _, isFalse k => isFalse fun e => k (by injection e)

def decEqMembers : (a b : List (String × Json)) → Decidable (a = b)
  | [], [] => isTrue rfl
  | [], _ :: _ | _ :: _, [] => isFalse nofun
  | (m, x) :: xs, (n, y) :: ys =>
    if hn : m = n then
      match decEq x y, decEqMembers xs ys with
      | isTrue h, isTrue k => isTrue (hn ▸ h ▸ k ▸ rfl)
      | isFalse h, _ => isFalse fun e => h (by injection e with e _; injection e)
      | _, isFalse k => isFalse fun e => k (by injection e)
    else isFalse fun e => hn (by injection e with e _; injection e)

end

instance : DecidableEq Json := decEq

/-- A member put into its place among members sorted by name; a member of the same name gives way. -/
def putMember {α : Type} (name : String) (value : α) : List (String × α) → List (String × α)
  | [] => [(name, value)]
  | (n, v) :: rest =>
    if name == n then (name, value) :: rest
    else if name < n then (name, value) :: (n, v) :: rest
    else (n, v) :: putMember name value rest

def sortMembers {α : Type} (members : List (String × α)) : List (String × α) :=
  members.foldl (fun sorted m => putMember m.1 m.2 sorted) []

/-- The document with the members of every object sorted by name, of equal names the last. -/
def canonical : Json → Json
  | .array items => .array (canonicalItems items)
  | .object members => .object (sortMembers (canonicalMembers members))
  | .null => .null
  | .bool b => .bool b
  | .integer n => .integer n
  | .real x => .real x
  | .string s => .string s
where
  canonicalItems : List Json → List Json
    | [] => []
    | x :: xs => x.canonical :: canonicalItems xs
  canonicalMembers : List (String × Json) → List (String × Json)
    | [] => []
    | (n, x) :: xs => (n, x.canonical) :: canonicalMembers xs

end Json

end RowMapper
