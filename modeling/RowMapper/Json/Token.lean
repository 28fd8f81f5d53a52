import RowMapper.Json.Number

/-!
# JSON tokens

The text of a document cut into tokens: brackets, commas, colons, strings with their escapes resolved, and words, which
are numbers or names of constants.
-/

namespace RowMapper.Json

inductive Token where
  | openArray
  | closeArray
  | openObject
  | closeObject
  | comma
  | colon
  | string (s : String)
  | scalar (value : Json)
deriving DecidableEq

/-- A piece of a string: a character, or a 16-bit unit given by an escape. -/
inductive TextPart where
  | char (c : Char)
  | unit (n : Nat)

def hexDigit? (c : Char) : Option Nat :=
  if '0' ≤ c && c ≤ '9' then some (c.toNat - '0'.toNat)
  else if 'a' ≤ c && c ≤ 'f' then some (c.toNat - 'a'.toNat + 10)
  else if 'A' ≤ c && c ≤ 'F' then some (c.toNat - 'A'.toNat + 10)
  else none

def simpleEscape? : Char → Option Char
  | '"' => some '"'
  | '\\' => some '\\'
  | '/' => some '/'
  | 'b' => some '\x08'
  | 'f' => some '\x0c'
  | 'n' => some '\n'
  | 'r' => some '\r'
  | 't' => some '\t'
  | _ => none

def textParts? : List Char → Option (List TextPart)
  | [] => some []
  | '\\' :: 'u' :: a :: b :: c :: d :: rest => do
    let n := (← hexDigit? a) * 4096 + (← hexDigit? b) * 256 + (← hexDigit? c) * 16 + (← hexDigit? d)
    return .unit n :: (← textParts? rest)
  | '\\' :: c :: rest => return .char (← simpleEscape? c) :: (← textParts? rest)
  | c :: rest => return .char c :: (← textParts? rest)

def isHighSurrogate (n : Nat) : Bool := 0xD800 ≤ n && n < 0xDC00

def isLowSurrogate (n : Nat) : Bool := 0xDC00 ≤ n && n < 0xE000

/-- The characters of a string; two surrogates make one character, one alone makes none. -/
def joinParts? : List TextPart → Option (List Char)
  | [] => some []
  | .char c :: rest => return c :: (← joinParts? rest)
  | .unit high :: .unit low :: rest =>
    if isHighSurrogate high && isLowSurrogate low then
      return Char.ofNat (0x10000 + (high - 0xD800) * 0x400 + (low - 0xDC00)) :: (← joinParts? rest)
    else if isHighSurrogate high || isLowSurrogate high then none
    else return Char.ofNat high :: (← joinParts? (.unit low :: rest))
  | .unit n :: rest =>
    if isHighSurrogate n || isLowSurrogate n then none else return Char.ofNat n :: (← joinParts? rest)

def unescape? (s : List Char) : Option String := do
  return String.ofList (← joinParts? (← textParts? s))

def word? (s : List Char) : Option Token :=
  match String.ofList s with
  | "null" => some (.scalar .null)
  | "true" => some (.scalar (.bool true))
  | "false" => some (.scalar (.bool false))
  | _ => (ofNumeral? s).map .scalar

def isWordChar (c : Char) : Bool := c.isAlphanum || c == '+' || c == '-' || c == '.'

/-- Where the scanner is: outside strings, after the characters of a word, or inside a string; both in reverse order. -/
inductive Scan where
  | outside (word : List Char)
  | inside (text : List Char)

/-- What a character that belongs to no word yields and how scanning goes on. -/
def delimiter? : Char → Option (List Token × Scan)
  | '[' => some ([.openArray], .outside [])
  | ']' => some ([.closeArray], .outside [])
  | '\x7b' => some ([.openObject], .outside [])
  | '\x7d' => some ([.closeObject], .outside [])
  | ',' => some ([.comma], .outside [])
  | ':' => some ([.colon], .outside [])
  | ' ' | '\n' | '\t' | '\r' => some ([], .outside [])
  | '"' => some ([], .inside [])
  | _ => none

def endWord? : List Char → Option (List Token)
  | [] => some []
  | word => (word? word.reverse).map ([·])

def scan? : Scan → List Char → Option (List Token)
  | .outside word, [] => endWord? word
  | .outside word, c :: rest =>
    if isWordChar c then scan? (.outside (c :: word)) rest
    else do
      let before ← endWord? word
      let (here, next) ← delimiter? c
      return before ++ here ++ (← scan? next rest)
  | .inside _, [] => none
  | .inside text, '"' :: rest => do
    let s ← unescape? text.reverse
    return .string s :: (← scan? (.outside []) rest)
  | .inside text, '\\' :: c :: rest => scan? (.inside (c :: '\\' :: text)) rest
  | .inside text, c :: rest => if c.toNat < 0x20 then none else scan? (.inside (c :: text)) rest

end RowMapper.Json
