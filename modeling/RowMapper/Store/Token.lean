import RowMapper.Store.RealText

/-!
# Tokens of statements

A statement is a sequence of words, quoted identifiers, text and number literals, parameters and single symbols, with
blanks between them.
-/

namespace RowMapper.Store

open Number

inductive Token where
  | word (s : String)
  /-- An identifier between quotes; if nothing has its name, it stands for its text. -/
  | quoted (s : String)
  | text (s : String)
  | integer (n : Nat)
  | real (x : Double)
  /-- A placeholder, with its number if that is given. -/
  | parameter (n : Option Nat)
  | symbol (c : Char)
deriving DecidableEq

namespace Token

def isBlank (c : Char) : Bool := c == ' ' || c == '\t' || c == '\n' || c == '\r' || c == '\x0c'

def isWordStart (c : Char) : Bool := c.isAlpha || c == '_' || 128 ≤ c.toNat

def isWordPart (c : Char) : Bool := isWordStart c || c.isDigit || c == '$'

/-- What stands before the closing quote, where a doubled quote is one quote, and what follows it. -/
def quotedPart? (q : Char) : List Char → Option (List Char × List Char)
  | [] => none
  | [c] => if c = q then some ([], []) else none
  | c :: d :: rest =>
    if c = q then
      if d = q then (quotedPart? q rest).map fun (inner, rest) => (q :: inner, rest) else some ([], d :: rest)
    else (quotedPart? q (d :: rest)).map fun (inner, rest) => (c :: inner, rest)

def numberPart (s : List Char) : Token × List Char :=
  let (whole, rest) := digitRun s
  let (part, rest, hasPoint) := match rest with
    | '.' :: rest => let (part, rest) := digitRun rest; (part, rest, true)
    | rest => ([], rest, false)
  let (exponent?, rest) := match rest with
    | 'e' :: rest | 'E' :: rest =>
      let (negative, body) := splitSign rest
      match digitRun body with
      | ([], _) => (none, 'e' :: rest)
      | (digits, rest) => (some (if negative then -(ofDigits digits : Int) else ofDigits digits), rest)
    | rest => (none, rest)
  if !hasPoint && exponent?.isNone then (.integer (ofDigits whole), rest)
  else (.real (realOfNumeral false { whole, part, exponent := exponent?.getD 0 }), rest)

/-- The first token of a text that does not begin with a blank, and the rest. -/
def next? : List Char → Option (Token × List Char)
  | [] => none
  | '?' :: rest =>
    match digitRun rest with
    | ([], _) => some (.parameter none, rest)
    | (digits, rest) => some (.parameter (some (ofDigits digits)), rest)
  | '\'' :: rest => (quotedPart? '\'' rest).map fun (inner, rest) => (.text (String.ofList inner), rest)
  | '[' :: rest =>
    match rest.span (· != ']') with
    | (inner, _ :: rest) => some (.quoted (String.ofList inner), rest)
    | (_, []) => none
  | c :: rest =>
    if c == '"' || c == '\x60' then (quotedPart? c rest).map fun (inner, rest) => (.quoted (String.ofList inner), rest)
    else if c.isDigit || (c == '.' && rest.head?.any Char.isDigit) then some (numberPart (c :: rest))
    else if isWordStart c then
      some (.word (String.ofList ((c :: rest).takeWhile isWordPart)), (c :: rest).dropWhile isWordPart)
    else some (.symbol c, rest)

def scanWithin : (fuel : Nat) → List Char → Option (List Token)
  | 0, s => if (s.dropWhile isBlank).isEmpty then some [] else none
  | fuel + 1, s =>
    match s.dropWhile isBlank with
    | [] | ';' :: _ => some []
    | c :: rest => do
      let (token, rest) ← next? (c :: rest)
      return token :: (← scanWithin fuel rest)

/-- The tokens of the first statement of a text, unless it leaves a quote open. A zero character ends the text. -/
def scan? (sql : String) : Option (List Token) :=
  scanWithin sql.length ((sql.toList.takeWhile (· != '\x00')).dropWhile fun c => isBlank c || c == ';')

end Token

end RowMapper.Store
