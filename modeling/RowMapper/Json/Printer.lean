import RowMapper.Json.Basic
import RowMapper.Number.Numeral
import RowMapper.Number.Shortest

/-!
# Compact JSON text

Documents written without spaces. Only quotes, backslashes and control characters are escaped.
-/

namespace RowMapper.Json

open Number

/-- Numbers that are no integers have a point or an exponent; the exponent always has a sign. -/
def numberLayout : Layout where
  plainFrom := -5
  plainTo := 15
  pointZero := true
  exponentSign := true
  tieUp := false
  notANumber := "null"
  infinite := "null"

def escapedChar (c : Char) : List Char :=
  match c with
  | '"' => ['\\', '"']
  | '\\' => ['\\', '\\']
  | '\n' => ['\\', 'n']
  | '\r' => ['\\', 'r']
  | '\t' => ['\\', 't']
  | '\x08' => ['\\', 'b']
  | '\x0c' => ['\\', 'f']
  | c =>
    if c.toNat < 0x20 then
      ['\\', 'u', '0', '0', Nat.digitChar (c.toNat / 16), Nat.digitChar (c.toNat % 16)]
    else [c]

def stringText (s : String) : String := String.ofList ('"' :: s.toList.flatMap escapedChar ++ ['"'])

/-- The compact text of a document. -/
def text : Json → String
  | .null => "null"
  | .bool b => if b then "true" else "false"
  | .integer n => integerText n
  | .real x => numberLayout.double x
  | .string s => stringText s
  | .array items => "[" ++ ",".intercalate (itemTexts items) ++ "]"
  | .object members => "\x7b" ++ ",".intercalate (memberTexts members) ++ "\x7d"
where
  itemTexts : List Json → List String
    | [] => []
    | x :: xs => x.text :: itemTexts xs
  memberTexts : List (String × Json) → List String
    | [] => []
    | (n, x) :: xs => (stringText n ++ ":" ++ x.text) :: memberTexts xs

end RowMapper.Json
