import RowMapper.Record.Basic
import RowMapper.Text.Basic

/-!
# Converters from rules

A converter can be given as a list of rules. To each value the first rule applies that fits its direction and column.
-/

namespace RowMapper

inductive Direction where
  | toDb
  | fromDb
deriving DecidableEq

inductive ConversionAction where
  | upper
  | lower
  /-- Replaces a value by a text that tells where it was. -/
  | tag
  | const (x : Value)
  | refuse
deriving DecidableEq

structure ConversionRule where
  direction : Direction
  /-- The column's name; without one, the rule fits every column. -/
  column : Option String
  action : ConversionAction
deriving DecidableEq

namespace ConversionAction

def mapText (f : String → String) : Value → Value
  | .text s => .text (f s)
  | x => x

def apply (a : ConversionAction) (c : Column) (x : Value) : Except Error Value :=
  match a with
  | upper => .ok (mapText Text.upper x)
  | lower => .ok (mapText Text.lower x)
  | tag => .ok (.text (c.path ++ ":" ++ c.name ++ ":" ++ x.display))
  | const y => .ok y
  | refuse => .error (.conversion (c.name ++ " refuses " ++ x.display))

end ConversionAction

namespace Converter

def applyRules (rules : List ConversionRule) (d : Direction) (c : Column) (x : Value) : Except Error Value :=
  match rules.find? fun r => r.direction = d ∧ r.column.all (· == c.name) with
  | some r => r.action.apply c x
  | none => .ok x

def ofRules (rules : List ConversionRule) : Converter where
  toDb := applyRules rules .toDb
  fromDb := applyRules rules .fromDb

end Converter

end RowMapper
