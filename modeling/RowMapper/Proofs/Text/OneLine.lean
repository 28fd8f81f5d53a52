import Mathlib.Tactic.SplitIfs
import RowMapper.Value

/-!
# Display forms stand on one line

Whatever a value holds, no line feed is in its display form: texts, and the strings of documents, escape those that they
have, and numbers are written without one.
-/

namespace RowMapper

open Number

def IsOneLine (s : String) : Prop := '\n' ∉ s.toList

instance (s : String) : Decidable (IsOneLine s) := inferInstanceAs (Decidable ('\n' ∉ s.toList))

@[simp] theorem isOneLine_append {s t : String} : IsOneLine (s ++ t) ↔ IsOneLine s ∧ IsOneLine t := by
  simp [IsOneLine]

@[simp] theorem isOneLine_ofList {l : List Char} : IsOneLine (String.ofList l) ↔ '\n' ∉ l := by
  simp [IsOneLine]

theorem isOneLine_intercalate {separator : String} (between : IsOneLine separator) {parts : List String}
    (each : ∀ s ∈ parts, IsOneLine s) : IsOneLine (separator.intercalate parts) := by
  induction parts with
  | nil => simp [IsOneLine]
  | cons s rest ih =>
    obtain ⟨first, others⟩ := List.forall_mem_cons.mp each
    cases rest with
    | nil => simpa using first
    | cons t rest =>
      rw [String.intercalate_cons_cons, isOneLine_append, isOneLine_append]
      exact ⟨⟨first, between⟩, ih others⟩

theorem isOneLine_between {opening s closing : String} (plain : IsOneLine s) (opens : IsOneLine opening := by decide)
    (closes : IsOneLine closing := by decide) : IsOneLine (opening ++ s ++ closing) :=
  isOneLine_append.mpr ⟨isOneLine_append.mpr ⟨opens, plain⟩, closes⟩

/-! ### Numbers -/

theorem newline_toDigits {base : Nat} (large : 1 < base) (n : Nat) : '\n' ∉ Nat.toDigits base n := by
  have noDigit : ∀ d, '\n' ∉ [Nat.digitChar d] := by
    intro d
    rw [List.mem_singleton]
    exact (Nat.digitChar_ne '\n' rfl).symm
  induction n using Nat.strongRecOn with
  | ind n ih =>
    by_cases small : n < base
    · rw [Nat.toDigits_of_lt_base small]
      exact noDigit n
    · have smaller : n / base < n := Nat.div_lt_self (by omega) large
      rw [Nat.toDigits_of_base_le large (Nat.le_of_not_lt small), List.mem_append, not_or]
      exact ⟨ih _ smaller, noDigit _⟩

theorem integerText_oneLine (n : Int) : IsOneLine (integerText n) := by
  rw [integerText, isOneLine_ofList, List.mem_append, not_or]
  refine ⟨?_, newline_toDigits (by decide) _⟩
  split <;> decide

namespace Number

theorem Layout.decimal_oneLine (l : Layout) (d : Decimal) : IsOneLine (l.decimal d) := by
  have digits : ∀ n, '\n' ∉ Nat.toDigits 10 n := newline_toDigits (by decide)
  have front : ∀ n k, '\n' ∉ (Nat.toDigits 10 n).take k := fun n k member => digits n (List.mem_of_mem_take member)
  have back : ∀ n k, '\n' ∉ (Nat.toDigits 10 n).drop k := fun n k member => digits n (List.mem_of_mem_drop member)
  simp only [decimal, isOneLine_ofList]
  split_ifs <;> simp [digits, front, back, -List.drop_one]

theorem signed_oneLine {negative : Bool} {text : String} (plain : IsOneLine text) :
    IsOneLine (signed negative text) := by
  unfold signed
  split
  · exact isOneLine_append.mpr ⟨by decide, plain⟩
  · exact plain

theorem Layout.number_oneLine {l : Layout} (notANumber : IsOneLine l.notANumber) (infinite : IsOneLine l.infinite)
    (f : BinaryFormat) (c : Class) : IsOneLine (l.number f c) := by
  cases c with
  | nan => exact notANumber
  | infinite negative => exact signed_oneLine infinite
  | finite negative m e => exact signed_oneLine (l.decimal_oneLine _)

end Number

/-! ### Escaped text -/

theorem quotedChar_oneLine (c : Char) : '\n' ∉ Text.quotedChar c := by
  unfold Text.quotedChar
  split
  case h_7 =>
    rename_i notNewline _ _
    split
    · simpa using Ne.symm notNewline
    · simp [Text.codePointEscape, newline_toDigits]
  all_goals decide

theorem quoted_oneLine (s : String) : IsOneLine (Text.quoted s) := by
  rw [Text.quoted, isOneLine_ofList]
  simp [quotedChar_oneLine]

namespace Json

theorem escapedChar_oneLine (c : Char) : '\n' ∉ escapedChar c := by
  unfold escapedChar
  have digit : ∀ d, Nat.digitChar d ≠ '\n' := fun d => Nat.digitChar_ne '\n' rfl
  split
  case h_8 =>
    rename_i notNewline _ _ _ _
    split
    · simp [(digit _).symm]
    · simpa using Ne.symm notNewline
  all_goals decide

theorem stringText_oneLine (s : String) : IsOneLine (stringText s) := by
  rw [stringText, isOneLine_ofList]
  simp [escapedChar_oneLine]

mutual

theorem text_oneLine : (j : Json) → IsOneLine j.text
  | .null => by decide
  | .bool b => by cases b <;> decide
  | .integer n => integerText_oneLine n
  | .real x => numberLayout.number_oneLine (by decide) (by decide) _ _
  | .string s => stringText_oneLine s
  | .array items => by
    rw [text]
    exact isOneLine_between (isOneLine_intercalate (by decide) (itemTexts_oneLine items))
  | .object members => by
    rw [text]
    exact isOneLine_between (isOneLine_intercalate (by decide) (memberTexts_oneLine members))

theorem itemTexts_oneLine : (items : List Json) → ∀ s ∈ text.itemTexts items, IsOneLine s
  | [] => nofun
  | x :: xs => by
    rw [text.itemTexts]
    exact List.forall_mem_cons.mpr ⟨text_oneLine x, itemTexts_oneLine xs⟩

theorem memberTexts_oneLine : (members : List (String × Json)) → ∀ s ∈ text.memberTexts members, IsOneLine s
  | [] => nofun
  | (name, x) :: members => by
    rw [text.memberTexts]
    refine List.forall_mem_cons.mpr ⟨?_, memberTexts_oneLine members⟩
    exact isOneLine_append.mpr ⟨isOneLine_append.mpr ⟨stringText_oneLine name, by decide⟩, text_oneLine x⟩

end

end Json

theorem Value.display_oneLine (x : Value) : IsOneLine x.display := by
  cases x with
  | null => decide
  | bool b => cases b <;> decide
  | tinyInt n | smallInt n | int n | bigInt n => exact integerText_oneLine _
  | float x | double x => exact numberLayout.number_oneLine (by decide) (by decide) _ _
  | text s => exact quoted_oneLine s
  | bytes b | timestamp n => exact isOneLine_between (integerText_oneLine _)
  | json document => exact document.text_oneLine

end RowMapper
