import Mathlib.Data.List.Forall2
import RowMapper.Json.Printer
import RowMapper.Json.Token
import RowMapper.Proofs.Json.Number

/-!
# Scanning printed documents

Scanning undoes printing: an escaped string is scanned as one string, a number or a constant as one word, and the text
of a document as its tokens in order.
-/

namespace RowMapper.Json

open Number

theorem hexDigit?_digitChar : ∀ d < 16, hexDigit? (Nat.digitChar d) = some d := by decide

theorem digitChar_plain :
    ∀ d < 16, Nat.digitChar d ≠ '"' ∧ Nat.digitChar d ≠ '\\' ∧ 0x20 ≤ (Nat.digitChar d).toNat := by
  decide

/-- A character is escaped by a letter, by its number if it is a control character, or not at all. -/
theorem escapedChar_cases (c : Char) :
    (∃ e, escapedChar c = ['\\', e] ∧ e ≠ 'u' ∧ simpleEscape? e = some c) ∨
    (c.toNat < 0x20 ∧
      escapedChar c = ['\\', 'u', '0', '0', Nat.digitChar (c.toNat / 16), Nat.digitChar (c.toNat % 16)]) ∨
    (escapedChar c = [c] ∧ c ≠ '"' ∧ c ≠ '\\' ∧ 0x20 ≤ c.toNat) := by
  unfold escapedChar
  split
  case h_8 =>
    rename_i notQuote notBackslash _ _ _ _ _
    split
    · rename_i control
      exact .inr (.inl ⟨control, rfl⟩)
    · rename_i printed
      exact .inr (.inr ⟨rfl, notQuote, notBackslash, Nat.le_of_not_lt printed⟩)
  all_goals exact .inl ⟨_, rfl, by decide, rfl⟩

theorem scan?_plain {c : Char} (notQuote : c ≠ '"') (notBackslash : c ≠ '\\') (printed : 0x20 ≤ c.toNat)
    (text rest : List Char) : scan? (.inside text) (c :: rest) = scan? (.inside (c :: text)) rest := by
  rw [scan?]
  · rw [if_neg (Nat.not_lt.mpr printed)]
  · exact notQuote
  · exact fun _ _ same => absurd same notBackslash

theorem scan?_escaped (c : Char) (text rest : List Char) :
    scan? (.inside text) (escapedChar c ++ rest) = scan? (.inside ((escapedChar c).reverse ++ text)) rest := by
  rcases escapedChar_cases c with ⟨e, escaped, _, _⟩ | ⟨control, escaped⟩ | ⟨escaped, notQuote, notBackslash, printed⟩
  · rw [escaped]
    rfl
  · rw [escaped]
    obtain ⟨notQuote, notBackslash, printed⟩ := digitChar_plain (c.toNat / 16) (by omega)
    obtain ⟨notQuote', notBackslash', printed'⟩ := digitChar_plain (c.toNat % 16) (by omega)
    have zero := scan?_plain (c := '0') (by decide) (by decide) (by decide)
    simp only [List.cons_append, List.nil_append, scan?]
    rw [zero, zero, scan?_plain notQuote notBackslash printed, scan?_plain notQuote' notBackslash' printed']
    rfl
  · rw [escaped]
    exact scan?_plain notQuote notBackslash printed text rest

theorem scan?_escapes (s text rest : List Char) :
    scan? (.inside text) (s.flatMap escapedChar ++ rest) =
      scan? (.inside ((s.flatMap escapedChar).reverse ++ text)) rest := by
  induction s generalizing text with
  | nil => rfl
  | cons c s ih =>
    rw [List.flatMap_cons, List.append_assoc, scan?_escaped, ih, List.reverse_append, List.append_assoc]

theorem joinParts?_unit {c : Char} (control : c.toNat < 0x20) (parts : List TextPart) :
    joinParts? (.unit c.toNat :: parts) = (joinParts? parts).map (c :: ·) := by
  have notHigh : isHighSurrogate c.toNat = false := by
    unfold isHighSurrogate
    rw [decide_eq_false (by omega), Bool.false_and]
  have notLow : isLowSurrogate c.toNat = false := by
    unfold isLowSurrogate
    rw [decide_eq_false (by omega), Bool.false_and]
  have same : Char.ofNat c.toNat = c := Char.ofNat_toNat c
  -- no surrogate, so what stands behind it does not matter
  have alone : joinParts? (.unit c.toNat :: parts) = do return c :: (← joinParts? parts) := by
    cases parts with
    | nil => simp [joinParts?, notHigh, notLow, same]
    | cons part parts => cases part <;> simp [joinParts?, notHigh, notLow, same]
  rw [alone]
  cases joinParts? parts <;> rfl

/-- The piece that an escaped character is read as makes that character again. -/
theorem textParts?_escaped (c : Char) :
    ∃ part, (∀ rest, textParts? (escapedChar c ++ rest) = (textParts? rest).map (part :: ·)) ∧
      ∀ parts, joinParts? (part :: parts) = (joinParts? parts).map (c :: ·) := by
  rcases escapedChar_cases c with ⟨e, escaped, notU, stands⟩ | ⟨control, escaped⟩ | ⟨escaped, _, notBackslash, _⟩
  · refine ⟨.char c, fun rest => ?_, fun parts => ?_⟩
    · have read : textParts? ('\\' :: e :: rest) = do return .char (← simpleEscape? e) :: (← textParts? rest) := by
        rw [textParts?]
        exact fun _ _ _ _ _ same => absurd same notU
      rw [escaped]
      simp only [List.cons_append, List.nil_append, read, stands]
      cases textParts? rest <;> rfl
    · rw [joinParts?]
      cases joinParts? parts <;> rfl
  · refine ⟨.unit c.toNat, fun rest => ?_, fun parts => ?_⟩
    · have high : c.toNat / 16 < 16 := by omega
      have low : c.toNat % 16 < 16 := by omega
      have zero : hexDigit? '0' = some 0 := rfl
      rw [escaped]
      simp only [List.cons_append, List.nil_append, textParts?, zero, hexDigit?_digitChar _ high,
        hexDigit?_digitChar _ low]
      have number : 0 * 4096 + 0 * 256 + c.toNat / 16 * 16 + c.toNat % 16 = c.toNat := by omega
      cases textParts? rest with
      | none => rfl
      | some parts => exact congrArg (fun n => some (TextPart.unit n :: parts)) number
    · exact joinParts?_unit control parts
  · refine ⟨.char c, fun rest => ?_, fun parts => ?_⟩
    · rw [escaped]
      simp only [List.cons_append, List.nil_append]
      rw [textParts?]
      · cases textParts? rest <;> rfl
      · exact fun _ _ _ _ _ same _ => notBackslash same
      · exact fun _ _ same _ => notBackslash same
    · rw [joinParts?]
      cases joinParts? parts <;> rfl

theorem textParts?_escapes (s : List Char) :
    ∃ parts, textParts? (s.flatMap escapedChar) = some parts ∧ joinParts? parts = some s := by
  induction s with
  | nil => exact ⟨[], rfl, rfl⟩
  | cons c s ih =>
    obtain ⟨parts, read, joined⟩ := ih
    obtain ⟨part, reads, joins⟩ := textParts?_escaped c
    refine ⟨part :: parts, ?_, ?_⟩
    · rw [List.flatMap_cons, reads, read]
      rfl
    · rw [joins, joined]
      rfl

theorem unescape?_escapes (s : String) : unescape? (s.toList.flatMap escapedChar) = some s := by
  obtain ⟨parts, read, joined⟩ := textParts?_escapes s.toList
  unfold unescape?
  rw [read]
  simp [joined]

theorem scan?_quote (text rest : List Char) : scan? (.inside text) ('"' :: rest) =
    (unescape? text.reverse).bind fun s => (scan? (.outside []) rest).map (.string s :: ·) := by
  rw [scan?]
  cases unescape? text.reverse with
  | none => rfl
  | some s => cases scan? (.outside []) rest <;> rfl

/-! ## Scans that go on -/

/-- The text is scanned as the tokens whatever follows it, unless its last word goes on. -/
def Scans (text : List Char) (tokens : List Token) : Prop :=
  ∀ rest, (∀ c ∈ rest.head?, isWordChar c = false) →
    scan? (.outside []) (text ++ rest) = (scan? (.outside []) rest).map (tokens ++ ·)

/-- The character ends a word and makes a token of its own. -/
def Delimits (c : Char) (t : Token) : Prop := isWordChar c = false ∧ delimiter? c = some ([t], .outside [])

theorem scan?_word {word : List Char} (all : ∀ c ∈ word, isWordChar c = true) (before rest : List Char) :
    scan? (.outside before) (word ++ rest) = scan? (.outside (word.reverse ++ before)) rest := by
  induction word generalizing before with
  | nil => rfl
  | cons c word ih =>
    rw [List.cons_append, scan?, if_pos (all c List.mem_cons_self), ih fun c' member => all c' (.tail c member),
      List.reverse_cons, List.append_assoc]
    rfl

theorem endWord?_nil : endWord? [] = some [] := rfl

theorem scan?_delimiter {c : Char} {word : List Char} {before : List Token} (ends : isWordChar c = false)
    (ended : endWord? word = some before) (rest : List Char) :
    scan? (.outside word) (c :: rest) =
      (delimiter? c).bind fun found => (scan? found.2 rest).map (before ++ found.1 ++ ·) := by
  rw [scan?, if_neg (by simp [ends]), ended]
  cases delimiter? c with
  | none => rfl
  | some found =>
    rw [Option.bind_some]
    show (do return before ++ found.1 ++ (← scan? found.2 rest)) = _
    cases scan? found.2 rest <;> rfl

theorem scan?_endWord {word : List Char} {t : Token} (ended : endWord? word = some [t]) {rest : List Char}
    (ends : ∀ c ∈ rest.head?, isWordChar c = false) :
    scan? (.outside word) rest = (scan? (.outside []) rest).map (t :: ·) := by
  cases rest with
  | nil => exact ended
  | cons c rest =>
    rw [scan?_delimiter (ends c rfl) ended, scan?_delimiter (ends c rfl) endWord?_nil]
    cases delimiter? c with
    | none => rfl
    | some found => cases scanned : scan? found.2 rest <;> simp [scanned]

namespace Scans

variable {text text' : List Char} {tokens tokens' : List Token}

theorem nil : Scans [] [] := by
  intro rest _
  rw [List.nil_append]
  cases scan? (.outside []) rest <;> rfl

theorem delimited {c : Char} {t : Token} (first : Scans text tokens) (delimits : Delimits c t)
    (second : Scans text' tokens') : Scans (text ++ c :: text') (tokens ++ t :: tokens') := by
  intro rest ends
  obtain ⟨ended, delimiter⟩ := delimits
  have ends' : ∀ c' ∈ (c :: text' ++ rest).head?, isWordChar c' = false := by simpa using ended
  rw [List.append_assoc, first _ ends', List.cons_append, scan?_delimiter ended endWord?_nil, delimiter,
    Option.bind_some, second rest ends]
  cases scan? (.outside []) rest with
  | none => rfl
  | some more => simp

theorem bracketed {o c : Char} {t t' : Token} (opens : Delimits o t) (closes : Delimits c t')
    (inside : Scans text tokens) : Scans (o :: (text ++ [c])) (t :: (tokens ++ [t'])) :=
  nil.delimited opens (inside.delimited closes nil)

/-- Texts with commas between them are scanned as their tokens with commas between them. -/
theorem intercalate {texts : List (List Char)} {parts : List (List Token)} (each : List.Forall₂ Scans texts parts) :
    Scans (List.intercalate [','] texts) (List.intercalate [.comma] parts) := by
  induction each with
  | nil => exact nil
  | cons first others ih =>
    cases others with
    | nil => simpa using first
    | cons second others =>
      rw [List.intercalate_cons_cons, List.intercalate_cons_cons, List.append_assoc, List.append_assoc]
      exact first.delimited ⟨rfl, rfl⟩ ih

theorem word {w : List Char} {t : Token} (all : w.all isWordChar = true) (named : word? w = some t) :
    Scans w [t] := by
  intro rest ends
  have ended : endWord? w.reverse = some [t] := by
    unfold endWord?
    split
    · rename_i empty
      rw [List.reverse_eq_nil_iff.mp empty] at named
      cases named
    · rw [List.reverse_reverse, named]
      rfl
  rw [scan?_word (List.all_eq_true.mp all), List.append_nil, scan?_endWord ended ends]
  rfl

theorem string (s : String) : Scans (stringText s).toList [.string s] := by
  intro rest _
  have split : (stringText s).toList ++ rest = '"' :: (s.toList.flatMap escapedChar ++ '"' :: rest) := by
    simp [stringText]
  have opened : delimiter? '"' = some ([], .inside []) := rfl
  rw [split, scan?_delimiter rfl endWord?_nil, opened, Option.bind_some, scan?_escapes, scan?_quote,
    List.reverse_append, List.reverse_reverse, List.reverse_nil, List.nil_append, List.nil_append,
    unescape?_escapes, Option.bind_some]
  cases scan? (.outside []) rest <;> rfl

theorem integer {n : Int} (fits : Fits n) : Scans (integerText n).toList [.scalar (.integer n)] := by
  have digits : ∀ c ∈ Nat.toDigits 10 n.natAbs, isWordChar c = true := by
    intro c member
    have isDigit := Nat.isDigit_of_mem_toDigits (by decide) (by decide) member
    simp [isWordChar, Char.isAlphanum, isDigit]
  have all : ∀ c ∈ (integerText n).toList, isWordChar c = true := by
    intro c member
    rw [integerText, String.toList_ofList, List.mem_append] at member
    rcases member with sign | digit
    · split at sign
      · rw [List.mem_singleton.mp sign]
        rfl
      · cases sign
    · exact digits c digit
  have read := ofNumeral?_integerText fits
  have named : word? (integerText n).toList = some (.scalar (.integer n)) := by
    unfold word?
    split
    case h_4 =>
      rw [read]
      rfl
    -- the names of the constants are no numerals
    all_goals
      rename_i constant
      rw [String.ofList_toList] at constant
      rw [constant] at read
      cases read
  exact .word (List.all_eq_true.mpr all) named

end Scans

/-! ## Documents as tokens -/

def tokens : Json → List Token
  | .string s => [.string s]
  | .array items => .openArray :: (List.intercalate [.comma] (itemTokens items) ++ [.closeArray])
  | .object members => .openObject :: (List.intercalate [.comma] (memberTokens members) ++ [.closeObject])
  | .null => [.scalar .null]
  | .bool b => [.scalar (.bool b)]
  | .integer n => [.scalar (.integer n)]
  | .real x => [.scalar (.real x)]
where
  itemTokens : List Json → List (List Token)
    | [] => []
    | x :: xs => x.tokens :: itemTokens xs
  memberTokens : List (String × Json) → List (List Token)
    | [] => []
    | (n, x) :: xs => (.string n :: .colon :: x.tokens) :: memberTokens xs

/-- Documents without reals, whose integers fit in 64 bits, with containers at most so deep. -/
inductive Plain : Nat → Json → Prop
  | null {depth : Nat} : Plain depth .null
  | bool {depth : Nat} (b : Bool) : Plain depth (.bool b)
  | integer {depth : Nat} {n : Int} (fits : Fits n) : Plain depth (.integer n)
  | string {depth : Nat} (s : String) : Plain depth (.string s)
  | array {depth : Nat} {items : List Json} (each : ∀ x ∈ items, Plain depth x) : Plain (depth + 1) (.array items)
  | object {depth : Nat} {members : List (String × Json)} (each : ∀ m ∈ members, Plain depth m.2) :
    Plain (depth + 1) (.object members)

theorem scans_items {items : List Json} (each : ∀ x ∈ items, Scans x.text.toList x.tokens) :
    List.Forall₂ Scans ((text.itemTexts items).map String.toList) (tokens.itemTokens items) := by
  induction items with
  | nil => exact .nil
  | cons x items ih =>
    exact .cons (each x List.mem_cons_self) (ih fun y member => each y (List.mem_cons_of_mem _ member))

theorem scans_members {members : List (String × Json)} (each : ∀ m ∈ members, Scans m.2.text.toList m.2.tokens) :
    List.Forall₂ Scans ((text.memberTexts members).map String.toList) (tokens.memberTokens members) := by
  induction members with
  | nil => exact .nil
  | cons m members ih =>
    obtain ⟨name, x⟩ := m
    have value : Scans x.text.toList x.tokens := each (name, x) List.mem_cons_self
    have member : Scans (stringText name ++ ":" ++ x.text).toList (.string name :: .colon :: x.tokens) := by
      rw [String.toList_append, String.toList_append, List.append_assoc]
      exact (Scans.string name).delimited ⟨rfl, rfl⟩ value
    exact .cons member (ih fun y member => each y (List.mem_cons_of_mem _ member))

theorem Plain.scans {depth : Nat} {j : Json} (plain : Plain depth j) : Scans j.text.toList j.tokens := by
  induction plain with
  | null => exact .word rfl rfl
  | bool b => cases b <;> exact .word rfl rfl
  | integer fits => exact .integer fits
  | string s => exact .string s
  | array _ ih =>
    rw [text, String.toList_append, String.toList_append, String.toList_intercalate]
    exact .bracketed ⟨rfl, rfl⟩ ⟨rfl, rfl⟩ (.intercalate (scans_items ih))
  | object _ ih =>
    rw [text, String.toList_append, String.toList_append, String.toList_intercalate]
    exact .bracketed ⟨rfl, rfl⟩ ⟨rfl, rfl⟩ (.intercalate (scans_members ih))

end RowMapper.Json
