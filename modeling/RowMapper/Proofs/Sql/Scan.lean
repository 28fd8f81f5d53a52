import RowMapper.Dialect

/-!
# Reading statements

A reader of statement text that knows quoted identifiers and placeholders, and nothing else of the language. It reads
one character at a time. What is written as lexemes is read back as the same ones, whatever stands inside the quotes.
-/

namespace RowMapper.Sql

inductive Lexeme where
  | symbol (c : Char)
  | name (s : String)
  /-- The marker of a placeholder and the digits after it. -/
  | placeholder (s : String)
deriving DecidableEq

/-- Where in a text a reader is, with what it has read of a lexeme. -/
inductive Reading where
  | outside
  | inside (read : List Char)
  /-- After a quote that ends an identifier or is doubled. -/
  | closing (read : List Char)
  | marked (read : List Char)

namespace Reading

variable (q marker : Char)

def enter (c : Char) : List Lexeme × Reading :=
  if c = q then ([], inside []) else if c = marker then ([], marked [c]) else ([.symbol c], outside)

/-- One character, with the lexemes that it completes. -/
def step : Reading → Char → List Lexeme × Reading
  | outside, c => enter q marker c
  | inside read, c => ([], if c = q then closing read else inside (read ++ [c]))
  | closing read, c =>
    if c = q then ([], inside (read ++ [q]))
    else (.name (String.ofList read) :: (enter q marker c).1, (enter q marker c).2)
  | marked read, c =>
    if c.isDigit then ([], marked (read ++ [c]))
    else (.placeholder (String.ofList read) :: (enter q marker c).1, (enter q marker c).2)

/-- What the end of a text completes. An open quote is dropped. -/
def finish : Reading → List Lexeme
  | outside | inside _ => []
  | closing read => [.name (String.ofList read)]
  | marked read => [.placeholder (String.ofList read)]

def scan : Reading → List Char → List Lexeme
  | reading, [] => reading.finish
  | reading, c :: rest => (reading.step q marker c).1 ++ scan (reading.step q marker c).2 rest

end Reading

/-- The lexemes of a text, where `q` quotes identifiers and `marker` begins placeholders. -/
def scan (q marker : Char) (text : String) : List Lexeme := Reading.scan q marker .outside text.toList

def symbols (s : String) : List Lexeme := s.toList.map .symbol

def Lexeme.placeholder? : Lexeme → Option String
  | placeholder s => some s
  | _ => none

def Lexeme.write (q : Char) : Lexeme → List Char
  | symbol c => [c]
  | name s => q :: doubled q s.toList ++ [q]
  | placeholder s => s.toList

def write (q : Char) (lexemes : List Lexeme) : List Char := lexemes.flatMap (·.write q)

/-- Whether lexemes begin with what ends an identifier or a placeholder before them. -/
def Parts : List Lexeme → Prop
  | [] => True
  | .symbol c :: _ => c.isDigit = false
  | _ => False

/-- Whether lexemes can be told apart once they are written. -/
def Readable (q marker : Char) : List Lexeme → Prop
  | [] => True
  | .symbol c :: rest => c ≠ q ∧ c ≠ marker ∧ Readable q marker rest
  | .name _ :: rest => Parts rest ∧ Readable q marker rest
  | .placeholder s :: rest =>
    (∃ digits, s.toList = marker :: digits ∧ ∀ c ∈ digits, c.isDigit = true) ∧ Parts rest ∧ Readable q marker rest

section

variable {q marker : Char} {text rest read : List Char} {lexemes more : List Lexeme}

theorem write_append : write q (lexemes ++ more) = write q lexemes ++ write q more := List.flatMap_append

theorem write_symbols {s : String} : write q (symbols s) = s.toList := by
  unfold write symbols
  rw [List.flatMap_map]
  simp [Lexeme.write]

theorem write_name {s : String} : write q [.name s] = (quoteWith s q).toList := by
  simp [write, Lexeme.write, quoteWith]

theorem Parts.append (first : Parts lexemes) (second : Parts more) : Parts (lexemes ++ more) := by
  cases lexemes with
  | nil => exact second
  | cons lexeme rest => cases lexeme <;> exact first

theorem Readable.append (first : Readable q marker lexemes) (second : Readable q marker more) (parts : Parts more) :
    Readable q marker (lexemes ++ more) := by
  induction lexemes with
  | nil => exact second
  | cons lexeme rest ih =>
    cases lexeme with
    | symbol c => exact ⟨first.1, first.2.1, ih first.2.2⟩
    | name s => exact ⟨first.1.append parts, ih first.2⟩
    | placeholder s => exact ⟨first.1, first.2.1.append parts, ih first.2.2⟩

theorem readable_symbols_append {s : String} (plain : ∀ c ∈ s.toList, c ≠ q ∧ c ≠ marker)
    (later : Readable q marker lexemes) : Readable q marker (symbols s ++ lexemes) := by
  unfold symbols
  generalize s.toList = cs at plain
  induction cs with
  | nil => exact later
  | cons c rest ih =>
    obtain ⟨notQuote, notMarker⟩ := plain c List.mem_cons_self
    exact ⟨notQuote, notMarker, ih fun d member => plain d (List.mem_cons_of_mem _ member)⟩

theorem scan_doubled :
    Reading.scan q marker (.inside read) (doubled q text ++ q :: rest) =
      Reading.scan q marker (.closing (read ++ text)) rest := by
  induction text generalizing read with
  | nil => simp [doubled, Reading.scan, Reading.step]
  | cons c text ih =>
    by_cases quote : c = q
    · subst quote
      simp [doubled_quote, Reading.scan, Reading.step, ih]
    · simp [doubled_other quote, Reading.scan, Reading.step, quote, ih]

theorem scan_digits {digits : List Char} (all : ∀ c ∈ digits, c.isDigit = true) :
    Reading.scan q marker (.marked read) (digits ++ rest) = Reading.scan q marker (.marked (read ++ digits)) rest := by
  induction digits generalizing read with
  | nil => rw [List.nil_append, List.append_nil]
  | cons c digits ih =>
    have digit := all c List.mem_cons_self
    have others : Reading.scan q marker (.marked (read ++ [c])) (digits ++ rest) =
        Reading.scan q marker (.marked (read ++ [c] ++ digits)) rest :=
      ih fun d member => all d (List.mem_cons_of_mem _ member)
    simp [Reading.scan, Reading.step, digit, others]

theorem scan_completed (parts : Parts lexemes) (readable : Readable q marker lexemes) :
    Reading.scan q marker (.closing read) (write q lexemes) =
        .name (String.ofList read) :: Reading.scan q marker .outside (write q lexemes) ∧
      Reading.scan q marker (.marked read) (write q lexemes) =
        .placeholder (String.ofList read) :: Reading.scan q marker .outside (write q lexemes) := by
  cases lexemes with
  | nil => exact ⟨rfl, rfl⟩
  | cons lexeme rest =>
    cases lexeme with
    | symbol c =>
      have notDigit : c.isDigit = false := parts
      have notQuote : c ≠ q := readable.1
      simp [write, Lexeme.write, Reading.scan, Reading.step, notDigit, notQuote]
    | name s | placeholder s => exact parts.elim

theorem scan_write (readable : Readable q marker lexemes) (different : marker ≠ q) :
    Reading.scan q marker .outside (write q lexemes) = lexemes := by
  induction lexemes with
  | nil => rfl
  | cons lexeme rest ih =>
    have split : write q (lexeme :: rest) = lexeme.write q ++ write q rest := List.flatMap_cons
    rw [split]
    cases lexeme with
    | symbol c =>
      obtain ⟨notQuote, notMarker, later⟩ := readable
      simp [Lexeme.write, Reading.scan, Reading.step, Reading.enter, notQuote, notMarker, ih later]
    | name s =>
      obtain ⟨parts, later⟩ := readable
      have opened : Reading.scan q marker .outside (Lexeme.write q (.name s) ++ write q rest) =
          Reading.scan q marker (.inside []) (doubled q s.toList ++ q :: write q rest) := by
        simp [Lexeme.write, Reading.scan, Reading.step, Reading.enter]
      rw [opened, scan_doubled, List.nil_append, (scan_completed parts later).1, ih later, String.ofList_toList]
    | placeholder s =>
      obtain ⟨⟨digits, spelled, all⟩, parts, later⟩ := readable
      have opened : Reading.scan q marker .outside (Lexeme.write q (.placeholder s) ++ write q rest) =
          Reading.scan q marker (.marked [marker]) (digits ++ write q rest) := by
        simp [Lexeme.write, spelled, Reading.scan, Reading.step, Reading.enter, different]
      rw [opened, scan_digits all, List.singleton_append, ← spelled, (scan_completed parts later).2, ih later,
        String.ofList_toList]

theorem scan_of_write {sql : String} (written : sql.toList = write q lexemes) (readable : Readable q marker lexemes)
    (different : marker ≠ q) : scan q marker sql = lexemes := by
  rw [scan, written, scan_write readable different]

end

/-- A name with a quote and placeholders in it is one name. -/
example : scan '"' '$' "set \"a\"\"=$1,\"=$2" =
    symbols "set " ++ [.name "a\"=$1,", .symbol '=', .placeholder "$2"] := by
  decide

end RowMapper.Sql
