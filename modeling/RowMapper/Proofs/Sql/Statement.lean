import RowMapper.Proofs.Plan
import RowMapper.Proofs.Sql.Scan

/-!
# Statements as lexemes

What a reader finds in the text of an insertion, an update and a deletion: every name that the statement quotes, and
the placeholders in order, whatever characters the names have.
-/

namespace RowMapper

open Sql

namespace Sql

def joined (sep : String) (lists : List (List Lexeme)) : List Lexeme := (symbols sep).intercalate lists

/-- The names that equal a placeholder, each with that placeholder, in order. -/
def equated : List Lexeme → List (String × String)
  | .name s :: .symbol '=' :: .placeholder p :: rest => (s, p) :: equated rest
  | _ :: rest => equated rest
  | [] => []

def Plain (q marker : Char) (s : String) : Prop := ∀ c ∈ s.toList, c ≠ q ∧ c ≠ marker

/-- Whether text has no character that is a quote or a marker in some database. -/
def isCommon (s : String) : Bool := s.toList.all fun c => !(['"', '\x60', '$', ':', '?'].contains c)

theorem isCommon_iff {s : String} : isCommon s = true ↔ ∀ c ∈ s.toList, c ∉ ['"', '\x60', '$', ':', '?'] := by
  simp [isCommon]

/-- Whether text ends a lexeme before it. -/
def Separates (s : String) : Prop := ∃ c rest, s.toList = c :: rest ∧ c.isDigit = false

section

variable {q marker : Char} {sep : String} {lists : List (List Lexeme)} {lexemes : List Lexeme} {first : List Lexeme}

theorem write_joined : write q (joined sep lists) = sep.toList.intercalate (lists.map (write q)) := by
  induction lists with
  | nil => rfl
  | cons first rest ih =>
    cases rest with
    | nil => simp [joined]
    | cons second rest =>
      rw [joined, List.intercalate_cons_cons, write_append, write_append, write_symbols, ← joined, ih, List.map_cons,
        List.map_cons, List.map_cons, List.intercalate_cons_cons]

theorem Separates.append {s : String} (separates : Separates sep) : Separates (sep ++ s) := by
  obtain ⟨c, rest, spelled, notDigit⟩ := separates
  exact ⟨c, rest ++ s.toList, by rw [String.toList_append, spelled]; rfl, notDigit⟩

theorem Separates.parts (separates : Separates sep) : Parts (symbols sep ++ lexemes) := by
  obtain ⟨c, rest, spelled, notDigit⟩ := separates
  unfold symbols
  rw [spelled]
  exact notDigit

theorem Separates.parts_alone (separates : Separates sep) : Parts (symbols sep) := by
  rw [← List.append_nil (symbols sep)]
  exact separates.parts

theorem Readable.andThen {lexemes more : List Lexeme} (first : Readable q marker lexemes) (plain : Plain q marker sep)
    (separates : Separates sep) (later : Readable q marker more) :
    Readable q marker (lexemes ++ symbols sep ++ more) := by
  rw [List.append_assoc]
  exact first.append (readable_symbols_append plain later) separates.parts

theorem readable_joined (plain : Plain q marker sep) (separates : Separates sep)
    (readable : ∀ l ∈ lists, Readable q marker l) : Readable q marker (joined sep lists) := by
  induction lists with
  | nil => trivial
  | cons first rest ih =>
    have here := readable first List.mem_cons_self
    have later := ih fun l member => readable l (List.mem_cons_of_mem _ member)
    cases rest with
    | nil => simpa [joined] using here
    | cons second rest =>
      rw [joined, List.intercalate_cons_cons, List.append_assoc, ← joined]
      exact here.append (readable_symbols_append plain later) separates.parts

theorem equated_symbols {s : String} : equated (symbols s ++ lexemes) = equated lexemes := by
  unfold symbols
  induction s.toList with
  | nil => rfl
  | cons c rest ih => simpa [equated] using ih

theorem filterMap_symbols {s : String} : (symbols s).filterMap Lexeme.placeholder? = [] := by
  unfold symbols
  rw [List.filterMap_map, List.filterMap_eq_nil_iff]
  exact fun _ _ => rfl

theorem filterMap_joined :
    (joined sep lists).filterMap Lexeme.placeholder? = (lists.map (List.filterMap Lexeme.placeholder?)).flatten := by
  induction lists with
  | nil => rfl
  | cons first rest ih =>
    cases rest with
    | nil => simp [joined]
    | cons second rest =>
      rw [joined, List.intercalate_cons_cons, List.filterMap_append, List.filterMap_append, filterMap_symbols, ← joined,
        ih, List.append_nil]
      rfl

end

end Sql

theorem mapIdx_from {α β : Type} {f : Nat → α → β} {n : Nat} {a : α} {rest : List α} :
    (a :: rest).mapIdx (fun i => f (n + i)) = f n a :: rest.mapIdx fun i => f (n + 1 + i) := by
  rw [List.mapIdx_cons]
  congr 2
  funext i
  rw [Nat.add_assoc, Nat.add_comm 1 i]

namespace Dialect

def marker : Dialect → Char
  | postgres .. => '$'
  | oracle => ':'
  | _ => '?'

def scan (d : Dialect) (sql : String) : List Lexeme := Sql.scan d.quoteChar d.marker sql

def nameLexeme (d : Dialect) (ident : String) : Lexeme := .name (d.fold ident)

def tableLexemes (d : Dialect) (schema : Option String) (table : String) : List Lexeme :=
  match d.supportsSchemas, schemaName? schema with
  | true, some schema => symbols (schema ++ ".") ++ [d.nameLexeme table]
  | _, _ => [d.nameLexeme table]

/-- Terms with placeholders numbered from `n`. -/
def equationLexemes (d : Dialect) (n : Nat) : List (Column × Source) → List (List Lexeme)
  | [] => []
  | (c, _) :: rest =>
    [d.nameLexeme c.name, .symbol '=', .placeholder (d.placeholder n)] :: d.equationLexemes (n + 1) rest

def valueLexemes (d : Dialect) (n : Nat) : List (Column × Option Source) → List (List Lexeme)
  | [] => []
  | (_, none) :: rest => symbols d.autoIncrementValue :: d.valueLexemes n rest
  | (_, some _) :: rest => [.placeholder (d.placeholder n)] :: d.valueLexemes (n + 1) rest

def suffixLexemes (d : Dialect) (column : String) : List Lexeme :=
  match d with
  | postgres .. => symbols " returning " ++ [d.nameLexeme column]
  | _ => []

variable {d : Dialect}

theorem marker_ne_quoteChar : d.marker ≠ d.quoteChar := by cases d <;> simp [marker, quoteChar]

theorem integerText_toList (n : Nat) : (Number.integerText n).toList = Nat.toDigits 10 n := by
  have positive : ¬ (n : Int) < 0 := by omega
  simp only [Number.integerText, positive, if_false, List.nil_append, String.toList_ofList]
  rfl

theorem placeholder_toList (n : Nat) :
    ∃ digits, (d.placeholder n).toList = d.marker :: digits ∧ ∀ c ∈ digits, c.isDigit = true := by
  have digits : (Number.integerText (n + 1)).toList = Nat.toDigits 10 (n + 1) := integerText_toList (n + 1)
  have allDigits : ∀ c ∈ Nat.toDigits 10 (n + 1), c.isDigit = true := fun c =>
    Nat.isDigit_of_mem_toDigits (by decide) (by decide)
  cases d with
  | postgres | oracle =>
    refine ⟨Nat.toDigits 10 (n + 1), ?_, allDigits⟩
    rw [placeholder, String.toList_append, digits]
    rfl
  | sqlite | snowflake | mysql | crate => exact ⟨[], by simp [placeholder, marker], nofun⟩

theorem quote_toList (ident : String) : (d.quote ident).toList = write d.quoteChar [d.nameLexeme ident] :=
  write_name.symm

theorem quoteTable_toList (schema : Option String) (table : String) :
    (d.quoteTable schema table).toList = write d.quoteChar (d.tableLexemes schema table) := by
  unfold quoteTable tableLexemes
  cases d.supportsSchemas with
  | false => exact quote_toList table
  | true =>
    cases schemaName? schema with
    | none => exact quote_toList table
    | some schema => rw [write_append, write_symbols, ← quote_toList, String.toList_append]

theorem equations_toList (n : Nat) (terms : List (Column × Source)) :
    (d.equations n terms).map String.toList = (d.equationLexemes n terms).map (write d.quoteChar) := by
  unfold equations
  induction terms generalizing n with
  | nil => rfl
  | cons term rest ih =>
    rw [mapIdx_from (f := fun i (term : Column × Source) => d.quote term.1.name ++ "=" ++ d.placeholder i),
      List.map_cons, ih, equationLexemes, List.map_cons]
    congr 1
    rw [String.toList_append, String.toList_append, quote_toList]
    simp [write, Lexeme.write]

theorem insertedValues_toList (n : Nat) (terms : List (Column × Option Source)) :
    (d.insertedValues n terms).map String.toList = (d.valueLexemes n terms).map (write d.quoteChar) := by
  induction terms generalizing n with
  | nil => rfl
  | cons term rest ih =>
    obtain ⟨c, source⟩ := term
    cases source with
    | none => simp [insertedValues, valueLexemes, ih, write_symbols]
    | some source => simp [insertedValues, valueLexemes, ih, write, Lexeme.write]

theorem plain_of_common {s : String} (common : isCommon s = true) : Plain d.quoteChar d.marker s := by
  intro c member
  have other := isCommon_iff.mp common c member
  simp only [List.mem_cons, List.not_mem_nil, or_false, not_or] at other
  cases d <;> simp [quoteChar, marker, other]

theorem plain_append {q marker : Char} {s s' : String} (first : Plain q marker s) (second : Plain q marker s') :
    Plain q marker (s ++ s') := by
  intro c member
  rw [String.toList_append, List.mem_append] at member
  exact member.elim (first c) (second c)

theorem plain_autoIncrementValue : Plain d.quoteChar d.marker d.autoIncrementValue := by
  cases d <;> simp only [autoIncrementValue] <;> exact plain_of_common (by decide)

theorem plain_terminator : Plain d.quoteChar d.marker d.terminator := by
  cases d <;> simp only [terminator] <;> exact plain_of_common (by decide)

theorem terminator_ends : d.terminator = "" ∨ Separates d.terminator := by
  cases d with
  | oracle => exact .inl rfl
  | sqlite | postgres | snowflake | mysql | crate => exact .inr ⟨';', [], by simp [terminator], rfl⟩

theorem readable_name (ident : String) : Readable d.quoteChar d.marker [d.nameLexeme ident] := ⟨trivial, trivial⟩

theorem readable_equations (n : Nat) (terms : List (Column × Source)) :
    ∀ l ∈ d.equationLexemes n terms, Readable d.quoteChar d.marker l := by
  have equals : ∀ c ∈ "=".toList, c ≠ d.quoteChar ∧ c ≠ d.marker := plain_of_common (by decide)
  induction terms generalizing n with
  | nil => exact fun _ member => absurd member List.not_mem_nil
  | cons term rest ih =>
    intro l member
    rcases List.mem_cons.mp member with rfl | later
    · obtain ⟨notQuote, notMarker⟩ := equals '=' (by decide)
      exact ⟨rfl, notQuote, notMarker, placeholder_toList n, trivial, trivial⟩
    · exact ih (n + 1) l later

theorem readable_values (n : Nat) (terms : List (Column × Option Source)) :
    ∀ l ∈ d.valueLexemes n terms, Readable d.quoteChar d.marker l := by
  induction terms generalizing n with
  | nil => exact fun _ member => absurd member List.not_mem_nil
  | cons term rest ih =>
    obtain ⟨c, source⟩ := term
    intro l member
    cases source with
    | none =>
      rcases List.mem_cons.mp member with rfl | later
      · rw [← List.append_nil (symbols d.autoIncrementValue)]
        exact readable_symbols_append plain_autoIncrementValue trivial
      · exact ih n l later
    | some source =>
      rcases List.mem_cons.mp member with rfl | later
      · exact ⟨placeholder_toList n, trivial, trivial⟩
      · exact ih (n + 1) l later

theorem equated_equations (sep : String) (n : Nat) (terms : List (Column × Source)) (rest : List Lexeme) :
    equated (joined sep (d.equationLexemes n terms) ++ rest) =
      terms.mapIdx (fun i term => (d.fold term.1.name, d.placeholder (n + i))) ++ equated rest := by
  induction terms generalizing n with
  | nil => rfl
  | cons term others ih =>
    rw [mapIdx_from (f := fun i (term : Column × Source) => (d.fold term.1.name, d.placeholder i)), List.cons_append]
    cases others with
    | nil => rfl
    | cons second others =>
      rw [← ih (n + 1), equationLexemes, equationLexemes, joined, List.intercalate_cons_cons, ← joined,
        List.append_assoc, List.append_assoc]
      exact congrArg _ equated_symbols

theorem equations_placeholders (n : Nat) (terms : List (Column × Source)) :
    ((d.equationLexemes n terms).map (List.filterMap Lexeme.placeholder?)).flatten =
      (List.range' n terms.length).map d.placeholder := by
  induction terms generalizing n with
  | nil => rfl
  | cons term rest ih =>
    rw [equationLexemes, List.map_cons, List.flatten_cons, ih]
    rfl

theorem values_placeholders (n : Nat) (terms : List (Column × Option Source)) :
    ((d.valueLexemes n terms).map (List.filterMap Lexeme.placeholder?)).flatten =
      (List.range' n (terms.filterMap (·.2)).length).map d.placeholder := by
  induction terms generalizing n with
  | nil => rfl
  | cons term rest ih =>
    obtain ⟨c, source⟩ := term
    cases source with
    | none =>
      rw [valueLexemes, List.map_cons, List.flatten_cons, filterMap_symbols, ih]
      rfl
    | some source =>
      rw [valueLexemes, List.map_cons, List.flatten_cons, ih]
      rfl

theorem schemaName?_plain {q marker : Char} {schema : Option String} {name : String}
    (plain : ∀ s, schema = some s → Plain q marker s) (named : schemaName? schema = some name) :
    Plain q marker name := by
  cases schema with
  | none => cases named
  | some s =>
    have trimmed : Text.trim s = name := by
      unfold schemaName? at named
      simp only [Option.map_some] at named
      split at named
      · cases named
      · exact Option.some.inj named
    have among : ∀ c ∈ name.toList, c ∈ s.toList := by
      intro c member
      rw [← trimmed, Text.trim, String.toList_ofList, Text.trimBlank, Text.trimEnds, List.mem_reverse] at member
      exact (List.dropWhile_sublist _).mem (List.mem_reverse.mp ((List.dropWhile_sublist _).mem member))
    exact fun c member => plain s rfl c (among c member)

theorem readable_table {schema : Option String} (plain : ∀ s, schema = some s → Plain d.quoteChar d.marker s)
    (table : String) : Readable d.quoteChar d.marker (d.tableLexemes schema table) := by
  unfold tableLexemes
  split
  · rename_i name _ named
    have dotted : Plain d.quoteChar d.marker (name ++ ".") :=
      plain_append (schemaName?_plain plain named) (plain_of_common (by decide))
    exact readable_symbols_append dotted (readable_name table)
  · exact readable_name table

theorem table_placeholders {schema : Option String} (table : String) :
    (d.tableLexemes schema table).filterMap Lexeme.placeholder? = [] := by
  unfold tableLexemes
  split
  · rw [List.filterMap_append, filterMap_symbols]
    rfl
  · rfl

end Dialect

end RowMapper
