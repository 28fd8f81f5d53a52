import RowMapper.Proofs.Sql.Statement
import RowMapper.Table.Definition

/-!
# The names in statements

Which names a statement quotes, in order, read off its text. Text is put together of plain text, quoted names and
placeholders, and the names of the whole are those of its parts.
-/

namespace RowMapper

open Sql

namespace Sql

def Lexeme.name? : Lexeme → Option String
  | name s => some s
  | _ => none

/-- Whether plain text may follow a name or a placeholder. -/
def isSeparator (s : String) : Bool := isCommon s && s.toList.head?.any fun c => !c.isDigit

theorem isCommon_of_separator {s : String} (separator : isSeparator s = true) : isCommon s = true :=
  (Bool.and_eq_true _ _ ▸ separator : _ ∧ _).1

theorem separates_of_separator {s : String} (separator : isSeparator s = true) : Separates s := by
  have first := (Bool.and_eq_true _ _ ▸ separator : _ ∧ _).2
  unfold Separates
  cases spelled : s.toList with
  | nil => simp [spelled] at first
  | cons c rest => exact ⟨c, rest, rfl, by simpa [spelled] using first⟩

variable {sep : String} {lists : List (List Lexeme)}

theorem symbols_names {s : String} : (symbols s).filterMap Lexeme.name? = [] := by
  unfold symbols
  rw [List.filterMap_map, List.filterMap_eq_nil_iff]
  exact fun _ _ => rfl

theorem joined_names :
    (joined sep lists).filterMap Lexeme.name? = lists.flatMap (List.filterMap Lexeme.name?) := by
  induction lists with
  | nil => rfl
  | cons first rest ih =>
    cases rest with
    | nil => simp [joined]
    | cons second rest =>
      rw [joined, List.intercalate_cons_cons, List.filterMap_append, List.filterMap_append, symbols_names, ← joined,
        ih, List.append_nil]
      rfl

end Sql

namespace Dialect

variable {d : Dialect} {names more : List String} {text later s : String}

def quoted (d : Dialect) (sql : String) : List String := (d.scan sql).filterMap Lexeme.name?

/-- Whether text can be read, and quotes these names. -/
def Quotes (d : Dialect) (names : List String) (text : String) : Prop :=
  ∃ lexemes, text.toList = write d.quoteChar lexemes ∧ Readable d.quoteChar d.marker lexemes ∧
    lexemes.filterMap Lexeme.name? = names

theorem Quotes.quoted (quotes : d.Quotes names text) : d.quoted text = names := by
  obtain ⟨lexemes, written, readable, named⟩ := quotes
  rw [Dialect.quoted, scan, scan_of_write written readable marker_ne_quoteChar, named]

theorem quotes_plain (plain : Plain d.quoteChar d.marker s) : d.Quotes [] s := by
  refine ⟨symbols s, write_symbols.symm, ?_, symbols_names⟩
  rw [← List.append_nil (symbols s)]
  exact readable_symbols_append plain trivial

theorem quotes_name (ident : String) : d.Quotes [d.fold ident] (d.quote ident) :=
  ⟨[d.nameLexeme ident], quote_toList ident, readable_name ident, rfl⟩

theorem Quotes.after (plain : Plain d.quoteChar d.marker s) (quotes : d.Quotes names text) :
    d.Quotes names (s ++ text) := by
  obtain ⟨lexemes, written, readable, named⟩ := quotes
  refine ⟨symbols s ++ lexemes, ?_, readable_symbols_append plain readable, ?_⟩
  · rw [String.toList_append, write_append, write_symbols, written]
  · rw [List.filterMap_append, symbols_names, named, List.nil_append]

theorem Quotes.andThen (quotes : d.Quotes names text) (separator : isSeparator s = true)
    (others : d.Quotes more later) : d.Quotes (names ++ more) (text ++ s ++ later) := by
  have plain : Plain d.quoteChar d.marker s := plain_of_common (isCommon_of_separator separator)
  have separates := separates_of_separator separator
  obtain ⟨lexemes, written, readable, named⟩ := quotes
  obtain ⟨following, writtenLater, readableLater, namedLater⟩ := others
  refine ⟨lexemes ++ symbols s ++ following, ?_, readable.andThen plain separates readableLater, ?_⟩
  · rw [String.toList_append, String.toList_append, write_append, write_append, write_symbols, written, writtenLater]
  · rw [List.filterMap_append, List.filterMap_append, symbols_names, named, namedLater, List.append_nil]

theorem Quotes.ending (quotes : d.Quotes names text) (plain : Plain d.quoteChar d.marker s)
    (ends : s = "" ∨ Separates s) : d.Quotes names (text ++ s) := by
  rcases ends with rfl | separates
  · rwa [String.append_empty]
  · obtain ⟨lexemes, written, readable, named⟩ := quotes
    refine ⟨lexemes ++ symbols s, ?_, ?_, ?_⟩
    · rw [String.toList_append, write_append, write_symbols, written]
    · rw [← List.append_nil (lexemes ++ symbols s)]
      exact readable.andThen plain separates trivial
    · rw [List.filterMap_append, symbols_names, named, List.append_nil]

theorem quotes_intercalate {α : Type} {named : α → List String} {shown : α → String} {l : List α}
    (separator : isSeparator s = true) (each : ∀ a ∈ l, d.Quotes (named a) (shown a)) :
    d.Quotes (l.flatMap named) (s.intercalate (l.map shown)) := by
  induction l with
  | nil => exact quotes_plain nofun
  | cons a rest ih =>
    have first := each a List.mem_cons_self
    have others := ih fun b member => each b (List.mem_cons_of_mem _ member)
    cases rest with
    | nil => simpa using first
    | cons b rest =>
      rw [List.map_cons, List.map_cons, String.intercalate_cons_cons]
      exact first.andThen separator others

theorem quotes_quotedList (columns : List Column) :
    d.Quotes (columns.map fun c => d.fold c.name) (d.quotedList columns) := by
  rw [List.map_eq_flatMap]
  exact quotes_intercalate (by decide) fun c _ => quotes_name c.name

theorem quotes_nameGroup (idents : List String) : d.Quotes (idents.map d.fold) (Table.nameGroup d idents) := by
  rw [List.map_eq_flatMap]
  have listed := quotes_intercalate (l := idents) (s := ", ") (by decide) fun ident _ => quotes_name (d := d) ident
  exact (listed.after (plain_of_common (by decide))).ending (plain_of_common (by decide)) (.inr ⟨')', _, rfl, rfl⟩)

theorem quotes_equations (separator : isSeparator s = true) (n : Nat) (terms : List (Column × Source)) :
    d.Quotes (terms.map fun term => d.fold term.1.name) (s.intercalate (d.equations n terms)) := by
  refine ⟨joined s (d.equationLexemes n terms), ?_, readable_joined (plain_of_common (isCommon_of_separator separator))
    (separates_of_separator separator) (readable_equations n terms), ?_⟩
  · rw [String.toList_intercalate, equations_toList, write_joined]
  · rw [joined_names]
    induction terms generalizing n with
    | nil => rfl
    | cons term rest ih =>
      rw [equationLexemes, List.flatMap_cons, ih]
      rfl

theorem quotes_insertedValues (n : Nat) (terms : List (Column × Option Source)) :
    d.Quotes [] (",".intercalate (d.insertedValues n terms)) := by
  refine ⟨joined "," (d.valueLexemes n terms), ?_,
    readable_joined (plain_of_common (by decide)) ⟨',', _, rfl, rfl⟩ (readable_values n terms), ?_⟩
  · rw [String.toList_intercalate, insertedValues_toList, write_joined]
  · rw [joined_names]
    induction terms generalizing n with
    | nil => rfl
    | cons term rest ih =>
      obtain ⟨c, source⟩ := term
      cases source with
      | none =>
        rw [valueLexemes, List.flatMap_cons, symbols_names, ih]
        rfl
      | some source =>
        rw [valueLexemes, List.flatMap_cons, ih]
        rfl

theorem quotes_table {schema : Option String} (plain : ∀ s, schema = some s → Plain d.quoteChar d.marker s)
    (table : String) : d.Quotes [d.fold table] (d.quoteTable schema table) := by
  refine ⟨d.tableLexemes schema table, quoteTable_toList schema table, readable_table plain table, ?_⟩
  unfold tableLexemes
  split
  · rw [List.filterMap_append, symbols_names]
    rfl
  · rfl

end Dialect

end RowMapper
