import RowMapper.Proofs.Sql.Statement

/-!
# The layout of writes

Which column stands at each placeholder of an insertion, an update and a deletion. The terms of a write are its columns
at placeholders, in order, with where their values come from.
-/

namespace RowMapper

open Sql

namespace Table

variable (t : Table) (d : Dialect)

def insertEntries : List (Column × List Lexeme) :=
  ((t.insertTerms d).map (·.1)).zip (d.valueLexemes 0 (t.insertTerms d))

def insertEnding : List Lexeme :=
  (t.columns.find? fun c => !c.isTransient && c.autoIncrement).elim [] fun c => d.suffixLexemes c.name

end Table

/-- An entry whose value is an argument, with its placeholder. -/
def atPlaceholder : Column × List Lexeme → Option (Column × String)
  | (c, [.placeholder p]) => some (c, p)
  | _ => none

namespace Write

variable (t : Table) (d : Dialect)

def terms : Write → List (Column × Source)
  | insert => t.boundTerms d
  | update accepts => t.updateTerms (accepts.getD fun _ => true) ++ t.keyTerms true
  | delete => t.keyTerms true

/-- How many placeholders stand before those that pick the row. -/
def setCount : Write → Nat
  | insert | delete => 0
  | update accepts => (t.updateTerms (accepts.getD fun _ => true)).length

def beginning : Write → List Lexeme
  | insert => symbols "insert into " ++ d.tableLexemes t.schema t.name
  | update accepts => symbols "update " ++ d.tableLexemes t.schema t.name ++ symbols " set " ++
      joined ", " (d.equationLexemes 0 (t.updateTerms (accepts.getD fun _ => true)))
  | delete => symbols "delete from " ++ d.tableLexemes t.schema t.name

def lexemes (w : Write) : List Lexeme :=
  w.beginning t d ++
    (if w.picksRow then symbols " where " ++ joined " and " (d.equationLexemes (w.setCount t) (t.keyTerms true))
    else symbols " (" ++ joined "," ((t.insertEntries d).map fun entry => [d.nameLexeme entry.1.name]) ++
      symbols ") values (" ++ joined "," ((t.insertEntries d).map (·.2)) ++ symbols ")" ++ t.insertEnding d) ++
    symbols d.terminator

variable {t d} {w : Write}

theorem valueLexemes_length (n : Nat) (terms : List (Column × Option Source)) :
    (d.valueLexemes n terms).length = terms.length := by
  induction terms generalizing n with
  | nil => rfl
  | cons term rest ih =>
    obtain ⟨c, source⟩ := term
    cases source <;> simp [Dialect.valueLexemes, ih]

theorem insertEntries_fst : (t.insertEntries d).map (·.1) = (t.insertTerms d).map (·.1) :=
  List.map_fst_zip (by simp [valueLexemes_length])

theorem insertEntries_snd : (t.insertEntries d).map (·.2) = d.valueLexemes 0 (t.insertTerms d) :=
  List.map_snd_zip (by simp [valueLexemes_length])

theorem insertEntries_names :
    ((t.insertEntries d).map fun entry => [d.nameLexeme entry.1.name]) =
      ((t.insertTerms d).map (·.1)).map fun c => [d.nameLexeme c.name] := by
  rw [← insertEntries_fst, List.map_map]
  rfl

theorem quotedList_toList (columns : List Column) :
    (d.quotedList columns).toList = write d.quoteChar (joined "," (columns.map fun c => [d.nameLexeme c.name])) := by
  unfold Dialect.quotedList
  rw [String.toList_intercalate, write_joined, List.map_map, List.map_map]
  congr 1
  exact List.map_congr_left fun c _ => Dialect.quote_toList c.name

theorem insertEnding_toList :
    ((t.columns.find? fun c => !c.isTransient && c.autoIncrement).elim "" fun c => d.insertSuffix c.name).toList =
      write d.quoteChar (t.insertEnding d) := by
  unfold Table.insertEnding
  cases t.columns.find? fun c => !c.isTransient && c.autoIncrement with
  | none => rfl
  | some c =>
    cases d with
    | postgres =>
      simp only [Option.elim, Dialect.insertSuffix, Dialect.suffixLexemes, String.toList_append, write_append,
        write_symbols, Dialect.quote_toList]
    | sqlite | snowflake | mysql | oracle | crate => rfl

theorem plan_toList (sends : (w.plan t d).sql ≠ "") : (w.plan t d).sql.toList = write d.quoteChar (w.lexemes t d) := by
  cases w with
  | insert =>
    have text : (plan t d insert).sql = "insert into " ++ t.quotedName d ++ " (" ++
        d.quotedList ((t.insertTerms d).map (·.1)) ++ ") values (" ++
        ",".intercalate (d.insertedValues 0 (t.insertTerms d)) ++ ")" ++
        (t.columns.find? fun c => !c.isTransient && c.autoIncrement).elim "" (fun c => d.insertSuffix c.name) ++
        d.terminator := rfl
    have found : lexemes t d insert = symbols "insert into " ++ d.tableLexemes t.schema t.name ++ (symbols " (" ++
        joined "," (((t.insertTerms d).map (·.1)).map fun c => [d.nameLexeme c.name]) ++ symbols ") values (" ++
        joined "," (d.valueLexemes 0 (t.insertTerms d)) ++ symbols ")" ++ t.insertEnding d) ++
        symbols d.terminator := by
      rw [← insertEntries_names, ← insertEntries_snd]
      rfl
    rw [text, found]
    simp only [String.toList_append, String.toList_intercalate, write_append, write_symbols, quotedList_toList,
      write_joined, Dialect.insertedValues_toList, insertEnding_toList, Table.quotedName, Dialect.quoteTable_toList,
      List.append_assoc]
  | update accepts =>
    have some : t.updateTerms (accepts.getD fun _ => true) ≠ [] := fun none => sends (by simp [plan, Plan.update, none])
    rw [plan, Plan.update_sql some]
    simp only [lexemes, beginning, picksRow, if_true, setCount, String.toList_append, String.toList_intercalate,
      write_append, write_symbols, write_joined, Dialect.equations_toList, Table.quotedName, Dialect.quoteTable_toList,
      List.append_assoc]
  | delete =>
    have text : (plan t d delete).sql = "delete from " ++ t.quotedName d ++ " where " ++
        " and ".intercalate (d.equations 0 (t.keyTerms true)) ++ d.terminator := rfl
    rw [text]
    simp only [lexemes, beginning, picksRow, if_true, setCount, String.toList_append, String.toList_intercalate,
      write_append, write_symbols, write_joined, Dialect.equations_toList, Table.quotedName, Dialect.quoteTable_toList,
      List.append_assoc]

theorem readable_insertEnding : Readable d.quoteChar d.marker (t.insertEnding d) := by
  unfold Table.insertEnding
  cases t.columns.find? fun c => !c.isTransient && c.autoIncrement with
  | none => trivial
  | some c =>
    cases d with
    | postgres => exact readable_symbols_append (Dialect.plain_of_common (by decide)) (Dialect.readable_name c.name)
    | sqlite | snowflake | mysql | oracle | crate => trivial

theorem readable_equating {sep : String} (plain : Plain d.quoteChar d.marker sep) (separates : Separates sep) (n : Nat)
    (terms : List (Column × Source)) : Readable d.quoteChar d.marker (joined sep (d.equationLexemes n terms)) :=
  readable_joined plain separates (Dialect.readable_equations n terms)

/-- A plain table schema is all that it takes to read a write, whatever its names are. -/
theorem lexemes_readable (plain : ∀ s, t.schema = some s → Plain d.quoteChar d.marker s) :
    Readable d.quoteChar d.marker (w.lexemes t d) := by
  have common {s : String} (h : isCommon s = true) : Plain d.quoteChar d.marker s :=
    Dialect.plain_of_common h
  have table := Dialect.readable_table plain t.name
  have ending : Readable d.quoteChar d.marker (symbols d.terminator) ∧ Parts (symbols d.terminator) := by
    constructor
    · rw [← List.append_nil (symbols _)]
      exact readable_symbols_append Dialect.plain_terminator trivial
    · rcases Dialect.terminator_ends (d := d) with none | separates
      · rw [none]
        trivial
      · exact separates.parts_alone
  refine Readable.append ?_ ending.1 ending.2
  have picked := readable_symbols_append (common (s := " where ") (by decide))
    (readable_equating (common (s := " and ") (by decide)) ⟨' ', _, rfl, rfl⟩ (w.setCount t) (t.keyTerms true))
  have isPicked : Separates " where " := ⟨' ', _, rfl, rfl⟩
  cases w with
  | delete =>
    have start := readable_symbols_append (common (s := "delete from ") (by decide)) table
    exact (start.append picked isPicked.parts :)
  | update accepts =>
    have start := readable_symbols_append (common (s := "update ") (by decide)) table
    have set := readable_equating (common (s := ", ") (by decide)) ⟨',', _, rfl, rfl⟩ 0
      (t.updateTerms (accepts.getD fun _ => true))
    have assigned := start.andThen (common (s := " set ") (by decide)) ⟨' ', _, rfl, rfl⟩ set
    exact (assigned.append picked isPicked.parts :)
  | insert =>
    have start := readable_symbols_append (common (s := "insert into ") (by decide)) table
    have names : Readable d.quoteChar d.marker
        (joined "," ((t.insertEntries d).map fun entry => [d.nameLexeme entry.1.name])) := by
      refine readable_joined (common (by decide)) ⟨',', _, rfl, rfl⟩ fun l member => ?_
      obtain ⟨entry, _, rfl⟩ := List.mem_map.mp member
      exact Dialect.readable_name entry.1.name
    have values : Readable d.quoteChar d.marker (joined "," ((t.insertEntries d).map (·.2))) := by
      rw [insertEntries_snd]
      exact readable_joined (common (by decide)) ⟨',', _, rfl, rfl⟩ (Dialect.readable_values 0 (t.insertTerms d))
    have opened := readable_symbols_append (common (s := " (") (by decide)) names
    have listed := opened.andThen (common (s := ") values (") (by decide)) ⟨')', _, rfl, rfl⟩ values
    have closed := listed.andThen (common (s := ")") (by decide)) ⟨')', _, rfl, rfl⟩ (readable_insertEnding (t := t))
    exact (start.append closed rfl :)

theorem scan_plan (plain : ∀ s, t.schema = some s → Plain d.quoteChar d.marker s) (sends : (w.plan t d).sql ≠ "") :
    d.scan (w.plan t d).sql = w.lexemes t d :=
  scan_of_write (plan_toList sends) (lexemes_readable plain) Dialect.marker_ne_quoteChar

theorem terms_length_insert : (insert.terms t d).length = ((t.insertTerms d).filterMap (·.2)).length := by
  show ((t.insertTerms d).filterMap fun term => term.2.map (term.1, ·)).length = _
  induction t.insertTerms d with
  | nil => rfl
  | cons term rest ih =>
    obtain ⟨c, source⟩ := term
    cases source <;> simpa using ih

theorem insertEnding_placeholders : (t.insertEnding d).filterMap Lexeme.placeholder? = [] := by
  unfold Table.insertEnding
  cases t.columns.find? fun c => !c.isTransient && c.autoIncrement with
  | none => rfl
  | some c =>
    cases d with
    | postgres =>
      simp only [Option.elim, Dialect.suffixLexemes, List.filterMap_append, filterMap_symbols]
      rfl
    | sqlite | snowflake | mysql | oracle | crate => rfl

theorem names_placeholders (entries : List (Column × List Lexeme)) :
    ((entries.map fun entry => [d.nameLexeme entry.1.name]).map (List.filterMap Lexeme.placeholder?)).flatten = [] := by
  rw [List.map_map, List.flatten_eq_nil_iff]
  intro l member
  obtain ⟨entry, _, rfl⟩ := List.mem_map.mp member
  rfl

theorem lexemes_placeholders :
    (w.lexemes t d).filterMap Lexeme.placeholder? = (List.range (w.terms t d).length).map d.placeholder := by
  cases w with
  | insert =>
    simp only [lexemes, beginning, picksRow, Bool.false_eq_true, if_false, List.filterMap_append, filterMap_symbols,
      Dialect.table_placeholders, names_placeholders, insertEnding_placeholders, insertEntries_snd, filterMap_joined,
      Dialect.values_placeholders, List.append_nil, List.nil_append, ← terms_length_insert, List.range_eq_range']
  | update accepts =>
    have consecutive (m n : Nat) : List.range' 0 m ++ List.range' m n = List.range' 0 (m + n) := by
      simpa using List.range'_append_1 (s := 0) (m := m) (n := n)
    simp only [lexemes, beginning, picksRow, if_true, List.filterMap_append, filterMap_symbols,
      Dialect.table_placeholders, filterMap_joined, Dialect.equations_placeholders, List.append_nil, List.nil_append,
      setCount, terms, List.length_append, List.range_eq_range', ← consecutive, List.map_append]
  | delete =>
    simp only [lexemes, beginning, picksRow, if_true, List.filterMap_append, filterMap_symbols,
      Dialect.table_placeholders, filterMap_joined, Dialect.equations_placeholders, List.append_nil, List.nil_append,
      setCount, terms, List.range_eq_range']

theorem zip_values_placed (n : Nat) (all : List (Column × Option Source)) :
    ((all.map (·.1)).zip (d.valueLexemes n all)).filterMap atPlaceholder =
      (all.filterMap fun term => term.2.map (term.1, ·)).mapIdx fun i term => (term.1, d.placeholder (n + i)) := by
  induction all generalizing n with
  | nil => rfl
  | cons term rest ih =>
    obtain ⟨c, source⟩ := term
    cases source with
    | none =>
      have literal : atPlaceholder (c, symbols d.autoIncrementValue) = none := by
        unfold symbols
        cases d.autoIncrementValue.toList with
        | nil => rfl
        | cons letter letters => rfl
      simp only [Dialect.valueLexemes, List.map_cons, List.zip_cons_cons, List.filterMap_cons, literal, Option.map_none,
        ih]
    | some source =>
      simp only [Dialect.valueLexemes, List.map_cons, List.zip_cons_cons, List.filterMap_cons, Option.map_some,
        atPlaceholder, ih]
      exact (mapIdx_from (f := fun i (term : Column × Source) => (term.1, d.placeholder i)) (a := (c, source))).symm

/-- Of what an insertion lists, the terms are at the placeholders. -/
theorem insertEntries_placed :
    (t.insertEntries d).filterMap atPlaceholder =
      (insert.terms t d).mapIdx fun i term => (term.1, d.placeholder i) := by
  have placed := zip_values_placed (d := d) 0 (t.insertTerms d)
  simp only [Nat.zero_add] at placed
  exact placed

theorem equated_table {s : String} {letters : List Char} (spelled : s.toList = ' ' :: letters) (rest : List Lexeme) :
    equated (d.tableLexemes t.schema t.name ++ (symbols s ++ rest)) = equated rest := by
  have named : equated (d.nameLexeme t.name :: (symbols s ++ rest)) = equated rest := by
    have passed : equated (symbols s ++ rest) = equated rest := equated_symbols
    rw [← passed]
    simp [symbols, spelled, Dialect.nameLexeme, equated]
  unfold Dialect.tableLexemes
  split
  · rw [List.append_assoc, equated_symbols]
    exact named
  · exact named

/-- What an update and a deletion equate are their terms with the placeholders. -/
theorem lexemes_equated (picks : w.picksRow = true) :
    equated (w.lexemes t d) = (w.terms t d).mapIdx fun i term => (d.fold term.1.name, d.placeholder i) := by
  have ended : equated (symbols d.terminator) = [] := by
    rw [← List.append_nil (symbols _), equated_symbols]
    rfl
  cases w with
  | insert => cases picks
  | update accepts =>
    simp only [lexemes, beginning, picksRow, if_true, List.append_assoc, equated_symbols, setCount, terms,
      equated_table (s := " set ") rfl, Dialect.equated_equations, ended, List.append_nil, List.mapIdx_append,
      Nat.add_zero, Nat.add_comm]
  | delete =>
    simp only [lexemes, beginning, picksRow, if_true, List.append_assoc, equated_symbols, setCount, terms,
      equated_table (s := " where ") rfl, Dialect.equated_equations, ended, List.append_nil, Nat.zero_add]

theorem map_fst_zipIdx {α : Type} {term? : Column × Nat → Option (Column × α)} {listed : Column → Bool}
    (own : ∀ c i, (term? (c, i)).map (·.1) = if listed c then some c else none) (columns : List Column) (n : Nat) :
    ((columns.zipIdx n).filterMap term?).map (·.1) = columns.filter listed := by
  rw [List.map_filterMap]
  induction columns generalizing n with
  | nil => rfl
  | cons c rest ih =>
    rw [List.zipIdx_cons, List.filterMap_cons, List.filter_cons, own, ih]
    cases listed c <;> rfl

theorem insertTerms_columns :
    (t.insertTerms d).map (·.1) =
      t.storedColumns.filter fun c => !c.autoIncrement || !d.autoIncrementValue.isEmpty := by
  unfold Table.insertTerms Table.storedColumns
  rw [List.filter_filter]
  refine map_fst_zipIdx (fun c i => ?_) t.columns 0
  cases hidden : c.isTransient with
  | true => simp [hidden]
  | false =>
    cases auto : c.autoIncrement with
    | false => simp [hidden, auto]
    | true => cases d.autoIncrementValue.isEmpty <;> simp [hidden, auto]

theorem mem_zip_values {n : Nat} {all : List (Column × Option Source)} {c : Column} {value : List Lexeme}
    (member : (c, value) ∈ (all.map (·.1)).zip (d.valueLexemes n all)) :
    (∃ source, (c, some source) ∈ all) ∨ value = symbols d.autoIncrementValue := by
  induction all generalizing n with
  | nil => exact absurd member List.not_mem_nil
  | cons term rest ih =>
    obtain ⟨k, source⟩ := term
    cases source with
    | none =>
      rw [Dialect.valueLexemes, List.map_cons, List.zip_cons_cons] at member
      rcases List.mem_cons.mp member with same | later
      · cases same
        exact .inr rfl
      · exact (ih later).imp_left fun found => found.imp fun _ => List.mem_cons_of_mem _
    | some source =>
      rw [Dialect.valueLexemes, List.map_cons, List.zip_cons_cons] at member
      rcases List.mem_cons.mp member with same | later
      · cases same
        exact .inl ⟨source, List.mem_cons_self⟩
      · exact (ih later).imp_left fun found => found.imp fun _ => List.mem_cons_of_mem _

/-- A generated column is listed with its literal, or not at all where there is none. -/
theorem insertEntries_columns :
    (t.insertEntries d).map (·.1) = t.storedColumns.filter (fun c => !c.autoIncrement || !d.autoIncrementValue.isEmpty) ∧
      ∀ entry ∈ t.insertEntries d, entry.1.autoIncrement = true → entry.2 = symbols d.autoIncrementValue := by
  refine ⟨insertEntries_fst.trans insertTerms_columns, ?_⟩
  rintro ⟨c, value⟩ member auto
  refine (mem_zip_values member).resolve_left ?_
  rintro ⟨source, found⟩
  have bound : (c, source) ∈ t.boundTerms d := List.mem_filterMap.mpr ⟨_, found, rfl⟩
  obtain ⟨_, _, _, manual, _⟩ := Table.mem_boundTerms.mp bound
  rw [manual] at auto
  cases auto

end Write

end RowMapper
