import RowMapper.Proofs.Sql.Definition
import RowMapper.Proofs.Table.Configuration
import RowMapper.Proofs.Table.Named

/-!
# Primary keys in table definitions

What a table definition declares as primary key, read off its text. A key of one column is declared with the column, a
key of several by a clause that lists them in key order. The clause for generated keys comes from the database, and
where it declares a key itself, that key is declared twice.
-/

namespace RowMapper

open Sql

namespace Sql

/-- Marks within an item that say nothing of a primary key. -/
structure Quiet (marks : List Mark) : Prop where
  item : IsItem marks
  silent : .word "primary" ∉ marks

instance (marks : List Mark) : Decidable (Quiet marks) :=
  decidable_of_iff (depthAfter 0 marks = some 0 ∧ .word "primary" ∉ marks)
    ⟨fun quiet => ⟨quiet.1, quiet.2⟩, fun quiet => ⟨quiet.item, quiet.silent⟩⟩

theorem Quiet.append {first second : List Mark} (quiet : Quiet first) (also : Quiet second) :
    Quiet (first ++ second) where
  item := quiet.item.append also.item
  silent member := (List.mem_append.mp member).elim quiet.silent also.silent

theorem Quiet.keyPhrases {marks : List Mark} (quiet : Quiet marks) : keyPhrases marks = 0 := by
  rw [← List.append_nil marks, keyPhrases_silent quiet.silent]
  rfl

theorem boundary?_digit {c : Char} (digit : c.isDigit = true) : boundary? c = none := by
  unfold boundary?
  split <;> first | rfl | exact absurd digit (by decide)

theorem toLower_digit {c : Char} (digit : c.isDigit = true) : c.toLower = c := by
  have bounded : c.val ≤ '9'.val := by
    simp only [Char.isDigit, Bool.and_eq_true, decide_eq_true_iff] at digit
    exact digit.2
  have notUpper : ¬ ('A'.val ≤ c.val ∧ c.val ≤ 'Z'.val) := by
    rintro ⟨upper, _⟩
    exact absurd (UInt32.le_trans upper bounded) (by decide)
  exact dif_neg notUpper

theorem wordOf_digits {s : String} (digits : ∀ c ∈ s.toList, c.isDigit = true) :
    .word "primary" ∉ wordOf s.toList := by
  unfold wordOf
  split
  · exact List.not_mem_nil
  · intro member
    have lower : s.toList.map Char.toLower = s.toList :=
      (List.map_congr_left fun c among => toLower_digit (digits c among)).trans (List.map_id _)
    rw [lower, String.ofList_toList, List.mem_singleton] at member
    cases member
    exact absurd (digits 'p' (by decide)) (by decide)

theorem quiet_size {s : String} (digits : ∀ c ∈ s.toList, c.isDigit = true) :
    Quiet (marks (symbols "(" ++ (symbols s ++ symbols ")"))) := by
  have number : marks (symbols s ++ symbols ")") = wordOf s.toList ++ [.closed] := by
    rw [marks, marksFrom_symbols fun c member => boundary?_digit (digits c member), List.nil_append]
    exact marksFrom_bounded rfl
  have opened : marks (symbols "(" ++ (symbols s ++ symbols ")")) = .opened :: marks (symbols s ++ symbols ")") := rfl
  rw [opened, number]
  refine ⟨?_, by simpa using wordOf_digits digits⟩
  unfold wordOf
  split <;> rfl

def groupMarks (names : List String) : List Mark :=
  .opened :: [.comma].intercalate (names.map fun s => [.name s]) ++ [.closed]

theorem nameList_marks (names : List String) :
    depthAfter 1 ([.comma].intercalate (names.map fun s => [.name s])) = some 1 ∧
      .word "primary" ∉ [Mark.comma].intercalate (names.map fun s => [.name s]) ∧
      ([.comma].intercalate (names.map fun s => [.name s])).filterMap Mark.name? = names := by
  induction names with
  | nil => exact ⟨rfl, List.not_mem_nil, rfl⟩
  | cons s rest ih =>
    obtain ⟨inside, silent, names⟩ := ih
    cases rest with
    | nil => exact ⟨rfl, by simp, rfl⟩
    | cons next rest =>
      rw [List.map_cons, List.map_cons, List.intercalate_cons_cons]
      refine ⟨inside, ?_, congrArg (s :: ·) names⟩
      simpa using silent

theorem quiet_groupMarks (names : List String) : Quiet (groupMarks names) := by
  obtain ⟨inside, silent, _⟩ := nameList_marks names
  refine ⟨?_, by simpa [groupMarks] using silent⟩
  rw [IsItem, groupMarks, List.cons_append, depthAfter, depthAfter_append, inside]
  rfl

theorem groupMarks_names (names : List String) : (groupMarks names).filterMap Mark.name? = names := by
  obtain ⟨_, _, same⟩ := nameList_marks names
  rw [groupMarks, List.cons_append, List.filterMap_cons_none rfl, List.filterMap_append, same]
  exact List.append_nil _

end Sql

namespace Dialect

variable {d : Dialect}

theorem quiet_common {s : String} (common : isCommon s = true) (quiet : Quiet (Sql.marks (symbols s))) :
    Quiet (d.marks s) := by
  rwa [(shows_plain (plain_of_common common)).marked]

theorem quiet_sizedText {sized unbounded : String} (n : Nat) (common : isCommon sized = true)
    (quiet : Quiet (Sql.marks (symbols sized))) (other : Quiet (d.marks unbounded)) :
    Quiet (d.marks (sizedText sized unbounded n)) := by
  unfold sizedText
  split
  · have digits : ∀ c ∈ (Number.integerText n).toList, c.isDigit = true := fun c member =>
      Nat.isDigit_of_mem_toDigits (by decide) (by decide) (integerText_toList n ▸ member)
    have plain : Plain d.quoteChar d.marker (sized ++ "(" ++ Number.integerText n ++ ")") :=
      plain_append (plain_append (plain_append (plain_of_common common) (plain_of_common (by decide)))
        (plain_integerText n)) (plain_of_common (by decide))
    have parts : symbols (sized ++ "(" ++ Number.integerText n ++ ")") =
        symbols sized ++ (symbols "(" ++ (symbols (Number.integerText n) ++ symbols ")")) := by
      simp [symbols]
    have bounded : Bounded (symbols "(" ++ (symbols (Number.integerText n) ++ symbols ")")) := rfl
    rw [(shows_plain plain).marked, parts, marks_append bounded]
    exact quiet.append (quiet_size digits)
  · exact other

theorem quiet_columnType (type : SemanticType) (n : Nat) (auto : Bool) :
    Quiet (d.marks (d.columnType type n auto)) := by
  unfold columnType postgresType
  repeat' split
  all_goals first
    | exact quiet_common (by decide) (by decide)
    | exact quiet_sizedText n (by decide) (by decide) (quiet_common (by decide) (by decide))

theorem shows_nameGroup (idents : List String) :
    d.Shows (groupMarks (idents.map d.fold)) (Table.nameGroup d idents) := by
  have listed := shows_intercalate (l := idents) fun ident _ => shows_quote (d := d) ident
  have opens : Opens "(" [.opened] := ⟨by decide, fun _ => rfl⟩
  have grouped := (listed.after opens).ending (s := ")") (by decide) rfl
  unfold groupMarks
  rwa [List.map_map]

/-- The marks of the clause for a generated key, if a column has it. -/
def generatedMarks (clause : String) (auto : Bool) : List Mark :=
  if auto && !clause.isEmpty then Sql.marks (symbols (" " ++ clause)) else []

/-- The clause for generated keys declares a key in one database. -/
theorem generatedMarks_cases (auto : Bool) :
    auto = true ∧ d.name = "crate" ∧ generatedMarks d.autoIncrementClause auto = [.word "primary", .word "key"] ∨
      ¬ (auto = true ∧ d.name = "crate") ∧ Quiet (generatedMarks d.autoIncrementClause auto) := by
  cases auto with
  | false => exact .inr ⟨nofun, (by decide : Quiet [])⟩
  | true =>
    cases d with
    | crate =>
      refine .inl ⟨rfl, rfl, ?_⟩
      simp only [autoIncrementClause]
      decide
    | sqlite | postgres | snowflake | mysql | oracle =>
      right
      simp only [autoIncrementClause, name]
      decide

theorem generated_separates : isSeparator (" " ++ d.autoIncrementClause) = true := by
  cases d <;> simp only [autoIncrementClause] <;> decide

theorem generated_bounded : Bounded (symbols (" " ++ d.autoIncrementClause)) := by
  unfold symbols
  rw [String.toList_append]
  exact (rfl : (boundary? ' ').isSome = true)

end Dialect

namespace Table

variable {t : Table} {d : Dialect}

def columnMarks (t : Table) (d : Dialect) (c : Column) : List Mark :=
  d.marks (d.columnType c.type c.maxSize c.autoIncrement) ++
  (if c.primaryKey || c.notNull then [.word "not", .word "null"] else []) ++
  (if c.primaryKey && t.keys.length == 1 then [.word "primary", .word "key"] else []) ++
  (if c.unique then [.word "unique"] else []) ++
  Dialect.generatedMarks d.autoIncrementClause c.autoIncrement

theorem shows_columnDefinition (c : Column) :
    d.Shows (.name (d.fold c.name) :: t.columnMarks d c) (t.columnDefinition d c) := by
  have plain : Plain d.quoteChar d.marker (d.columnType c.type c.maxSize c.autoIncrement) :=
    Dialect.plain_columnType c.type c.maxSize c.autoIncrement
  have typed := (Dialect.shows_quote (d := d) c.name).andThen divides_blank ⟨⟨_, Dialect.quotes_plain plain⟩, rfl⟩
  have required := typed.clause (s := " not null") (b := (c.primaryKey || c.notNull) = true) (by decide) rfl
  have keyed := required.clause (s := " primary key") (b := (c.primaryKey && t.keys.length == 1) = true)
    (by decide) rfl
  have unique := keyed.clause (s := " unique") (b := c.unique = true) (by decide) rfl
  exact unique.clause Dialect.generated_separates Dialect.generated_bounded

theorem isItem_columnMarks (c : Column) : IsItem (t.columnMarks d c) := by
  have typed : Quiet (d.marks (d.columnType c.type c.maxSize c.autoIncrement)) :=
    Dialect.quiet_columnType c.type c.maxSize c.autoIncrement
  have generated : IsItem (Dialect.generatedMarks d.autoIncrementClause c.autoIncrement) := by
    rcases Dialect.generatedMarks_cases (d := d) c.autoIncrement with ⟨_, _, both⟩ | ⟨_, quiet⟩
    · rw [both]
      rfl
    · exact quiet.item
  refine (((typed.item.append ?_).append ?_).append ?_).append generated
  all_goals split <;> rfl

theorem keyPhrases_columnMarks (c : Column) :
    keyPhrases (t.columnMarks d c) =
      (if c.primaryKey = true ∧ t.keys.length = 1 then 1 else 0) +
        if c.autoIncrement = true ∧ d.name = "crate" then 1 else 0 := by
  have typed : Quiet (d.marks (d.columnType c.type c.maxSize c.autoIncrement)) :=
    Dialect.quiet_columnType c.type c.maxSize c.autoIncrement
  have required : Mark.word "primary" ∉ if c.primaryKey || c.notNull then [.word "not", .word "null"] else [] := by
    split <;> decide
  have unique : Mark.word "primary" ∉ if c.unique then [.word "unique"] else [] := by
    split <;> decide
  have keyed (rest : List Mark) : keyPhrases ([.word "primary", .word "key"] ++ rest) = 1 + keyPhrases rest := by
    simp [keyPhrases]
  have generated : keyPhrases (Dialect.generatedMarks d.autoIncrementClause c.autoIncrement) =
      if c.autoIncrement = true ∧ d.name = "crate" then 1 else 0 := by
    rcases Dialect.generatedMarks_cases (d := d) c.autoIncrement with ⟨auto, crate, both⟩ | ⟨neither, quiet⟩
    · rw [if_pos ⟨auto, crate⟩, both]
      rfl
    · rw [if_neg neither]
      exact quiet.keyPhrases
  have single : (c.primaryKey && t.keys.length == 1) = true ↔ c.primaryKey = true ∧ t.keys.length = 1 := by
    rw [Bool.and_eq_true, beq_iff_eq]
  unfold columnMarks
  rw [List.append_assoc, List.append_assoc, List.append_assoc, keyPhrases_silent typed.silent,
    keyPhrases_silent required, if_congr single rfl rfl]
  split
  · rw [keyed, keyPhrases_silent unique, generated]
  · rw [List.nil_append, keyPhrases_silent unique, generated, Nat.zero_add]

/-- What the definition of a column declares: the key, if it is the only one, and again with the clause for a generated
key in one database. -/
theorem column_declarations (c : Column) :
    itemDeclarations (.name (d.fold c.name) :: t.columnMarks d c) =
      List.replicate ((if c.primaryKey = true ∧ t.keys.length = 1 then 1 else 0) +
        if c.autoIncrement = true ∧ d.name = "crate" then 1 else 0) (.column (d.fold c.name)) := by
  have named : keyPhrases (.name (d.fold c.name) :: t.columnMarks d c) = keyPhrases (t.columnMarks d c) := by
    simp [keyPhrases]
  rw [← keyPhrases_columnMarks, ← named]
  rfl

theorem key_declarations (names : List String) :
    itemDeclarations (.word "primary" :: .word "key" :: groupMarks names) = [.clause names] := by
  have once : keyPhrases (.word "primary" :: .word "key" :: groupMarks names) = 1 := by
    rw [keyPhrases, keyPhrases, (quiet_groupMarks names).keyPhrases]
    simp
  have listed : (.word "primary" :: .word "key" :: groupMarks names).filterMap Mark.name? = names :=
    groupMarks_names names
  unfold itemDeclarations
  rw [once, listed]
  rfl

theorem group_declarations (names : List String) : itemDeclarations (.word "unique" :: groupMarks names) = [] := by
  have none : keyPhrases (.word "unique" :: groupMarks names) = 0 := by
    rw [keyPhrases, (quiet_groupMarks names).keyPhrases]
    simp
  rw [← List.length_eq_zero_iff, length_itemDeclarations, none]

def markedParts (t : Table) (d : Dialect) : List (List Mark × String) :=
  t.storedColumns.map (fun c => (.name (d.fold c.name) :: t.columnMarks d c, t.columnDefinition d c)) ++
  (if 1 < t.keys.length then
    [(.word "primary" :: .word "key" :: groupMarks ((t.keyColumns.map Column.name).map d.fold),
      "primary key " ++ nameGroup d (t.keyColumns.map Column.name))]
  else []) ++
  t.uniqueTogether.map fun group => (.word "unique" :: groupMarks (group.map d.fold), "unique " ++ nameGroup d group)

theorem markedParts_snd : (t.markedParts d).map (·.2) = t.definitionParts d := by
  unfold markedParts definitionParts
  split <;> simp [Function.comp_def]

theorem mem_markedParts {part : List Mark × String} (member : part ∈ t.markedParts d) :
    IsItem part.1 ∧ d.Shows part.1 part.2 := by
  rcases List.mem_append.mp member with member | inGroup
  · rcases List.mem_append.mp member with isColumn | isKey
    · obtain ⟨c, _, rfl⟩ := List.mem_map.mp isColumn
      exact ⟨isItem_columnMarks c, shows_columnDefinition c⟩
    · split at isKey
      · cases List.mem_singleton.mp isKey
        have opens : Opens "primary key " [.word "primary", .word "key"] := ⟨by decide, fun _ => rfl⟩
        exact ⟨(quiet_groupMarks _).item, (Dialect.shows_nameGroup _).after opens⟩
      · cases isKey
  · obtain ⟨group, _, rfl⟩ := List.mem_map.mp inGroup
    have opens : Opens "unique " [.word "unique"] := ⟨by decide, fun _ => rfl⟩
    exact ⟨(quiet_groupMarks _).item, (Dialect.shows_nameGroup _).after opens⟩

theorem shows_definitionParts :
    d.Shows ([.comma].intercalate ((t.markedParts d).map (·.1))) (", ".intercalate (t.definitionParts d)) := by
  rw [← markedParts_snd]
  exact Dialect.shows_intercalate fun part member => (mem_markedParts member).2

theorem definition_declarations :
    d.keyDeclarations (", ".intercalate (t.definitionParts d)) =
      t.storedColumns.flatMap (fun c => itemDeclarations (.name (d.fold c.name) :: t.columnMarks d c)) ++
        if 1 < t.keys.length then [.clause ((t.keyColumns.map Column.name).map d.fold)] else [] := by
  have each : ∀ l ∈ (t.markedParts d).map (·.1), IsItem l := by
    intro l member
    obtain ⟨part, among, rfl⟩ := List.mem_map.mp member
    exact (mem_markedParts among).1
  rw [Dialect.keyDeclarations, shows_definitionParts.marked, keyDeclarations_intercalate each]
  unfold markedParts
  split <;> simp [List.flatMap_map, key_declarations, group_declarations]

/-- What declares the key of a table once: its column if it is a single one, or a clause in key order. -/
def keyDeclared (t : Table) (d : Dialect) : List KeyDeclaration :=
  match t.keyColumns with
  | [] => []
  | [c] => [.column (d.fold c.name)]
  | several => [.clause (several.map fun c => d.fold c.name)]

def listed (t : Table) (d : Dialect) : String := ", ".intercalate (t.definitionParts d)

/-- The statement that defines a table, up to what ends every definition. -/
def definition (t : Table) (d : Dialect) (guarded : Bool) : String :=
  (if guarded then d.guardCreate "create table" else "create table") ++ " " ++ t.quotedName d ++ " (" ++
    t.listed d ++ ")"

theorem createStatements_eq {suffix : String} (suffixed : d.createTableSuffix = .ok suffix) (guarded : Bool) :
    t.createStatements d guarded = .ok ((t.neededSchema? d).toList.map (createSchemaStatement d guarded) ++
      [t.definition d guarded ++ suffix ++ d.terminator]) := by
  unfold createStatements
  rw [suffixed]
  rfl

theorem flatMap_storedColumns {α : Type} {f : Column → List α} {i : Nat} {c : Column} (here : t.columns[i]? = some c)
    (stored : c.isTransient = false) (others : ∀ (j : Nat) (b : Column), t.columns[j]? = some b → j ≠ i → f b = []) :
    t.storedColumns.flatMap f = f c := by
  unfold storedColumns
  generalize t.columns = columns at here others
  induction columns generalizing i with
  | nil => cases here
  | cons a rest ih =>
    cases i with
    | zero =>
      cases here
      have later : (rest.filter (!·.isTransient)).flatMap f = [] := by
        refine List.flatMap_eq_nil_iff.mpr fun b member => ?_
        obtain ⟨j, there⟩ := List.mem_iff_getElem?.mp (List.mem_filter.mp member).1
        exact others (j + 1) b there (Nat.succ_ne_zero j)
      rw [List.filter_cons_of_pos (by simpa using stored), List.flatMap_cons, later, List.append_nil]
    | succ i =>
      have first : f a = [] := others 0 a rfl (Nat.succ_ne_zero i).symm
      have same := ih here fun j b there different => others (j + 1) b there (by omega)
      rw [List.filter_cons]
      split
      · rw [List.flatMap_cons, first, List.nil_append, same]
      · exact same

theorem creation_command (guarded : Bool) :
    (if guarded then d.guardCreate "create table" else "create table") ∈
      ["create table", "create table if not exists", "create table IF NOT EXISTS"] := by
  cases guarded with
  | false => exact List.mem_cons_self
  | true => cases d <;> simp [Dialect.guardCreate]

theorem opens_creation {command : String}
    (creates : command ∈ ["create table", "create table if not exists", "create table IF NOT EXISTS"]) :
    ∃ words, Opens (command ++ " ") words ∧ .word "primary" ∉ words := by
  have guarded : Mark.word "primary" ∉ ["create", "table", "if", "not", "exists"].map Mark.word := by decide
  simp only [List.mem_cons, List.not_mem_nil, or_false] at creates
  rcases creates with rfl | rfl | rfl
  · exact ⟨["create", "table"].map .word, ⟨by decide, fun _ => rfl⟩, by decide⟩
  · exact ⟨_, ⟨by decide, fun _ => rfl⟩, guarded⟩
  · exact ⟨_, ⟨by decide, fun _ => rfl⟩, guarded⟩

/-- Whether the name of a schema, which is not quoted, can be read and says nothing of a primary key. -/
def SchemaQuiet (t : Table) (d : Dialect) : Prop :=
  ∀ s, t.neededSchema? d = some s →
    Plain d.quoteChar d.marker s ∧ keyPhrases (Sql.marks (symbols (s ++ "."))) = 0

theorem shows_quotedName (quiet : t.SchemaQuiet d) :
    ∃ marks, d.Shows marks (t.quotedName d) ∧ keyPhrases marks = 0 := by
  have alone : keyPhrases [.name (d.fold t.name)] = 0 := rfl
  unfold quotedName Dialect.quoteTable
  split
  · rename_i s supported named
    have needed : t.neededSchema? d = some s := by
      rw [neededSchema?, supported, if_pos rfl, named]
    obtain ⟨plain, silent⟩ := quiet s needed
    have dotted : Plain d.quoteChar d.marker (s ++ ".") :=
      Dialect.plain_append plain (Dialect.plain_of_common (by decide))
    have scanned := (Dialect.quotes_name (d := d) t.name).scan_after dotted
    refine ⟨_, ⟨⟨_, (Dialect.quotes_name t.name).after dotted⟩, rfl⟩, ?_⟩
    have bounded : Bounded [.name (d.fold t.name)] := trivial
    have alone : keyPhrases (Sql.marks [.name (d.fold t.name)]) = 0 := rfl
    have apart : (Sql.marks [.name (d.fold t.name)]).head? ≠ some (.word "key") := by
      simp [Sql.marks, marksFrom, wordOf]
    rw [Dialect.marks, scanned, Dialect.scan_quote, marks_append bounded, keyPhrases_append apart, silent, alone]
  · exact ⟨_, Dialect.shows_quote t.name, alone⟩

/-- Outside of its list, a definition says nothing of a primary key. -/
theorem keyPhrases_definition (quiet : t.SchemaQuiet d) (guarded : Bool) :
    keyPhrases (d.marks (t.definition d guarded)) = (d.keyDeclarations (t.listed d)).length := by
  obtain ⟨words, opens, silent⟩ := opens_creation (creation_command (d := d) guarded)
  obtain ⟨named, shows, quietName⟩ := shows_quotedName quiet
  have listed : d.Shows (d.marks (t.listed d)) (t.listed d) := ⟨shows_definitionParts.readable, rfl⟩
  have whole := ((shows.after opens).andThen divides_opened listed).ending (s := ")") (by decide) rfl
  have opened (rest : List Mark) : keyPhrases ([.opened] ++ rest) = keyPhrases rest := keyPhrases_silent (by decide)
  have closed : keyPhrases (d.marks (t.listed d) ++ [.closed]) = keyPhrases (d.marks (t.listed d)) :=
    keyPhrases_append nofun
  have marked : d.marks (t.definition d guarded) =
      words ++ (named ++ ([.opened] ++ (d.marks (t.listed d) ++ [.closed]))) := by
    unfold definition
    rw [whole.marked]
    simp only [List.append_assoc]
    rfl
  rw [marked, keyPhrases_silent silent, keyPhrases_append (by simp), quietName, opened, closed, Nat.zero_add,
    Dialect.keyDeclarations, length_keyDeclarations]

end Table

namespace RecordType

variable {R : RecordType} {t : Table} {d : Dialect} {name suffix : String} {schema : Option String}
  {l : List TableCall}

theorem Sound.column_declarations (sound : R.Sound t) {i : Nat} {c : Column} (here : t.columns[i]? = some c) :
    itemDeclarations (.name (d.fold c.name) :: t.columnMarks d c) =
      if t.keys = [i] then
        List.replicate (if c.autoIncrement = true ∧ d.name = "crate" then 2 else 1) (.column (d.fold c.name))
      else [] := by
  have column := sound.columns i c here
  rw [Table.column_declarations]
  by_cases only : t.keys = [i]
  · have key : c.primaryKey = true := column.primaryKey.mpr (only ▸ List.mem_singleton_self i)
    rw [if_pos ⟨key, congrArg List.length only⟩, if_pos only]
    split <;> rfl
  · have notSingle : ¬ (c.primaryKey = true ∧ t.keys.length = 1) := by
      rintro ⟨key, single⟩
      obtain ⟨j, alone⟩ := List.length_eq_one_iff.mp single
      have same : i = j := List.mem_singleton.mp (alone ▸ column.primaryKey.mp key)
      exact only (same ▸ alone)
    rw [if_neg notSingle, if_neg fun both => only (column.autoIncrement both.1), if_neg only]
    rfl

theorem Sound.silent_columns (sound : R.Sound t) (several : ∀ i, t.keys ≠ [i]) :
    t.storedColumns.flatMap (fun c => itemDeclarations (.name (d.fold c.name) :: t.columnMarks d c)) = [] ∧
      ¬ ∃ c ∈ t.keyColumns, c.autoIncrement = true := by
  refine ⟨List.flatMap_eq_nil_iff.mpr fun c member => ?_, ?_⟩
  · obtain ⟨i, here⟩ := List.mem_iff_getElem?.mp (List.mem_filter.mp member).1
    rw [sound.column_declarations here, if_neg (several i)]
  · rintro ⟨c, member, auto⟩
    obtain ⟨i, _, here⟩ := List.mem_filterMap.mp member
    exact several i ((sound.columns i c here).autoIncrement auto)

/-- However a table was configured, its definition declares its key exactly once, with the column of a single key or by
a clause in key order, and no key if it has none. Only a key that Crate generates is declared again. -/
theorem primary_key_declared (configured : R.Configured name schema l t) (suffixed : d.createTableSuffix = .ok suffix)
    (stored : ∀ c ∈ t.keyColumns, c.isTransient = false) (guarded : Bool) :
    (∃ early, t.createStatements d guarded = .ok (early ++ [t.definition d guarded ++ suffix ++ d.terminator])) ∧
      d.keyDeclarations (t.listed d) =
        (if d.name = "crate" ∧ ∃ c ∈ t.keyColumns, c.autoIncrement = true then t.keyDeclared d ++ t.keyDeclared d
        else t.keyDeclared d) ∧
      (t.SchemaQuiet d →
        keyPhrases (d.marks (t.definition d guarded)) = (d.keyDeclarations (t.listed d)).length) := by
  refine ⟨⟨_, Table.createStatements_eq suffixed guarded⟩, ?_, fun quiet => Table.keyPhrases_definition quiet guarded⟩
  have sound := configured.maps.sound
  have isColumn (i : Nat) (member : i ∈ t.keys) : ∃ c, t.columns[i]? = some c :=
    ⟨_, List.getElem?_eq_getElem (configured.closed.keys i member)⟩
  rw [Table.listed, Table.definition_declarations]
  -- No key, one or several: the column declares a single key, and a clause stands for several only.
  match keys : t.keys with
  | [] =>
    have noColumns : t.keyColumns = [] := by rw [Table.keyColumns, keys]; rfl
    obtain ⟨silent, _⟩ := sound.silent_columns (d := d) (by simp [keys])
    rw [silent, Table.keyDeclared, noColumns]
    simp
  | [i] =>
    obtain ⟨c, here⟩ := isColumn i (keys ▸ List.mem_singleton_self i)
    have column : t.keyColumns = [c] := by rw [Table.keyColumns, keys]; simp [here]
    have isStored : c.isTransient = false := stored c (column ▸ List.mem_singleton_self c)
    have others (j : Nat) (b : Column) (there : t.columns[j]? = some b) (different : j ≠ i) :
        itemDeclarations (.name (d.fold b.name) :: t.columnMarks d b) = [] := by
      rw [sound.column_declarations there, keys, if_neg fun same => different (List.singleton_inj.mp same).symm]
    have alone : ¬ 1 < [i].length := Nat.lt_irrefl 1
    rw [Table.flatMap_storedColumns here isStored others, sound.column_declarations here, if_pos keys,
      if_neg alone, List.append_nil, Table.keyDeclared, column]
    by_cases again : c.autoIncrement = true ∧ d.name = "crate"
    · rw [if_pos again, if_pos ⟨again.2, c, List.mem_singleton_self c, again.1⟩]
      rfl
    · rw [if_neg again, if_neg fun ⟨crate, b, member, auto⟩ => again ⟨List.mem_singleton.mp member ▸ auto, crate⟩]
      rfl
  | i :: j :: rest =>
    obtain ⟨c, here⟩ := isColumn i (by simp [keys])
    obtain ⟨next, there⟩ := isColumn j (by simp [keys])
    have columns : t.keyColumns = c :: next :: rest.filterMap (t.columns[·]?) := by
      rw [Table.keyColumns, keys]; simp [here, there]
    obtain ⟨silent, notGenerated⟩ := sound.silent_columns (d := d) (by simp [keys])
    rw [silent, if_pos (by simp), if_neg fun both => notGenerated both.2, Table.keyDeclared, columns, List.map_map]
    rfl

end RecordType

/-- A key of two columns in a schema is declared by one clause, in key order. -/
theorem shipments_key_declared :
    shipmentType.Configured "shipments" none shipmentCalls shipments ∧
      shipments.createStatements (.postgres "" false) false = .ok ["create schema depot;",
        "create table depot.\"boxes\" (\"volume\" bigint not null, \"number\" bigint not null, " ++
          "\"note\" text, \"version\" bigint, primary key (\"number\", \"volume\"), unique (\"id\", \"size\"), " ++
          "unique (\"id\", \"volume\"));"] ∧
      (Dialect.postgres "" false).keyDeclarations (shipments.listed (.postgres "" false)) =
        [.clause ["number", "volume"]] ∧
      keyPhrases ((Dialect.postgres "" false).marks (shipments.definition (.postgres "" false) false)) = 1 := by
  have configured : shipmentType.Configured "shipments" none shipmentCalls shipments := rfl
  have stored : ∀ c ∈ shipments.keyColumns, c.isTransient = false := by decide
  obtain ⟨_, declared, counted⟩ :=
    RecordType.primary_key_declared (d := .postgres "" false) configured rfl stored false
  have quiet : shipments.SchemaQuiet (.postgres "" false) := by
    intro s needed
    cases needed
    exact ⟨Dialect.plain_of_common (by decide), by decide⟩
  refine ⟨configured, by decide +kernel, declared, ?_⟩
  rw [counted quiet, declared]
  rfl

def generatedEvents : Table :=
  ((Table.ofFields "Event" "events" none eventType.fields).calls [.change (.keys true ["id"])]).toOption.getD events

/-- Crate is told twice that a generated key is the primary key. -/
theorem crate_key_declared_twice :
    eventType.Configured "events" none [.change (.keys true ["id"])] generatedEvents ∧
      (∀ c ∈ generatedEvents.keyColumns, c.isTransient = false) ∧
      generatedEvents.createStatements (.crate "") false =
        .ok ["create table \"events\" (\"id\" long not null primary key PRIMARY KEY, \"at\" timestamp, " ++
          "\"version\" long);"] ∧
      (Dialect.crate "").keyDeclarations (generatedEvents.listed (.crate "")) = [.column "id", .column "id"] :=
  ⟨rfl, by decide, by decide +kernel, by decide +kernel⟩

end RowMapper
