import RowMapper.Proofs.Crud.Preparation
import RowMapper.Proofs.Sql.Layout
import RowMapper.Proofs.Sql.Names

/-!
# The columns that statements name

Statements name the columns that they store, load or define, and these are stored columns. What else they name is what
they refer to: the keys and the version that pick a row, a key of several columns, and the members of groups and
indexes. No reference asks whether a column is transient.
-/

namespace RowMapper

open Sql

namespace Dialect

variable {d : Dialect}

theorem plain_integerText (n : Nat) : Plain d.quoteChar d.marker (Number.integerText n) := by
  refine plain_of_common (isCommon_iff.mpr fun c member special => ?_)
  have digit : c.isDigit = true := Nat.isDigit_of_mem_toDigits (by decide) (by decide) (integerText_toList n ▸ member)
  have others : ['"', '\x60', '$', ':', '?'].all (fun c => !c.isDigit) = true := by decide
  have notDigit := List.all_eq_true.mp others c special
  rw [digit] at notDigit
  cases notDigit

theorem plain_sizedText {sized unbounded : String} (n : Nat) (first : Plain d.quoteChar d.marker sized)
    (second : Plain d.quoteChar d.marker unbounded) : Plain d.quoteChar d.marker (sizedText sized unbounded n) := by
  unfold sizedText
  split
  · exact plain_append (plain_append (plain_append first (plain_of_common (by decide))) (plain_integerText n))
      (plain_of_common (by decide))
  · exact second

theorem plain_columnType (type : SemanticType) (n : Nat) (auto : Bool) :
    Plain d.quoteChar d.marker (d.columnType type n auto) := by
  unfold columnType postgresType
  repeat' split
  all_goals first
    | exact plain_of_common (by decide)
    | exact plain_sizedText n (plain_of_common (by decide)) (plain_of_common (by decide))

theorem plain_autoIncrementClause : Plain d.quoteChar d.marker d.autoIncrementClause := by
  cases d <;> simp only [autoIncrementClause] <;> exact plain_of_common (by decide)

theorem plain_guardCreate {command : String} (plain : Plain d.quoteChar d.marker command) :
    Plain d.quoteChar d.marker (d.guardCreate command) := by
  cases d <;> exact plain_append plain (plain_of_common (by decide))

theorem plain_guarded (command : String) (guarded : Bool) (plain : Plain d.quoteChar d.marker command) :
    Plain d.quoteChar d.marker (if guarded then d.guardCreate command else command) := by
  cases guarded
  · exact plain
  · exact plain_guardCreate plain

variable {names : List String} {text : String}

theorem Quotes.terminated (quotes : d.Quotes names text) : d.Quotes names (text ++ d.terminator) :=
  quotes.ending plain_terminator terminator_ends

/-- A clause that may be missing. -/
theorem Quotes.clause {s : String} {b : Prop} [Decidable b] (quotes : d.Quotes names text)
    (plain : Plain d.quoteChar d.marker s) (separates : Separates s) :
    d.Quotes names (text ++ if b then s else "") := by
  split
  · exact quotes.ending plain (.inr separates)
  · exact quotes.ending nofun (.inl rfl)

end Dialect

namespace Table

open Dialect (plain_of_common plain_append)

variable {t : Table} {d : Dialect}

/-- Whether what stands unquoted in the statements of a table has neither quotes nor markers. -/
structure PlainIn (t : Table) (d : Dialect) : Prop where
  schema : ∀ s, t.schema = some s → Plain d.quoteChar d.marker s
  suffix : ∀ s, d.createTableSuffix = .ok s → Plain d.quoteChar d.marker s
  indexes : ∀ i ∈ t.indexes, Plain d.quoteChar d.marker i.name ∧ Plain d.quoteChar d.marker i.method

def pickedNames (t : Table) (withVersion : Bool) : List String := (t.keyTerms withVersion).map (·.1.name)

/-- The names that a definition refers to: a key of several columns, and the groups that are unique together. -/
def constraintNames (t : Table) : List String :=
  (if 1 < t.keys.length then t.keyColumns.map Column.name else []) ++ t.uniqueTogether.flatten

theorem quotes_columnDefinition (c : Column) : d.Quotes [d.fold c.name] (t.columnDefinition d c) := by
  have typed := (Dialect.quotes_name (d := d) c.name).andThen (s := " ") (by decide)
    (Dialect.quotes_plain (Dialect.plain_columnType c.type c.maxSize c.autoIncrement))
  rw [List.append_nil] at typed
  have word {text s : String} {b : Prop} [Decidable b] (quotes : d.Quotes [d.fold c.name] text)
      (separator : isSeparator s = true) : d.Quotes [d.fold c.name] (text ++ if b then s else "") :=
    quotes.clause (plain_of_common (isCommon_of_separator separator)) (separates_of_separator separator)
  have generated : Plain d.quoteChar d.marker (" " ++ d.autoIncrementClause) :=
    plain_append (plain_of_common (by decide)) Dialect.plain_autoIncrementClause
  have required := word (s := " not null") (b := (c.primaryKey || c.notNull) = true) typed (by decide)
  have keyed := word (s := " primary key") (b := (c.primaryKey && t.keys.length == 1) = true) required (by decide)
  have unique := word (s := " unique") (b := c.unique = true) keyed (by decide)
  exact unique.clause generated (.append ⟨' ', [], rfl, rfl⟩)

def namedParts (t : Table) (d : Dialect) : List (List String × String) :=
  t.storedColumns.map (fun c => ([d.fold c.name], t.columnDefinition d c)) ++
  (if 1 < t.keys.length then
    [((t.keyColumns.map Column.name).map d.fold, "primary key " ++ nameGroup d (t.keyColumns.map Column.name))]
  else []) ++
  t.uniqueTogether.map fun group => (group.map d.fold, "unique " ++ nameGroup d group)

theorem namedParts_snd : (t.namedParts d).map (·.2) = t.definitionParts d := by
  unfold namedParts definitionParts
  split <;> simp [Function.comp_def]

theorem namedParts_fst :
    (t.namedParts d).flatMap (·.1) = t.storedColumns.map (fun c => d.fold c.name) ++ t.constraintNames.map d.fold := by
  have columns : t.storedColumns.map (fun c => d.fold c.name) = t.storedColumns.flatMap fun c => [d.fold c.name] :=
    List.map_eq_flatMap
  unfold namedParts constraintNames
  split <;> simp [columns, List.flatMap_def, Function.comp_def]

theorem quotes_definitionParts :
    d.Quotes (t.storedColumns.map (fun c => d.fold c.name) ++ t.constraintNames.map d.fold)
      (", ".intercalate (t.definitionParts d)) := by
  rw [← namedParts_fst, ← namedParts_snd]
  refine Dialect.quotes_intercalate (by decide) fun part member => ?_
  have grouped {s : String} (common : isCommon s = true) (names : List String) :
      d.Quotes (names.map d.fold) (s ++ nameGroup d names) :=
    (Dialect.quotes_nameGroup names).after (plain_of_common common)
  rcases List.mem_append.mp member with member | inGroup
  · rcases List.mem_append.mp member with isColumn | isKey
    · obtain ⟨c, _, rfl⟩ := List.mem_map.mp isColumn
      exact quotes_columnDefinition c
    · split at isKey
      · cases List.mem_singleton.mp isKey
        exact grouped (by decide) _
      · cases isKey
  · obtain ⟨group, _, rfl⟩ := List.mem_map.mp inGroup
    exact grouped (by decide) group

/-- Text that names its table and stored columns, and all of the names that it refers to. -/
structure Names (t : Table) (d : Dialect) (references : List String) (sql : String) : Prop where
  only : ∀ n ∈ d.quoted sql, n = d.fold t.name ∨ (∃ c ∈ t.storedColumns, d.fold c.name = n) ∨ n ∈ references.map d.fold
  all : ∀ n ∈ references.map d.fold, n ∈ d.quoted sql

theorem Names.of_quotes {references names : List String} {sql : String} (listed : List Column)
    (quotes : d.Quotes names sql) (stored : ∀ c ∈ listed, c ∈ t.storedColumns)
    (split : names.Perm (d.fold t.name :: (listed.map (fun c => d.fold c.name) ++ references.map d.fold))) :
    t.Names d references sql := by
  refine ⟨fun n member => ?_, fun n member => ?_⟩
  · rw [quotes.quoted, split.mem_iff, List.mem_cons, List.mem_append] at member
    refine member.imp_right (Or.imp_left fun isListed => ?_)
    obtain ⟨c, among, rfl⟩ := List.mem_map.mp isListed
    exact ⟨c, stored c among, rfl⟩
  · rw [quotes.quoted, split.mem_iff]
    exact List.mem_cons_of_mem _ (List.mem_append_right _ member)

/-- What picks a row ends a statement. -/
theorem quotes_picking {names : List String} {text : String} (quotes : d.Quotes names text) (n : Nat)
    (withVersion : Bool) :
    d.Quotes (names ++ (t.pickedNames withVersion).map d.fold)
      (text ++ " where " ++ " and ".intercalate (d.equations n (t.keyTerms withVersion)) ++ d.terminator) := by
  have picked := Dialect.quotes_equations (d := d) (s := " and ") (by decide)
    n (t.keyTerms withVersion)
  have folded : (t.pickedNames withVersion).map d.fold = (t.keyTerms withVersion).map fun term => d.fold term.1.name :=
    List.map_map
  rw [folded]
  exact (quotes.andThen (by decide) picked).terminated

theorem mem_storedColumns_of_insertTerms {term : Column × Option Source} (member : term ∈ t.insertTerms d) :
    term.1 ∈ t.storedColumns := by
  have listed := List.mem_map_of_mem (f := (·.1)) member
  rw [Write.insertTerms_columns] at listed
  exact (List.mem_filter.mp listed).1

/-- An insertion ends in the name of a generated column, if it asks for that at all. -/
theorem quotes_insertEnding {names : List String} {text : String} (quotes : d.Quotes names text) :
    ∃ returned : List Column, (∀ c ∈ returned, c ∈ t.storedColumns) ∧
      d.Quotes (names ++ returned.map fun c => d.fold c.name)
        (text ++ (Plan.insert t d).generated.elim "" fun c => d.insertSuffix c.name) := by
  have silent {s : String} (empty : s = "") :
      d.Quotes (names ++ ([] : List Column).map fun c => d.fold c.name) (text ++ s) := by
    rw [List.map_nil, List.append_nil, empty, String.append_empty]
    exact quotes
  cases generated : (Plan.insert t d).generated with
  | none => exact ⟨[], List.forall_mem_nil _, silent rfl⟩
  | some c =>
    have found : t.columns.find? (fun c => !c.isTransient && c.autoIncrement) = some c := generated
    have shown := List.find?_some found
    rw [Bool.and_eq_true] at shown
    cases d with
    | postgres =>
      refine ⟨[c], fun k only => ?_, ?_⟩
      · cases List.mem_singleton.mp only
        exact List.mem_filter.mpr ⟨List.mem_of_find?_eq_some found, shown.1⟩
      · have returning := quotes.andThen (s := " returning ") (by decide)
          (Dialect.quotes_name c.name)
        rwa [String.append_assoc] at returning
    | sqlite | snowflake | mysql | oracle | crate => exact ⟨[], List.forall_mem_nil _, silent rfl⟩

section

variable (plain : t.PlainIn d)

include plain

theorem quotes_quotedName : d.Quotes [d.fold t.name] (t.quotedName d) := Dialect.quotes_table plain.schema t.name

theorem names_insert : t.Names d [] (Plan.insert t d).sql := by
  have columns := Dialect.quotes_quotedList (d := d) ((t.insertTerms d).map (·.1))
  have start := (quotes_quotedName plain).after (s := "insert into ") (plain_of_common (by decide))
  have listed := (start.andThen (s := " (") (by decide) columns).andThen
    (s := ") values (") (by decide)
    (Dialect.quotes_insertedValues 0 (t.insertTerms d))
  obtain ⟨returned, stored, whole⟩ := quotes_insertEnding (t := t)
    (listed.ending (s := ")") (plain_of_common (by decide)) (.inr ⟨')', _, rfl, rfl⟩))
  refine .of_quotes ((t.insertTerms d).map (·.1) ++ returned) whole.terminated (fun c member => ?_) ?_
  · rcases List.mem_append.mp member with isTerm | isReturned
    · obtain ⟨term, among, rfl⟩ := List.mem_map.mp isTerm
      exact mem_storedColumns_of_insertTerms among
    · exact stored c isReturned
  · simp

theorem names_update {accepts : Column → Bool} (sets : t.updateTerms accepts ≠ []) :
    t.Names d (t.pickedNames true) (Plan.update t d accepts).sql := by
  have start := (quotes_quotedName plain).after (s := "update ") (plain_of_common (by decide))
  have set := start.andThen (s := " set ") (by decide)
    (Dialect.quotes_equations (s := ", ") (by decide) 0
      (t.updateTerms accepts))
  have whole := quotes_picking (t := t) set (t.updateTerms accepts).length true
  rw [← Plan.update_sql sets] at whole
  refine .of_quotes ((t.updateTerms accepts).map (·.1)) whole (fun c => updateTerms_sublist.mem) ?_
  simp [Function.comp_def]

theorem names_delete : t.Names d (t.pickedNames true) (Plan.delete t d).sql := by
  have start := (quotes_quotedName plain).after (s := "delete from ") (plain_of_common (by decide))
  exact .of_quotes [] (quotes_picking start 0 true) (List.forall_mem_nil _) (.refl _)

theorem names_get : t.Names d (t.pickedNames false) (Plan.get t d).sql := by
  have start := (Dialect.quotes_quotedList (d := d) t.storedColumns).after (s := "select ")
    (plain_of_common (by decide))
  have source := start.andThen (s := " from ") (by decide)
    (quotes_quotedName plain)
  refine .of_quotes t.storedColumns (quotes_picking source 0 false) (fun c => id) ?_
  rw [List.append_assoc]
  exact List.perm_middle

theorem names_createSchema {guarded : Bool} {name : String} (needed : t.neededSchema? d = some name) :
    t.Names d [] (createSchemaStatement d guarded name) := by
  have named : Dialect.schemaName? t.schema = some name := by
    unfold neededSchema? at needed
    split at needed
    · exact needed
    · cases needed
  have command := Dialect.plain_guarded (d := d) "create schema" guarded (plain_of_common (by decide))
  have silent : d.Quotes [] (createSchemaStatement d guarded name) :=
    (Dialect.quotes_plain (plain_append (plain_append command (plain_of_common (by decide)))
      (Dialect.schemaName?_plain plain.schema named))).terminated
  refine ⟨?_, List.forall_mem_nil _⟩
  rw [silent.quoted]
  exact List.forall_mem_nil _

theorem names_definition {guarded : Bool} {early : List String} {sql : String}
    (made : t.createStatements d guarded = .ok (early ++ [sql])) : t.Names d t.constraintNames sql := by
  obtain ⟨suffix, suffixed, made⟩ := except_bind_ok made
  have same := (List.append_inj' (Except.ok.inj made) rfl).2
  cases same
  have command := Dialect.plain_guarded (d := d) "create table" guarded (plain_of_common (by decide))
  have start := (quotes_quotedName plain).after (plain_append command (plain_of_common (s := " ") (by decide)))
  have listed := start.andThen (s := " (") (by decide)
    (quotes_definitionParts (t := t))
  have whole := (listed.andThen (s := ")") (by decide)
    (Dialect.quotes_plain (plain.suffix suffix suffixed))).terminated
  refine .of_quotes t.storedColumns whole (fun c => id) ?_
  rw [List.append_nil]
  exact .refl _

theorem plain_methodClause {i : Index} (declared : i ∈ t.indexes) :
    Plain d.quoteChar d.marker (methodClause d i) ∧ (methodClause d i = "" ∨ Separates (methodClause d i)) := by
  unfold methodClause
  split
  · exact ⟨nofun, .inl rfl⟩
  · have word : Plain d.quoteChar d.marker (" " ++ d.indexMethodWord ++ " ") := by
      cases d <;> simp only [Dialect.indexMethodWord] <;> exact plain_of_common (by decide)
    have separates : Separates (" " ++ d.indexMethodWord ++ " ") := Separates.append (.append ⟨' ', [], rfl, rfl⟩)
    exact ⟨plain_append word (plain.indexes i declared).2, .inr separates.append⟩

theorem names_createIndex {i : Index} (declared : i ∈ t.indexes) :
    t.Names d i.columns (t.createIndexStatement d i) := by
  have command : Plain d.quoteChar d.marker ("create" ++ (if i.unique then " unique" else "") ++ " index ") := by
    cases i.unique <;> exact plain_of_common (by decide)
  have start := (quotes_quotedName plain).after (plain_append (plain_append command
    (plain.indexes i declared).1) (plain_of_common (s := " on ") (by decide)))
  obtain ⟨plainMethod, ends⟩ := plain_methodClause plain declared
  -- The method stands before the columns or after them.
  have method {names : List String} {text : String} (quotes : d.Quotes names text) (b : Bool) :
      d.Quotes names (text ++ if b then "" else methodClause d i) ∧
        d.Quotes names (text ++ if b then methodClause d i else "") := by
    cases b
    · exact ⟨quotes.ending plainMethod ends, quotes.ending nofun (.inl rfl)⟩
    · exact ⟨quotes.ending nofun (.inl rfl), quotes.ending plainMethod ends⟩
  have grouped := (method start d.indexMethodLast).1.andThen (s := " ") (by decide) (Dialect.quotes_nameGroup i.columns)
  exact .of_quotes [] (method grouped d.indexMethodLast).2.terminated (List.forall_mem_nil _) (.refl _)

end

/-- The statements that are written for a table, each with the names that it refers to. -/
inductive Generates (t : Table) (d : Dialect) : List String → String → Prop where
  | insert : Generates t d [] (Plan.insert t d).sql
  | update (accepts : Column → Bool) (sets : t.updateTerms accepts ≠ []) :
    Generates t d (t.pickedNames true) (Plan.update t d accepts).sql
  | delete : Generates t d (t.pickedNames true) (Plan.delete t d).sql
  | get : Generates t d (t.pickedNames false) (Plan.get t d).sql
  | schema {guarded : Bool} {name : String} (needed : t.neededSchema? d = some name) :
    Generates t d [] (createSchemaStatement d guarded name)
  | definition {guarded : Bool} {early : List String} {sql : String}
    (made : t.createStatements d guarded = .ok (early ++ [sql])) : Generates t d t.constraintNames sql
  | index {i : Index} (declared : i ∈ t.indexes) : Generates t d i.columns (t.createIndexStatement d i)

variable {references : List String} {sql : String}

theorem Generates.names (generates : t.Generates d references sql) (plain : t.PlainIn d) :
    t.Names d references sql := by
  cases generates with
  | insert => exact names_insert plain
  | update accepts sets => exact names_update plain sets
  | delete => exact names_delete plain
  | get => exact names_get plain
  | schema needed => exact names_createSchema plain needed
  | definition made => exact names_definition plain made
  | index declared => exact names_createIndex plain declared

/-- However a table was configured, a statement names the column of a transient field only where it refers to it: if
keys, version, groups and indexes are about stored columns, none does. -/
theorem Generates.transient_named_iff {R : RecordType} (maps : R.Maps t) (plain : t.PlainIn d)
    (generates : t.Generates d references sql) {n : String}
    (transient : ∀ c ∈ t.columns, d.fold c.name = n → c.declaredTransient = true ∨ c.isTransient = true)
    (notTable : n ≠ d.fold t.name) :
    (n ∈ d.quoted sql ↔ n ∈ references.map d.fold) ∧
      ((∀ r ∈ references, ∃ c ∈ t.storedColumns, c.name = r) → n ∉ d.quoted sql) := by
  have named := generates.names plain
  have notStored : ¬ ∃ c ∈ t.storedColumns, d.fold c.name = n := by
    rintro ⟨c, isStored, same⟩
    obtain ⟨member, shown⟩ := List.mem_filter.mp isStored
    have hidden : c.isTransient = true := (transient c member same).elim (maps.sound.transient member) id
    rw [hidden] at shown
    cases shown
  have referred : n ∈ d.quoted sql ↔ n ∈ references.map d.fold :=
    ⟨fun member => ((named.only n member).resolve_left notTable).resolve_left notStored, named.all n⟩
  refine ⟨referred, fun allStored member => notStored ?_⟩
  obtain ⟨r, among, same⟩ := List.mem_map.mp (referred.mp member)
  obtain ⟨c, isStored, rfl⟩ := allStored r among
  exact ⟨c, isStored, same⟩

end Table

def veiledEvents : Table :=
  ((events.setColumn "version" [.transient true]).map ChangedTable.table).toOption.getD events

theorem eventType_maps_veiledEvents : eventType.Maps veiledEvents := by
  have change : events.change (.column "version" [.transient true]) =
      .ok { table := veiledEvents, column := veiledEvents.columns[2]? } := rfl
  exact eventType_maps.changed change

def veiledContext : Context := { eventContext with tables := [veiledEvents] }

/-- Where a deletion of such an event names the version is where it refers to it. -/
theorem veiled_version_named_iff :
    veiledEvents.Generates eventContext.dialect ["id", "version"]
        "delete from \"events\" where \"id\"=? and \"version\"=?;" ∧
      ("version" ∈ eventContext.dialect.quoted "delete from \"events\" where \"id\"=? and \"version\"=?;" ↔
        "version" ∈ ["id", "version"].map eventContext.dialect.fold) ∧
      "version" ∉ eventContext.dialect.quoted (Plan.insert veiledEvents eventContext.dialect).sql := by
  have text : (Plan.delete veiledEvents eventContext.dialect).sql =
      "delete from \"events\" where \"id\"=? and \"version\"=?;" := by decide +kernel
  have deletes : veiledEvents.Generates eventContext.dialect ["id", "version"]
      "delete from \"events\" where \"id\"=? and \"version\"=?;" := text ▸ Table.Generates.delete
  have plain : veiledEvents.PlainIn eventContext.dialect := by
    refine ⟨nofun, fun s suffixed => ?_, List.forall_mem_nil _⟩
    cases suffixed
    exact Dialect.plain_of_common (by decide)
  have hidden : ∀ c ∈ veiledEvents.columns, eventContext.dialect.fold c.name = "version" →
      c.declaredTransient = true ∨ c.isTransient = true := by decide
  have notTable : "version" ≠ eventContext.dialect.fold veiledEvents.name := by decide
  refine ⟨deletes, ?_, ?_⟩
  · exact (Table.Generates.transient_named_iff eventType_maps_veiledEvents plain deletes hidden notTable).1
  · exact (Table.Generates.transient_named_iff eventType_maps_veiledEvents plain .insert hidden notTable).2
      (List.forall_mem_nil _)

/-- A deletion of an event names the version, though its column is transient. -/
theorem deletion_names_transient_version :
    eventType.Maps veiledEvents ∧
      (∀ c ∈ veiledEvents.columns, c.name = "version" → c.isTransient = true) ∧
      Script.Runs veiledContext (eventType.delete veiledContext 0 (event 0 1))
        [.exec "delete from \"events\" where \"id\"=? and \"version\"=?;" [.bigInt 5, .bigInt 1]
          (.ok { rowsAffected := 1 })] (.ok (.ok 1, event 0 1)) ∧
      "version" ∈ veiledContext.dialect.quoted "delete from \"events\" where \"id\"=? and \"version\"=?;" := by
  refine ⟨eventType_maps_veiledEvents, by decide, ?_, by decide +kernel⟩
  exact ⟨.ok { rowsAffected := 1 }, [], rfl, rfl, rfl⟩

end RowMapper
