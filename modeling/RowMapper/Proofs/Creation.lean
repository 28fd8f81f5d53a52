import Mathlib.Data.List.Induction
import RowMapper.Proofs.Startup
import RowMapper.Proofs.Table.PrimaryKey
import RowMapper.Schema

/-!
# Creating the tables of a mapper

What creating all tables does on a database that refuses to create what it has already. A table comes with the schema
that it is placed in, which is created in front of it. So each schema is created once for every table in it, and where
two tables share one, the second of them is not created.
-/

namespace RowMapper

/-- What a statement creates. A table is placed in a schema, if it needs one. -/
inductive Created where
  | schema (name : String)
  | table (place : Option String) (name : String)
deriving DecidableEq

def Created.within? : Created → Option String
  | schema _ => none
  | table place _ => place

structure Creation where
  created : Created
  sql : String

namespace Table

variable {t : Table} {d : Dialect}

/-- The schema of a table and then the table, where definitions end in a suffix. -/
def creations (t : Table) (d : Dialect) (suffix : String) : List Creation :=
  (t.neededSchema? d).toList.map (fun s => ⟨.schema s, createSchemaStatement d false s⟩) ++
    [⟨.table (t.neededSchema? d) (t.quotedName d), t.definition d false ++ suffix ++ d.terminator⟩]

theorem createStatements_creations {suffix : String} (suffixed : d.createTableSuffix = .ok suffix) :
    t.createStatements d false = .ok ((t.creations d suffix).map Creation.sql) := by
  rw [createStatements_eq suffixed, creations, List.map_append, List.map_map]
  rfl

def created (t : Table) (d : Dialect) : List Created :=
  (t.neededSchema? d).toList.map .schema ++ [.table (t.neededSchema? d) (t.quotedName d)]

theorem creations_created {suffix : String} : (t.creations d suffix).map Creation.created = t.created d := by
  rw [creations, List.map_append, List.map_map]
  rfl

theorem schema_mem_created {name : String} : .schema name ∈ t.created d ↔ t.neededSchema? d = some name := by
  simp [created]

theorem table_mem_created {place : Option String} {name : String} :
    .table place name ∈ t.created d ↔ place = t.neededSchema? d ∧ name = t.quotedName d := by
  simp [created]

end Table

/-- A backend that refuses to create what is there. What a statement creates is told by its text. Nothing else that a
statement creates is refused, unless it is placed in a schema that is not there. -/
structure Backend.RefusesExisting (B : Backend) (created? : String → Option Created)
    (has : B.State → Created → Prop) : Prop where
  accepted : ∀ sql x s, created? sql = some x → ¬ has s x → (∀ name, x.within? = some name → has s (.schema name)) →
    (∃ result, (B.execute none sql [] s).1 = .ok result) ∧
      ∀ y, has (B.execute none sql [] s).2 y ↔ has s y ∨ y = x
  refused : ∀ sql x s, created? sql = some x → has s x →
    (∃ e, (B.execute none sql [] s).1 = .error e) ∧ ∀ y, has (B.execute none sql [] s).2 y ↔ has s y

/-- Whether all of a list can be created in order, next to what is there. -/
def Creatable (there : Created → Prop) : List Created → Prop
  | [] => True
  | x :: rest =>
    ¬ there x ∧ (∀ name, x.within? = some name → there (.schema name)) ∧ Creatable (fun y => there y ∨ y = x) rest

theorem creatable_append {there : Created → Prop} {first second : List Created} :
    Creatable there (first ++ second) ↔
      Creatable there first ∧ Creatable (fun y => there y ∨ y ∈ first) second := by
  induction first generalizing there with
  | nil => simp [Creatable]
  | cons x rest ih =>
    simp only [List.cons_append, Creatable, ih, List.mem_cons, or_assoc, and_assoc]

theorem creatable_table {t : Table} {d : Dialect} {there : Created → Prop}
    (newName : ∀ place, ¬ there (.table place (t.quotedName d)))
    (newSchema : ∀ name, t.neededSchema? d = some name → ¬ there (.schema name)) : Creatable there (t.created d) := by
  unfold Table.created
  cases needed : t.neededSchema? d with
  | none => exact ⟨newName none, nofun, trivial⟩
  | some name =>
    have newTable : ¬ (there (.table (some name) (t.quotedName d)) ∨
        Created.table (some name) (t.quotedName d) = .schema name) := by
      rintro (old | same)
      · exact newName _ old
      · cases same
    refine ⟨newSchema name needed, nofun, newTable, fun place within => .inr ?_, trivial⟩
    exact congrArg Created.schema (Option.some.inj within).symm

/-- Tables can be created next to others if neither they nor the schemas they need are there, and none is twice. -/
theorem creatable_tables {d : Dialect} {tables : List Table} {there : Created → Prop}
    (names : (tables.map (·.quotedName d)).Nodup) (schemas : (tables.filterMap (·.neededSchema? d)).Nodup)
    (newNames : ∀ t ∈ tables, ∀ place, ¬ there (.table place (t.quotedName d)))
    (newSchemas : ∀ t ∈ tables, ∀ name, t.neededSchema? d = some name → ¬ there (.schema name)) :
    Creatable there (tables.flatMap (·.created d)) := by
  induction tables generalizing there with
  | nil => trivial
  | cons t rest ih =>
    obtain ⟨otherNames, names⟩ := List.nodup_cons.mp names
    have schemaOnce (u : Table) (later : u ∈ rest) (name : String) (needs : u.neededSchema? d = some name) :
        t.neededSchema? d ≠ some name := by
      intro same
      have listed : (t :: rest).filterMap (·.neededSchema? d) = name :: rest.filterMap (·.neededSchema? d) :=
        List.filterMap_cons_some same
      rw [listed, List.nodup_cons] at schemas
      exact schemas.1 (List.mem_filterMap.mpr ⟨u, later, needs⟩)
    rw [List.flatMap_cons, creatable_append]
    refine ⟨creatable_table (newNames t List.mem_cons_self) (newSchemas t List.mem_cons_self), ih names ?_ ?_ ?_⟩
    · exact ((List.sublist_cons_self t rest).filterMap _).nodup schemas
    · rintro u later place (old | same)
      · exact newNames u (List.mem_cons_of_mem t later) place old
      · have sameName : u.quotedName d = t.quotedName d := (Table.table_mem_created.mp same).2
        exact otherNames (List.mem_map.mpr ⟨u, later, sameName⟩)
    · rintro u later name needs (old | same)
      · exact newSchemas u (List.mem_cons_of_mem t later) name needs old
      · exact schemaOnce u later name needs (Table.schema_mem_created.mp same)

namespace Mapper

variable {B : Backend} {α : Type} {m mid left : Mapper B} {created? : String → Option Created}
  {has : B.State → Created → Prop} {d : Dialect} {suffix : String}

theorem ensureInit_setUp (ready : m.IsSetUp) :
    m.ensureInit.1 = .ok () ∧ m.ensureInit.2.connection = m.connection ∧ m.ensureInit.2.initialized = true := by
  unfold ensureInit
  split
  · exact ⟨rfl, rfl, by assumption⟩
  · rename_i unready
    rw [ready.resolve_left unready]
    exact ⟨rfl, rfl, rfl⟩

theorem run_statement (sql : String) :
    Attempt.run sql =
      (Script.exec sql [] fun answer => .done (answer.map fun _ => ()) : Script (Except Error Unit)) := by
  refine congrArg (Script.exec sql []) (funext fun answer => ?_)
  cases answer <;> rfl

theorem plays_statement (ready : m.IsSetUp) (sql : String) :
    ∃ left, m.Plays .mapper (Attempt.run sql) [.exec sql [] (B.execute none sql [] m.connection).1]
        (.ok ((B.execute none sql [] m.connection).1.map fun _ => ())) left ∧
      left.connection = (B.execute none sql [] m.connection).2 ∧ left.IsSetUp := by
  obtain ⟨started, sameConnection, initialized⟩ := ensureInit_setUp ready
  have sent : (m.send .mapper sql [] B.execute).1 = (B.execute none sql [] m.connection).1 ∧
      (m.send .mapper sql [] B.execute).2.connection = (B.execute none sql [] m.connection).2 ∧
      (m.send .mapper sql [] B.execute).2.initialized = true := by
    rw [send_eq_afterInit, afterInit]
    generalize m.ensureInit = init at started sameConnection initialized
    obtain ⟨answer, mid⟩ := init
    cases started
    have traced := mid.traced_eq sql []
    simp only [traced.2.2.1, traced.2.2.2]
    exact ⟨by rw [← sameConnection], by rw [← sameConnection], initialized⟩
  refine ⟨(m.send .mapper sql [] B.execute).2, ⟨?_, ?_⟩, sent.2.1, .inl sent.2.2⟩
  · rw [run_statement, dialogue_exec, sent.1]
    rfl
  · rw [run_statement, run_exec, sent.1]
    rfl

theorem Plays.next {s : Attempt Unit} {f : Unit → Attempt α} {early late : List Exchange}
    {outcome : Except Fault (Except Error α)} (first : m.Plays .mapper s early (.ok (.ok ())) mid)
    (second : mid.Plays .mapper (f ()) late outcome left) :
    m.Plays .mapper (s >>= f : Attempt α) (early ++ late) outcome left :=
  Plays.bind first second

theorem Plays.failed {s : Attempt Unit} {f : Unit → Attempt α} {log : List Exchange} {e : Error}
    (first : m.Plays .mapper s log (.ok (.error e)) left) :
    m.Plays .mapper (s >>= f : Attempt α) log (.ok (.error e)) left := by
  have ended : left.Plays .mapper (.done (.error e) : Script (Except Error α)) [] (.ok (.error e)) left :=
    plays_done.mpr ⟨rfl, rfl, rfl⟩
  rw [← List.append_nil log]
  exact Plays.bind (f := ExceptT.bindCont f) first ended

/-- Statements that create what can be created are all sent, and then it is there. -/
theorem plays_creations (laws : B.RefusesExisting created? has) {l : List Creation} (ready : m.IsSetUp)
    (told : ∀ c ∈ l, created? c.sql = some c.created)
    (creatable : Creatable (has m.connection) (l.map Creation.created)) :
    ∃ log left, m.Plays .mapper ((l.map Creation.sql).forM Attempt.run : Attempt Unit) log (.ok (.ok ())) left ∧
      log.map Exchange.sql = l.map Creation.sql ∧ left.IsSetUp ∧
      ∀ y, has left.connection y ↔ has m.connection y ∨ y ∈ l.map Creation.created := by
  induction l generalizing m with
  | nil => exact ⟨[], m, plays_done.mpr ⟨rfl, rfl, rfl⟩, rfl, ready, by simp⟩
  | cons c rest ih =>
    obtain ⟨fresh, placed, later⟩ := creatable
    obtain ⟨⟨result, accepted⟩, added⟩ :=
      laws.accepted c.sql c.created m.connection (told c List.mem_cons_self) fresh placed
    obtain ⟨mid, played, sameConnection, stillReady⟩ := plays_statement ready c.sql
    rw [accepted] at played
    have there : (fun y => has m.connection y ∨ y = c.created) = has mid.connection := by
      funext y
      rw [sameConnection, ← added y]
    obtain ⟨log, left, others, sent, readyAfter, after⟩ :=
      ih stillReady (fun c member => told c (List.mem_cons_of_mem _ member)) (there ▸ later)
    refine ⟨_, left, Plays.next played others, congrArg (c.sql :: ·) sent, readyAfter, fun y => ?_⟩
    rw [after, sameConnection, added, List.map_cons, List.mem_cons, or_assoc]

/-- A statement that creates what is there is refused, and nothing is sent after it. -/
theorem plays_refused (laws : B.RefusesExisting created? has) {x : Created} {sql : String} (later : List String)
    (ready : m.IsSetUp) (told : created? sql = some x) (there : has m.connection x) :
    ∃ e left, m.Plays .mapper ((sql :: later).forM Attempt.run : Attempt Unit) [.exec sql [] (.error e)]
        (.ok (.error e)) left ∧ ∀ y, has left.connection y ↔ has m.connection y := by
  obtain ⟨⟨e, refused⟩, kept⟩ := laws.refused sql x m.connection told there
  obtain ⟨left, played, sameConnection, _⟩ := plays_statement ready sql
  rw [refused] at played
  exact ⟨e, left, played.failed, fun y => by rw [sameConnection, kept]⟩

theorem createTables_eq {ctx : Context} {suffix : String} (suffixed : ctx.dialect.createTableSuffix = .ok suffix) :
    ctx.createTables false =
      ((ctx.tables.flatMap (·.creations ctx.dialect suffix)).map Creation.sql).forM Attempt.run := by
  unfold Context.createTables
  induction ctx.tables with
  | nil => rfl
  | cons t rest ih =>
    simp only [List.forM_eq_forM] at ih ⊢
    rw [List.forM_cons, ih, t.createStatements_creations suffixed, List.flatMap_cons, List.map_append,
      List.forM_append]

end Mapper

/-- A list with a repeated image begins with one whose image comes again next. -/
theorem exists_first_repeated {α β : Type} {f : α → Option β} {l : List α} (repeated : ¬ (l.filterMap f).Nodup) :
    ∃ early a later b, l = early ++ a :: later ∧ (early.filterMap f).Nodup ∧ f a = some b ∧ b ∈ early.filterMap f := by
  induction l using List.reverseRecOn with
  | nil => exact absurd List.nodup_nil repeated
  | append_singleton l a ih =>
    by_cases once : (l.filterMap f).Nodup
    · cases image : f a with
      | none =>
        rw [List.filterMap_append, List.filterMap_cons_none image, List.filterMap_nil, List.append_nil] at repeated
        exact absurd once repeated
      | some b =>
        refine ⟨l, a, [], b, rfl, once, image, ?_⟩
        by_contra absent
        rw [List.filterMap_append, List.filterMap_cons_some image, List.filterMap_nil] at repeated
        exact repeated (once.append (List.nodup_singleton b) (List.disjoint_singleton.mpr absent))
    · obtain ⟨early, a', later, b, rfl, distinct, image, among⟩ := ih once
      exact ⟨early, a', later ++ [a], b, by simp, distinct, image, among⟩

theorem Table.created_creations {d : Dialect} (suffix : String) (tables : List Table) :
    (tables.flatMap (·.creations d suffix)).map Creation.created = tables.flatMap (·.created d) := by
  simp only [List.map_flatMap, creations_created]

theorem Table.creations_of_needed {t : Table} {d : Dialect} {name : String} (suffix : String)
    (needed : t.neededSchema? d = some name) :
    ∃ rest, t.creations d suffix = ⟨.schema name, createSchemaStatement d false name⟩ :: rest := by
  unfold creations
  rw [needed]
  exact ⟨_, rfl⟩

theorem Dialect.initStatement?_of_schemas {d : Dialect} (supported : d.supportsSchemas = true) :
    d.initStatement? = none := by
  cases d with
  | sqlite => cases supported
  | postgres | snowflake | mysql | oracle | crate => rfl

namespace Mapper

section

variable {B : Backend} {m : Mapper B} {created? : String → Option Created} {has : B.State → Created → Prop}
  {suffix : String} (laws : B.RefusesExisting created? has)
  (told : ∀ t ∈ m.registry.tables, ∀ c ∈ t.creations m.dialect suffix, created? c.sql = some c.created)
  (empty : ∀ x, ¬ has m.connection x) (names : (m.registry.tables.map (·.quotedName m.dialect)).Nodup)

include laws told empty names

/-- Of the tables, those in front that share no schema are created. -/
theorem plays_tables {early : List Table} (ready : m.IsSetUp) (isPart : early.Sublist m.registry.tables)
    (distinct : (early.filterMap (·.neededSchema? m.dialect)).Nodup) :
    ∃ log left, m.Plays .mapper
        (((early.flatMap (·.creations m.dialect suffix)).map Creation.sql).forM Attempt.run : Attempt Unit) log
        (.ok (.ok ())) left ∧
      log.map Exchange.sql = (early.flatMap (·.creations m.dialect suffix)).map Creation.sql ∧ left.IsSetUp ∧
      ∀ x, has left.connection x ↔ x ∈ early.flatMap (·.created m.dialect) := by
  have toldEarly : ∀ c ∈ early.flatMap (·.creations m.dialect suffix), created? c.sql = some c.created := by
    intro c member
    obtain ⟨t, among, member⟩ := List.mem_flatMap.mp member
    exact told t (isPart.mem among) c member
  have creatable : Creatable (has m.connection) (early.flatMap (·.created m.dialect)) :=
    creatable_tables ((isPart.map _).nodup names) distinct (fun _ _ _ => empty _) fun _ _ _ _ => empty _
  rw [← Table.created_creations suffix early] at creatable
  obtain ⟨log, left, played, sent, stillReady, after⟩ := plays_creations laws ready toldEarly creatable
  refine ⟨log, left, played, sent, stillReady, fun x => ?_⟩
  rw [after, Table.created_creations]
  exact or_iff_right (empty x)

/-- On a database that has nothing yet and refuses only what it has, creating the tables of a mapper succeeds if no two
of them need one schema, and then each schema is created once, in front of its table. Otherwise it ends at the first
table that needs the schema of an earlier one: that schema is created again, which is refused. -/
theorem tables_created (supported : m.dialect.supportsSchemas = true)
    (suffixed : m.dialect.createTableSuffix = .ok suffix) :
    let statements (tables : List Table) := (tables.flatMap (·.creations m.dialect suffix)).map Creation.sql
    let schemas (tables : List Table) := tables.filterMap (·.neededSchema? m.dialect)
    let created (tables : List Table) := tables.flatMap (·.created m.dialect)
    ((schemas m.registry.tables).Nodup → ∃ log left,
      m.Plays .mapper (m.context.createTables false) log (.ok (.ok ())) left ∧
      log.map Exchange.sql = statements m.registry.tables ∧
      ∀ x, has left.connection x ↔ x ∈ created m.registry.tables) ∧
    (¬ (schemas m.registry.tables).Nodup → ∃ early t later name log e left,
      m.registry.tables = early ++ t :: later ∧ (schemas early).Nodup ∧ t.neededSchema? m.dialect = some name ∧
      name ∈ schemas early ∧ m.Plays .mapper (m.context.createTables false) log (.ok (.error e)) left ∧
      log.map Exchange.sql = statements early ++ [Table.createSchemaStatement m.dialect false name] ∧
      ∀ x, has left.connection x ↔ x ∈ created early) := by
  intro statements schemas created
  have ready : m.IsSetUp := .inr (Dialect.initStatement?_of_schemas supported)
  have sends : m.context.createTables false = (statements m.registry.tables).forM Attempt.run :=
    createTables_eq suffixed
  constructor
  · intro distinct
    obtain ⟨log, left, played, sent, _, after⟩ :=
      plays_tables laws told empty names ready (List.Sublist.refl _) distinct
    exact ⟨log, left, sends ▸ played, sent, after⟩
  · intro repeated
    -- The tables in front of the first one that shares a schema are all created, so its schema is there by then.
    obtain ⟨early, t, later, name, split, distinct, needed, among⟩ := exists_first_repeated repeated
    have isPart : early.Sublist m.registry.tables := split ▸ List.sublist_append_left _ _
    obtain ⟨log, mid, played, sent, stillReady, after⟩ := plays_tables laws told empty names ready isPart distinct
    obtain ⟨rest, first⟩ := Table.creations_of_needed suffix needed
    have texts : statements m.registry.tables = statements early ++
        Table.createSchemaStatement m.dialect false name :: (rest.map Creation.sql ++ statements later) := by
      simp [statements, split, first]
    have isTold : created? (Table.createSchemaStatement m.dialect false name) = some (.schema name) :=
      told t (split ▸ by simp) _ (first ▸ List.mem_cons_self)
    have there : has mid.connection (.schema name) := by
      obtain ⟨u, earlier, needs⟩ := List.mem_filterMap.mp among
      exact (after _).mpr (List.mem_flatMap.mpr ⟨u, earlier, Table.schema_mem_created.mpr needs⟩)
    obtain ⟨e, left, refused, kept⟩ :=
      plays_refused laws (rest.map Creation.sql ++ statements later) stillReady isTold there
    have ended : m.Plays .mapper (m.context.createTables false)
        (log ++ [.exec (Table.createSchemaStatement m.dialect false name) [] (.error e)]) (.ok (.error e)) left := by
      rw [sends, texts]
      simp only [List.forM_eq_forM] at played refused ⊢
      rw [List.forM_append]
      exact played.next refused
    refine ⟨early, t, later, name, _, e, left, split, distinct, needed, among, ended, ?_, fun x => ?_⟩
    · rw [List.map_append, sent]
      rfl
    · rw [kept, after]

end

end Mapper

/-- What a statement creates, by the words that it begins with. -/
def createdBy? (sql : String) : Option Created :=
  let after (start : String) : List Char := sql.toList.drop start.length
  if "create schema ".toList.isPrefixOf sql.toList then
    some (.schema (String.ofList ((after "create schema ").takeWhile (· ≠ ';'))))
  else if "create table ".toList.isPrefixOf sql.toList then
    let name := (after "create table ").takeWhile (· ≠ ' ')
    let place := name.takeWhile (· ≠ '.')
    some (.table (if place.length < name.length then some (String.ofList place) else none) (String.ofList name))
  else none

def catalog : Backend where
  State := List Created
  Handle := Unit
  execute _ sql _ s :=
    match createdBy? sql with
    | some x => if x ∈ s then (.error (.driver "already exists"), s) else (.ok {}, s ++ [x])
    | none => (.ok {}, s)
  query _ _ _ s := (.ok [], s)
  start s := (.ok (), s)
  commit _ s := (.ok (), s)
  rollback _ s := (.ok (), s)

theorem catalog_refusesExisting : catalog.RefusesExisting createdBy? fun (s : List Created) x => x ∈ s := by
  refine ⟨fun sql x (s : List Created) told fresh _ => ?_, fun sql x (s : List Created) told there => ?_⟩
  · have answer : catalog.execute none sql [] s = (.ok {}, (s ++ [x] : List Created)) := by
      simp only [catalog, told, if_neg fresh]
    rw [answer]
    exact ⟨⟨_, rfl⟩, fun y => by simp⟩
  · have answer : catalog.execute none sql [] s = (.error (.driver "already exists"), s) := by
      simp only [catalog, told, if_pos there]
    rw [answer]
    exact ⟨⟨_, rfl⟩, fun y => .rfl⟩

def placedTables (first second : String) : Mapper catalog where
  dialect := .postgres "" false
  registry := (({} : Registry).register "Event" eventType.fields (some first) "events").register "Shipment"
    shipmentType.fields (some second) "shipments"
  connection := []

theorem placed_apart_created :
    ∃ log left, (placedTables "crm" "depot").Plays .mapper ((placedTables "crm" "depot").context.createTables false)
        log (.ok (.ok ())) left ∧
      log.map Exchange.sql =
        ["create schema crm;", "create table crm.\"events\" (\"id\" bigint, \"at\" timestamp with time zone, " ++
            "\"version\" bigint);",
          "create schema depot;", "create table depot.\"shipments\" (\"id\" text, \"size\" bigint, " ++
            "\"number\" bigint, \"note\" text, \"version\" bigint);"] := by
  have told : ∀ t ∈ (placedTables "crm" "depot").registry.tables,
      ∀ c ∈ t.creations (.postgres "" false) "", createdBy? c.sql = some c.created := by
    decide +kernel
  have names : ((placedTables "crm" "depot").registry.tables.map (·.quotedName (.postgres "" false))).Nodup := by
    decide +kernel
  have distinct : ((placedTables "crm" "depot").registry.tables.filterMap
      (·.neededSchema? (.postgres "" false))).Nodup := by
    decide +kernel
  obtain ⟨log, left, played, sent, _⟩ :=
    (Mapper.tables_created catalog_refusesExisting told (fun _ => List.not_mem_nil) names rfl rfl).1 distinct
  refine ⟨log, left, played, sent.trans ?_⟩
  decide +kernel

/-- Two tables in one schema are not created, though there is nothing yet. -/
theorem placed_together_refused :
    let m := placedTables "crm" " crm "
    (m.registry.tables.map (·.quotedName m.dialect)).Nodup ∧
      (m.run .mapper (m.context.createTables false)).1 = .ok (.error (.driver "already exists")) ∧
      (m.dialogue .mapper (m.context.createTables false)).map Exchange.sql =
        ["create schema crm;", "create table crm.\"events\" (\"id\" bigint, \"at\" timestamp with time zone, " ++
            "\"version\" bigint);",
          "create schema crm;"] := by
  refine ⟨by decide +kernel, ?_, ?_⟩
  · rfl
  · rfl

end RowMapper
