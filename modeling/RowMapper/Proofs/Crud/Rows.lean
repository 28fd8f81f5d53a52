import RowMapper.Proofs.Crud.Stored

/-!
# Databases of rows

A database that keeps the rows of one table in a list. It numbers new rows, refuses a row whose keys are taken, and
selects rows by their keys.
-/

namespace RowMapper

namespace Value

/-- Equal values, or integers of the same number. -/
def agrees (x y : Value) : Bool := x == y || (x.integer?.isSome && x.integer? == y.integer?)

theorem agrees_iff {x y : Value} : x.agrees y = true ↔ x = y ∨ ∃ n, x.integer? = some n ∧ y.integer? = some n := by
  unfold agrees
  rw [Bool.or_eq_true, beq_iff_eq, Bool.and_eq_true, beq_iff_eq, Option.isSome_iff_exists]
  refine or_congr_right ⟨?_, ?_⟩
  · rintro ⟨⟨n, number⟩, same⟩
    exact ⟨n, number, same ▸ number⟩
  · rintro ⟨n, number, number'⟩
    exact ⟨⟨n, number⟩, number.trans number'.symm⟩

theorem agrees_symm {x y : Value} (agree : x.agrees y = true) : y.agrees x = true := by
  rcases agrees_iff.mp agree with rfl | ⟨n, number, number'⟩
  · exact agree
  · exact agrees_iff.mpr (.inr ⟨n, number', number⟩)

theorem agrees_trans {x y z : Value} (one : x.agrees y = true) (other : y.agrees z = true) : x.agrees z = true := by
  rcases agrees_iff.mp one with rfl | ⟨n, number, number'⟩
  · exact other
  · rcases agrees_iff.mp other with rfl | ⟨m, again, last⟩
    · exact one
    · cases number'.symm.trans again
      exact agrees_iff.mpr (.inr ⟨n, number, last⟩)

end Value

variable {t : Table} {d : Dialect}

/-- A new row: the arguments under the names of their columns, and an id in the other cells. -/
def Table.newRow (t : Table) (d : Dialect) (args : List Value) (id : Int64) (name : String) : Value :=
  ((((t.boundTerms d).map fun term => d.fold term.1.name).zip args).lookup name).getD (.bigInt id)

def Table.clash (t : Table) (d : Dialect) (row other : String → Value) : Bool :=
  t.keyColumns.all fun k => (other (d.fold k.name)).agrees (row (d.fold k.name))

def Table.picks (t : Table) (d : Dialect) (keys : List Value) (row : String → Value) : Bool :=
  ((t.keyColumns.map fun k => d.fold k.name).zip keys).all fun term => (row term.1).agrees term.2

def rowsBackend (t : Table) (d : Dialect) : Backend where
  State := List (String → Value)
  Handle := Empty
  execute _ sql args rows :=
    let id := Int64.ofNat (rows.length + 1)
    if sql = (Plan.insert t d).sql then
      if rows.any (t.clash d (t.newRow d args id)) then (.error (.driver "keys are taken"), rows)
      else (.ok { rowsAffected := 1, lastInsertId := some id }, t.newRow d args id :: rows)
    else (.ok {}, rows)
  query _ sql keys rows :=
    if sql = (Plan.get t d).sql then
      (.ok ((rows.filter (t.picks d keys)).map fun row =>
        { columns := t.storedColumns.map (·.name), values := t.storedColumns.map fun c => row (d.fold c.name) }), rows)
    else (.error (.driver "unknown query"), rows)
  start rows := (.error (.driver "no transactions"), rows)
  commit handle := handle.elim
  rollback handle := handle.elim

def rowsView (t : Table) (d : Dialect) : TableView (rowsBackend t d) where
  holds _ := fun (rows : List (String → Value)) row => row ∈ rows
  same := Value.agrees

theorem Plan.insert_sql_ne_get_sql : (Plan.insert t d).sql ≠ (Plan.get t d).sql := by
  obtain ⟨ending, text⟩ := Plan.insert_text (t := t) (d := d)
  intro same
  have first : (Plan.insert t d).sql.toList.head? = some 'i' := by
    rw [text]
    unfold Dialect.insertion
    simp only [String.toList_append, List.append_assoc]
    rfl
  have other : (Plan.get t d).sql.toList.head? = some 's' := by
    rw [Plan.get_text]
    unfold Dialect.selection
    simp only [String.toList_append, List.append_assoc]
    rfl
  rw [same, other] at first
  cases first

theorem lookup_of_mem {α β : Type} [BEq α] [LawfulBEq α] {l : List (α × β)} {a : α} {b : β}
    (distinct : (l.map (·.1)).Nodup) (member : (a, b) ∈ l) : l.lookup a = some b := by
  induction l with
  | nil => cases member
  | cons entry rest ih =>
    obtain ⟨fresh, distinctRest⟩ := List.nodup_cons.mp distinct
    rcases List.mem_cons.mp member with rfl | later
    · exact List.lookup_cons_self
    · have differs : a ≠ entry.1 := by
        rintro rfl
        exact fresh (List.mem_map.mpr ⟨(entry.1, b), later, rfl⟩)
      rw [List.lookup_cons, beq_eq_false_iff_ne.mpr differs]
      exact ih distinctRest later

/-- Columns whose folded names are distinct, with ids that are 64-bit integers and a version that is no key. -/
structure Countable (R : RecordType) (t : Table) (d : Dialect) : Prop where
  distinct : (t.storedColumns.map fun c => d.fold c.name).Nodup
  wide : ∀ c ∈ t.storedColumns, c.autoIncrement = true → ∀ p, R.place c.path = .ok p → p.leaf.type = .int .i64
  reports : d.keyReport = .lastInsertId
  noKey : ∀ c ∈ t.keyColumns, t.versionColumn? ≠ some c

namespace Countable

variable {R : RecordType} {args : List Value} {id : Int64} (countable : Countable R t d)

include countable

theorem newRow_argument (counted : args.length = (Plan.insert t d).sources.length) {entry : String × Value}
    (member : entry ∈ ((t.boundTerms d).map fun term => d.fold term.1.name).zip args) :
    t.newRow d args id entry.1 = entry.2 := by
  have names : ((t.boundTerms d).map fun term => d.fold term.1.name).Nodup := by
    have sub := (Table.boundTerms_sublist (t := t) (d := d)).map fun c => d.fold c.name
    rw [List.map_map] at sub
    exact countable.distinct.sublist sub
  have enough : ((t.boundTerms d).map fun term => d.fold term.1.name).length ≤ args.length := by
    rw [counted, Plan.insert_sources, List.length_map, List.length_map]
  have found := lookup_of_mem (by rw [List.map_fst_zip enough]; exact names) member
  unfold Table.newRow
  rw [found]
  rfl

theorem newRow_generated {c : Column} (stored : c ∈ t.storedColumns) (auto : c.autoIncrement = true) :
    t.newRow d args id (d.fold c.name) = .bigInt id := by
  have unlisted : (((t.boundTerms d).map fun term => d.fold term.1.name).zip args).lookup (d.fold c.name) = none := by
    rw [List.lookup_eq_none_iff]
    intro entry member
    obtain ⟨⟨k, source⟩, bound, same⟩ := List.mem_map.mp (List.of_mem_zip (show (entry.1, entry.2) ∈ _ from member)).1
    obtain ⟨i, here, kept, manual, _⟩ := Table.mem_boundTerms.mp bound
    have keptColumn : k ∈ t.storedColumns := List.mem_filter.mpr ⟨List.mem_of_getElem? here, by rw [kept]; rfl⟩
    apply bne_iff_ne.mpr
    intro shared
    cases List.inj_on_of_nodup_map countable.distinct stored keptColumn (shared.trans same.symm)
    rw [auto] at manual
    cases manual
  unfold Table.newRow
  rw [unlisted]
  rfl

theorem madeRow {sql : String} {result : ExecResult} (counted : args.length = (Plan.insert t d).sources.length)
    (numbered : result.lastInsertId = some id) :
    R.MadeRow t d (.exec sql args (.ok result)) (t.newRow d args id) where
  listed := by
    obtain ⟨ending, text⟩ := Plan.insert_text (t := t) (d := d)
    refine ⟨t.listing d, ending, text, fun entry member => ?_⟩
    rw [Table.listing_bound] at member
    exact countable.newRow_argument counted member
  reported c stored auto _ key? reports := by
    rw [countable.reports] at reports
    cases reports
    rw [numbered, countable.newRow_generated stored auto]
    rfl
  fits c stored auto p place := by
    rw [countable.newRow_generated stored auto, countable.wide c stored auto p place]
    obtain ⟨content, _, decoded, _⟩ := NativeType.int64_holds id
    exact ⟨content, _, decoded, rfl, .inr ⟨id, rfl, IntKind.store_of_load decoded rfl⟩⟩

theorem inserts {handle? : Option Empty} {before after : List (String → Value)} {answer : Except Error ExecResult}
    (answers : (rowsBackend t d).execute handle? (Plan.insert t d).sql args before = (answer, after))
    (answered : (Exchange.exec (Plan.insert t d).sql args answer).refusal? = none)
    (counted : args.length = (Plan.insert t d).sources.length) :
    ∃ row, R.MadeRow t d (.exec (Plan.insert t d).sql args answer) row ∧
      (∀ other, other ∈ after ↔ other = row ∨ other ∈ before) ∧
      ∀ other ∈ before, ∃ k ∈ t.keyColumns,
        (other (d.fold k.name)).agrees (row (d.fold k.name)) = false := by
  have known : (rowsBackend t d).execute handle? (Plan.insert t d).sql args before =
      if before.any (t.clash d (t.newRow d args (Int64.ofNat (before.length + 1)))) then
        (.error (.driver "keys are taken"), before)
      else
        (.ok { rowsAffected := 1, lastInsertId := some (Int64.ofNat (before.length + 1)) },
          t.newRow d args (Int64.ofNat (before.length + 1)) :: before) := if_pos rfl
  rw [known] at answers
  split at answers
  · cases answers
    cases answered
  · rename_i free
    cases answers
    refine ⟨_, countable.madeRow counted rfl, fun other => List.mem_cons, fun other member => ?_⟩
    have apart : t.clash d (t.newRow d args (Int64.ofNat (before.length + 1))) other = false := by
      rw [Bool.not_eq_true, List.any_eq_false] at free
      exact Bool.eq_false_iff.mpr (free other member)
    unfold Table.clash at apart
    obtain ⟨k, isKey, differs⟩ := List.all_eq_false.mp apart
    exact ⟨k, isKey, Bool.eq_false_iff.mpr differs⟩

omit countable in
theorem selected (rows : List (String → Value)) (keys values : List Value) :
    values ∈ ((rows.filter (t.picks d keys)).map fun row =>
        ({ columns := t.storedColumns.map (·.name), values := t.storedColumns.map fun c => row (d.fold c.name) } :
          Row)).map (·.values) ↔
      ∃ row, row ∈ rows ∧
        (∀ term ∈ (t.keyColumns.map fun k => d.fold k.name).zip keys, (row term.1).agrees term.2 = true) ∧
        values = (t.storedColumns.map fun c => d.fold c.name).map row := by
  rw [List.map_map, List.mem_map]
  refine exists_congr fun row => ?_
  rw [List.mem_filter, Table.picks, List.all_eq_true, List.map_map, and_assoc]
  exact and_congr_right fun _ => and_congr_right fun _ => eq_comm

theorem honest : (rowsView t d).Honest R t d where
  same_self _ _ := Value.agrees_iff.mpr (.inl rfl)
  same_integer number number' := Value.agrees_iff.mpr (.inr ⟨_, number, number'⟩)
  same_version c isKey versioned := absurd versioned (countable.noKey c isKey)
  same_symm agree := Value.agrees_symm agree
  same_trans one other := Value.agrees_trans one other
  insert {handle? before after x} answers answered text counted := by
    cases x with
    | query sql args answer =>
      replace text : sql = (Plan.insert t d).sql := text
      subst text
      have refused : (rowsBackend t d).query handle? (Plan.insert t d).sql args before =
          (.error (.driver "unknown query"), before) := by
        have differs : (Plan.insert t d).sql ≠ (Plan.get t d).sql := Plan.insert_sql_ne_get_sql
        simp only [rowsBackend, if_neg differs]
      cases refused.symm.trans answers
      cases answered
    | exec sql args answer =>
      replace text : sql = (Plan.insert t d).sql := text
      subst text
      exact countable.inserts answers answered counted
  get {handle? before args} counted := by
    refine ⟨_, before, if_pos rfl, ?_, _, _, Plan.get_text, fun values => ?_⟩
    · intro row member
      obtain ⟨stored, _, rfl⟩ := List.mem_map.mp member
      exact beq_iff_eq.mpr ((List.length_map _).trans (List.length_map _).symm)
    · exact selected before args values

end Countable

def countedEvents : Table :=
  ((Table.ofFields "Event" "events" none eventType.fields).setKeys true ["id"]).toOption.getD events

theorem countedEvents_maps : eventType.Maps countedEvents := by
  have registered : eventType.Maps (Table.ofFields "Event" "events" none eventType.fields) := .registered "events" none
  have change : (Table.ofFields "Event" "events" none eventType.fields).change (.keys true ["id"]) =
      .ok { table := countedEvents } := rfl
  exact registered.changed change

theorem countedEvents_countable : Countable eventType countedEvents eventContext.dialect where
  distinct := by decide +kernel
  wide c stored auto p place := by
    have known : c ∈ countedEvents.storedColumns.filter (·.autoIncrement) := List.mem_filter.mpr ⟨stored, auto⟩
    have only : countedEvents.storedColumns.filter (·.autoIncrement) = [countedEvents.columns.head (by decide)] := rfl
    rw [only, List.mem_singleton] at known
    subst known
    cases place
    rfl
  reports := rfl
  noKey := by decide

end RowMapper
