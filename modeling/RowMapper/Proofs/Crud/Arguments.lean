import RowMapper.Proofs.Crud.Refusal
import RowMapper.Proofs.Sql.Layout

/-!
# Arguments at placeholders

The arguments of a write belong to the columns at its placeholders, one by one. Each is what the record has for its
column, and a version is stored as the next one and asked for as it was.
-/

namespace RowMapper

open Sql

def Write.Shows (t : Table) (d : Dialect) : Write → List Lexeme → Prop
  | insert, found =>
    (∃ start ending, found = start ++ symbols " (" ++
      joined "," ((t.insertEntries d).map fun entry => [d.nameLexeme entry.1.name]) ++ symbols ") values (" ++
      joined "," ((t.insertEntries d).map (·.2)) ++ symbols ")" ++ ending) ∧
    (t.insertEntries d).filterMap atPlaceholder = (insert.terms t d).mapIdx (fun i term => (term.1, d.placeholder i)) ∧
    (t.insertEntries d).map (·.1) = t.storedColumns.filter (fun c => !c.autoIncrement || !d.autoIncrementValue.isEmpty) ∧
    ∀ entry ∈ t.insertEntries d, entry.1.autoIncrement = true → entry.2 = symbols d.autoIncrementValue
  | w, found =>
    equated found = (w.terms t d).mapIdx (fun i term => (d.fold term.1.name, d.placeholder i)) ∧
    ∃ start, found = start ++ symbols " where " ++
      joined " and " (d.equationLexemes (w.setCount t) (t.keyTerms true)) ++ symbols d.terminator

namespace RecordType

/-- What an argument is for the column at its placeholder. A field that is the version of a record without one is read
after it got its first version. -/
def Carries (R : RecordType) (conv : Converter) (t : Table) (version : Int64) (mid : R.Values) :
    Column × Source → Value → Prop
  | (c, .field k), x => k = c ∧ (R.supplied conv c mid = .ok x ∨ version = 0 ∧
      ∃ v after, t.versionColumn? = some v ∧ v.path = c.path ∧ R.write v.path (.bigInt 1) mid = .ok after ∧
        R.supplied conv c after = .ok x)
  | (c, .nextVersion), x => t.versionColumn? = some c ∧ ∃ next : Int64, next.toInt = version.toInt + 1 ∧ x = .bigInt next
  | (c, .existingVersion), x => t.versionColumn? = some c ∧ x = .bigInt version

variable {R : RecordType} {ctx : Context} {w : Write} {t : Table} {before mid : R.Values} {early late : List Exchange}

theorem supplied_of_stored {c : Column} {conv : Converter} {x : Value} {after : R.Values}
    (stored : R.storeVersion t 1 mid = (.ok (), after)) (value : R.supplied conv c after = .ok x) :
    R.supplied conv c mid = .ok x ∨
      ∃ v after, t.versionColumn? = some v ∧ v.path = c.path ∧ R.write v.path (.bigInt 1) mid = .ok after ∧
        R.supplied conv c after = .ok x := by
  cases versioned : t.versionColumn? with
  | none =>
    rw [storeVersion_of_none versioned] at stored
    cases stored
    exact .inl value
  | some v =>
    obtain ⟨⟨_, same, wrote, others⟩, _⟩ := firstVersioned versioned stored
    cases versioned.symm.trans same
    by_cases here : v.path = c.path
    · exact .inr ⟨v, after, rfl, here, wrote, value⟩
    · have kept : R.supplied conv c after = R.supplied conv c mid := by
        unfold supplied
        rw [others c.path (Ne.symm here)]
      exact .inl (kept ▸ value)

end RecordType

namespace Write

variable {t : Table} {d : Dialect} {w : Write} {c : Column} {source : Source}

theorem plan_sources (sends : (w.plan t d).sql ≠ "") : (w.plan t d).sources = (w.terms t d).map (·.2) := by
  cases w with
  | insert => exact Plan.insert_sources
  | update accepts =>
    have some : t.updateTerms (accepts.getD fun _ => true) ≠ [] := fun none => sends (by
      simp [plan, Plan.update, none])
    rw [plan, Plan.update_sources some, terms, List.map_append]
  | delete => rfl

theorem mem_keyTerms_own {withVersion : Bool} (member : (c, source) ∈ t.keyTerms withVersion) :
    source = .field c ∨ source = .existingVersion ∧ t.versionColumn? = some c := by
  rcases List.mem_append.mp member with key | version
  · obtain ⟨k, _, same⟩ := List.mem_map.mp key
    cases same
    exact .inl rfl
  · cases withVersion with
    | false => exact absurd version List.not_mem_nil
    | true =>
      obtain ⟨k, versioned, same⟩ := List.mem_map.mp version
      cases same
      exact .inr ⟨rfl, Option.mem_toList.mp versioned⟩

theorem storedSource_own {i : Nat} (here : t.columns[i]? = some c) :
    t.storedSource i c = .field c ∨ t.storedSource i c = .nextVersion ∧ t.versionColumn? = some c := by
  unfold Table.storedSource
  split
  · rename_i place
    exact .inr ⟨rfl, Table.versionColumn?_eq_some.mpr ⟨i, place, here⟩⟩
  · exact .inl rfl

/-- A term takes the field of its column, or that column is the version. -/
theorem mem_terms_own (member : (c, source) ∈ w.terms t d) :
    source = .field c ∨ (source = .nextVersion ∨ source = .existingVersion) ∧ t.versionColumn? = some c := by
  have picked (member : (c, source) ∈ t.keyTerms true) :
      source = .field c ∨ (source = .nextVersion ∨ source = .existingVersion) ∧ t.versionColumn? = some c :=
    (mem_keyTerms_own member).imp_right fun version => ⟨.inr version.1, version.2⟩
  cases w with
  | insert =>
    obtain ⟨i, here, _, _, rfl⟩ := Table.mem_boundTerms.mp member
    exact (storedSource_own here).imp_right fun version => ⟨.inl version.1, version.2⟩
  | update accepts =>
    rcases List.mem_append.mp member with set | key
    · obtain ⟨i, here, _, _, _, rfl⟩ := Table.mem_updateTerms.mp set
      exact (storedSource_own here).imp_right fun version => ⟨.inl version.1, version.2⟩
    · exact picked key
  | delete => exact picked member

theorem shows_lexemes : w.Shows t d (w.lexemes t d) := by
  cases w with
  | insert =>
    refine ⟨⟨insert.beginning t d, t.insertEnding d ++ symbols d.terminator, ?_⟩, insertEntries_placed,
      insertEntries_columns⟩
    simp [lexemes, picksRow]
  | update accepts =>
    refine ⟨lexemes_equated rfl, (update accepts).beginning t d, ?_⟩
    simp [lexemes, picksRow]
  | delete =>
    refine ⟨lexemes_equated rfl, delete.beginning t d, ?_⟩
    simp [lexemes, picksRow]

end Write

namespace RecordType

variable {R : RecordType} {ctx : Context} {w : Write} {t : Table} {before mid after : R.Values}
  {early late : List Exchange}

theorem carries_of_supplies {conv : Converter} {bound : Bound} {d : Dialect} {term : Column × Source} {x : Value}
    (binds : R.Binds conv t (w.plan t d) mid bound after) (sends : (w.plan t d).sql ≠ "")
    (member : term ∈ w.terms t d) (supplies : R.Supplies conv bound.version mid after term.2 x) :
    R.Carries conv t bound.version mid term x := by
  obtain ⟨c, source⟩ := term
  have asked : source ∈ (w.plan t d).sources := by
    rw [Write.plan_sources sends]
    exact List.mem_map_of_mem member
  rcases Write.mem_terms_own member with rfl | ⟨rfl | rfl, versioned⟩
  · refine ⟨rfl, ?_⟩
    rcases supplies with value | value
    · exact .inl value
    · have touched := binds.touched
      unfold Touched at touched
      split at touched
      · rename_i unversioned
        exact (supplied_of_stored touched value).imp_right fun written => ⟨unversioned.1, written⟩
      · exact .inl (touched ▸ value)
  · exact ⟨versioned, _, toInt_add_one (binds.hasNext asked), supplies⟩
  · exact ⟨versioned, supplies⟩

theorem eq_of_supplied {conv : Converter} {version : Int64} {columns : List Column} {keys xs : List Value}
    {more : List Source} {last : List Value}
    (kept : ∀ c ∈ columns, R.supplied conv c mid = R.supplied conv c after)
    (keysSupplied : List.Forall₂ (fun c x => R.supplied conv c after = .ok x) columns keys)
    (ended : ∀ {xs}, List.Forall₂ (R.Supplies conv version mid after) more xs → xs = last)
    (supplied : List.Forall₂ (R.Supplies conv version mid after) (columns.map (fun c => Source.field c) ++ more) xs) :
    xs = keys ++ last := by
  induction keysSupplied generalizing xs with
  | nil => exact ended supplied
  | @cons c x columns keys found _ ih =>
    obtain ⟨y, rest, first, others, rfl⟩ := List.forall₂_cons_left_iff.mp supplied
    have read : R.supplied conv c after = .ok y := by
      rcases first with early | late
      · rw [← kept c List.mem_cons_self, early]
      · exact late
    cases read.symm.trans found
    rw [ih (fun d member => kept d (List.mem_cons_of_mem _ member)) others]
    rfl

/-- The last arguments of a write that picks a row are the keys for its lookup, and its version. -/
theorem Prepared.picked {bound : Bound} (picks : w.picksRow = true) (sends : bound.sql ≠ "")
    (p : R.Prepared ctx w before t early mid bound after)
    (kept : ∀ c ∈ t.keyColumns, R.supplied ctx.converter c mid = R.supplied ctx.converter c after) :
    bound.args.drop (w.setCount t) = bound.keys ++ t.versionColumn?.toList.map fun _ => .bigInt bound.version := by
  have sources : (t.keyTerms true).map (·.2) = t.keyColumns.map (fun c => Source.field c) ++
      t.versionColumn?.toList.map fun _ => .existingVersion := by
    unfold Table.keyTerms
    simp only [if_true, List.map_append, List.map_map]
    rfl
  have supplied : List.Forall₂ (R.Supplies ctx.converter bound.version mid after) ((t.keyTerms true).map (·.2))
      (bound.args.drop (w.setCount t)) := by
    cases w with
    | insert => cases picks
    | update accepts => exact p.keys_supplied sends
    | delete => exact p.binds.args
  rw [sources] at supplied
  refine eq_of_supplied kept p.binds.keys ?_ supplied
  intro xs versions
  cases versioned : t.versionColumn? with
  | none =>
    rw [versioned] at versions
    cases versions
    rfl
  | some c =>
    rw [versioned] at versions
    obtain ⟨x, _, same, ended, rfl⟩ := List.forall₂_cons_left_iff.mp versions
    cases ended
    exact congrArg (fun x => [x]) same

/-- The statement of a write has one placeholder for each argument, numbered in order, and each argument belongs to the
column that stands at its placeholder. Nothing that is quoted is taken for a placeholder. -/
theorem arguments_at_placeholders (registered : ctx.table? R.typeName = some t)
    (plain : ∀ s, t.schema = some s → Plain ctx.dialect.quoteChar ctx.dialect.marker s)
    (sends : (w.plan t ctx.dialect).sql ≠ "")
    (hook : Script.Runs ctx (R.hooks w.preHook ctx before) early (.ok (.ok (), mid))) {x : w.Result} {first : Exchange}
    {outcome : Except Fault (Except Error w.Result × R.Values)}
    (run : Script.Runs ctx (R.perform ctx w x before) (early ++ first :: late) outcome) :
    ∃ version, R.localVersion t mid = .ok version ∧ w.Shows t ctx.dialect (ctx.dialect.scan first.sql) ∧
      (ctx.dialect.scan first.sql).filterMap Lexeme.placeholder? =
        (List.range first.args.length).map ctx.dialect.placeholder ∧
      List.Forall₂ (R.Carries ctx.converter t version mid) (w.terms t ctx.dialect) first.args := by
  obtain ⟨bound, after, p, sentSql, sentArgs⟩ := prepared_of_sent registered sends hook run
  have found : ctx.dialect.scan first.sql = w.lexemes t ctx.dialect := by
    rw [sentSql, p.binds.sql]
    exact Write.scan_plan plain sends
  have supplied : List.Forall₂ (fun term x => R.Supplies ctx.converter bound.version mid after term.2 x)
      (w.terms t ctx.dialect) first.args := by
    have args := p.binds.args
    rwa [Write.plan_sources sends, List.forall₂_map_left_iff, ← sentArgs] at args
  have own : ∀ term ∈ w.terms t ctx.dialect, term ∈ w.terms t ctx.dialect := fun _ => id
  refine ⟨bound.version, p.binds.version, found ▸ Write.shows_lexemes, ?_, ?_⟩
  · rw [found, Write.lexemes_placeholders, supplied.length_eq]
  · have both := (List.forall₂_and_left _ _).mpr ⟨own, supplied⟩
    exact both.imp fun _ _ h => carries_of_supplies p.binds sends h.1 h.2

end RecordType

/-- An update of an event with version 1: the moment and the next version are set where the key and the version are 5
and 1. -/
theorem event_arguments_at_placeholders :
    Script.Runs eventContext (eventType.perform eventContext (.update none) (0 : Nat) (event 0 1))
      [.exec (eventUpdate 1).sql (eventUpdate 1).args (.error .transactionFinished)]
      (.ok (.error .transactionFinished, event 0 1)) ∧
    ∃ version, eventType.localVersion events (event 0 1) = .ok version ∧
      (Write.update none).Shows events eventContext.dialect (eventContext.dialect.scan (eventUpdate 1).sql) ∧
      (eventContext.dialect.scan (eventUpdate 1).sql).filterMap Lexeme.placeholder? =
        (List.range 4).map eventContext.dialect.placeholder ∧
      List.Forall₂ (eventType.Carries eventContext.converter events version (event 0 1))
        ((Write.update none).terms events eventContext.dialect) [.timestamp 0, .bigInt 2, .bigInt 5, .bigInt 1] := by
  have run : Script.Runs eventContext (eventType.perform eventContext (.update none) (0 : Nat) (event 0 1))
      ([] ++ [.exec (eventUpdate 1).sql (eventUpdate 1).args (.error .transactionFinished)])
      (.ok (.error .transactionFinished, event 0 1)) := ⟨.error .transactionFinished, [], rfl, rfl, rfl⟩
  have hook : Script.Runs eventContext (eventType.hooks (Write.update none).preHook eventContext (event 0 1)) []
      (.ok (.ok (), event 0 1)) := ⟨rfl, rfl⟩
  have sends : ((Write.update none).plan events eventContext.dialect).sql ≠ "" := Plan.update_sql_ne_empty (by decide)
  exact ⟨run, RecordType.arguments_at_placeholders (t := events) rfl nofun sends hook run⟩

end RowMapper
