import RowMapper.Proofs.Crud.Arguments
import RowMapper.Proofs.Crud.CurrentPlans
import RowMapper.Proofs.Crud.LockedWrite
import RowMapper.Record.ConversionRule

/-!
# Converted arguments

Which arguments a converter has made. A write converts what it takes from fields and sends versions as they are. A load
by key sends the values that it is given.
-/

namespace RowMapper

def Source.isVersion : Source → Bool
  | field _ => false
  | nextVersion | existingVersion => true

theorem forall₂_iff_of {α β : Type} {P Q : α → β → Prop} {S : α → Prop} {xs : List α} {ys : List β}
    (each : List.Forall₂ P xs ys) (same : ∀ x y, P x y → (Q x y ↔ S x)) : List.Forall₂ Q xs ys ↔ ∀ x ∈ xs, S x := by
  induction each with
  | nil => simp
  | cons first _ ih => rw [List.forall₂_cons, ih, same _ _ first, List.forall_mem_cons]

namespace RecordType

/-- The value of a term before any conversion. A field that gets the first version meanwhile is read with it. -/
def FieldSide (R : RecordType) (version : Int64) (before after : R.Values) : Column × Source → Value → Prop
  | (c, .field _), y => R.read c.path before = .ok y ∨ R.read c.path after = .ok y
  | (_, .nextVersion), y => y = .bigInt (version + 1)
  | (_, .existingVersion), y => y = .bigInt version

/-- An argument that was converted once, for its column. -/
def Converted (R : RecordType) (conv : Converter) (version : Int64) (before after : R.Values) (term : Column × Source)
    (x : Value) : Prop :=
  ∃ y, R.FieldSide version before after term y ∧ conv.toDb term.1 y = .ok x

variable {R : RecordType} {ctx : Context} {conv : Converter} {w : Write} {t : Table} {version : Int64}
  {before mid after : R.Values} {early late : List Exchange}

theorem supplied_eq_ok {c : Column} {x : Value} :
    R.supplied conv c before = .ok x ↔ ∃ y, R.read c.path before = .ok y ∧ conv.toDb c y = .ok x := by
  constructor
  · intro supplied
    exact except_bind_ok supplied
  · rintro ⟨y, read, converted⟩
    unfold supplied
    rw [read]
    exact converted

theorem converted_of_supplies {c : Column} {x : Value} (supplies : R.Supplies conv version mid after (.field c) x) :
    R.Converted conv version mid after (c, .field c) x := by
  rcases supplies with value | value
  · obtain ⟨y, read, converted⟩ := supplied_eq_ok.mp value
    exact ⟨y, .inl read, converted⟩
  · obtain ⟨y, read, converted⟩ := supplied_eq_ok.mp value
    exact ⟨y, .inr read, converted⟩

theorem fieldSide_version_unique {term : Column × Source} {x y : Value} (isVersion : term.2.isVersion = true)
    (one : R.FieldSide version before after term x) (other : R.FieldSide version before after term y) : x = y := by
  obtain ⟨c, source⟩ := term
  cases source with
  | field => cases isVersion
  | nextVersion | existingVersion => exact Eq.trans one (Eq.symm other)

/-- A write converts each argument that it takes from a field once. Versions are arguments as they are, so that all
arguments are converted only if the converter leaves those versions alone. -/
theorem converted_arguments (registered : ctx.table? R.typeName = some t) (sends : (w.plan t ctx.dialect).sql ≠ "")
    (hook : Script.Runs ctx (R.hooks w.preHook ctx before) early (.ok (.ok (), mid))) {x : w.Result} {first : Exchange}
    {outcome : Except Fault (Except Error w.Result × R.Values)}
    (run : Script.Runs ctx (R.perform ctx w x before) (early ++ first :: late) outcome) :
    ∃ bound after, R.Binds ctx.converter t (w.plan t ctx.dialect) mid bound after ∧ bound.IsSentBy first ∧
      List.Forall₂ (fun term x =>
        if term.2.isVersion then t.versionColumn? = some term.1 ∧ R.FieldSide bound.version mid after term x
        else R.Converted ctx.converter bound.version mid after term x) (w.terms t ctx.dialect) first.args ∧
      List.Forall₂ (fun c x => ∃ y, R.read c.path after = .ok y ∧ ctx.converter.toDb c y = .ok x)
        t.keyColumns bound.keys ∧
      (w.picksRow = true → first.refusal? = none → first.touched = 0 → t.version.isSome = true → 0 < bound.version →
        ∃ lookup, late = [.query (Plan.get t ctx.dialect).sql bound.keys lookup]) ∧
      (List.Forall₂ (R.Converted ctx.converter bound.version mid after) (w.terms t ctx.dialect) first.args ↔
        ∀ term ∈ w.terms t ctx.dialect, term.2.isVersion = true →
          ∀ y, R.FieldSide bound.version mid after term y → ctx.converter.toDb term.1 y = .ok y) := by
  obtain ⟨bound, after, p, sent⟩ := prepared_of_sent registered sends hook run
  have supplied : List.Forall₂ (fun term x => R.Supplies ctx.converter bound.version mid after term.2 x)
      (w.terms t ctx.dialect) first.args := by
    have args := p.binds.args
    rwa [Write.plan_sources sends, List.forall₂_map_left_iff, ← sent.2] at args
  have own : ∀ term ∈ w.terms t ctx.dialect, term ∈ w.terms t ctx.dialect := fun _ => id
  have each : List.Forall₂ (fun term x =>
      if term.2.isVersion then t.versionColumn? = some term.1 ∧ R.FieldSide bound.version mid after term x
      else R.Converted ctx.converter bound.version mid after term x) (w.terms t ctx.dialect) first.args := by
    refine ((List.forall₂_and_left _ _).mpr ⟨own, supplied⟩).imp ?_
    rintro ⟨c, source⟩ x ⟨member, supplies⟩
    rcases Write.mem_terms_own member with rfl | ⟨rfl | rfl, versioned⟩
    · exact converted_of_supplies supplies
    · exact ⟨versioned, supplies⟩
    · exact ⟨versioned, supplies⟩
  have keys : List.Forall₂ (fun c x => ∃ y, R.read c.path after = .ok y ∧ ctx.converter.toDb c y = .ok x)
      t.keyColumns bound.keys := p.binds.keys.imp fun _ _ => supplied_eq_ok.mp
  refine ⟨bound, after, p.binds, sent, each, keys, p.looks_up (p.binds.sql ▸ sends) run, ?_⟩
  apply forall₂_iff_of each
  intro term x argument
  by_cases isVersion : term.2.isVersion = true
  · rw [if_pos isVersion] at argument
    constructor
    · rintro ⟨y, fieldSide, converted⟩ _ z version
      cases fieldSide_version_unique isVersion fieldSide argument.2
      cases fieldSide_version_unique isVersion version argument.2
      exact converted
    · intro kept
      exact ⟨x, argument.2, kept isVersion x argument.2⟩
  · rw [if_neg isVersion] at argument
    exact ⟨fun _ asked => absurd asked isVersion, fun _ => argument⟩

end RecordType

def codedContext (column : String) : Context :=
  { eventContext with
    converter := .ofRules [{ direction := .toDb, column := some column, action := .const (.text "code") }] }

/-- An update of an event whose keys are converted: all that it sends is, as versions are not changed by that. -/
theorem event_converted_arguments :
    ∃ bound after, eventType.Binds (codedContext "id").converter events
        ((Write.update none).plan events (codedContext "id").dialect) (event 0 1) bound after ∧
      List.Forall₂ (eventType.Converted (codedContext "id").converter bound.version (event 0 1) after)
        ((Write.update none).terms events (codedContext "id").dialect)
        [.timestamp 0, .bigInt 2, .text "code", .bigInt 1] := by
  have sends : ((Write.update none).plan events (codedContext "id").dialect).sql ≠ "" :=
    Plan.update_sql_ne_empty (by decide)
  have hook : Script.Runs (codedContext "id") (eventType.hooks (Write.update none).preHook (codedContext "id")
      (event 0 1)) [] (.ok (.ok (), event 0 1)) := ⟨rfl, rfl⟩
  have run : Script.Runs (codedContext "id")
      (eventType.perform (codedContext "id") (.update none) (0 : Nat) (event 0 1))
      ([] ++ [.exec ((Write.update none).plan events (codedContext "id").dialect).sql
        [.timestamp 0, .bigInt 2, .text "code", .bigInt 1] (.ok { rowsAffected := 1 })])
      (.ok (.ok (1 : Nat), event 0 2)) := ⟨.ok { rowsAffected := 1 }, [], rfl, rfl, rfl⟩
  obtain ⟨bound, after, binds, _, _, _, _, all⟩ :=
    RecordType.converted_arguments rfl sends hook run
  refine ⟨bound, after, binds, all.mpr ?_⟩
  rintro ⟨c, source⟩ member isVersion y _
  rcases Write.mem_terms_own member with same | ⟨_, versioned⟩
  · dsimp only at same isVersion
    rw [same] at isVersion
    cases isVersion
  · cases versioned
    rfl

/-- An update does not convert the version that it sets. -/
theorem event_version_not_converted :
    Script.Runs (codedContext "version") (eventType.update (codedContext "version") none 0 (event 0 1))
      [.exec (eventUpdate 1).sql [.timestamp 0, .bigInt 2, .bigInt 5, .bigInt 1] (.ok { rowsAffected := 1 })]
      (.ok (.ok 1, event 0 2)) ∧
    (codedContext "version").converter.toDb eventVersion (.bigInt 2) = .ok (.text "code") ∧
    ¬ List.Forall₂ (eventType.Converted (codedContext "version").converter 1 (event 0 1) (event 0 1))
        ((Write.update none).terms events eventContext.dialect) [.timestamp 0, .bigInt 2, .bigInt 5, .bigInt 1] := by
  refine ⟨⟨.ok { rowsAffected := 1 }, [], rfl, rfl, rfl⟩, rfl, ?_⟩
  intro all
  obtain ⟨_, _, _, others, rest⟩ := List.forall₂_cons_left_iff.mp all
  cases rest
  obtain ⟨_, _, ⟨y, version, converted⟩, _, rest⟩ := List.forall₂_cons_left_iff.mp others
  cases rest
  cases converted

namespace RecordType

variable {R : RecordType} {ctx : Context} {conv : Converter} {w : Write} {t : Table} {before mid after : R.Values}
  {early late : List Exchange}

/-- Binding reads the keys of a record as they were, also if the record gets its first version meanwhile. -/
theorem Prepared.read_key {bound : Bound} (maps : R.Maps t) (distinct : (t.columns.map (·.path)).Nodup)
    (picks : w.picksRow = true) (p : R.Prepared ctx w before t early mid bound after) {c : Column}
    (isKey : c ∈ t.keyColumns) : R.read c.path after = R.read c.path mid := by
  have touched := p.binds.touched
  unfold Touched at touched
  split at touched
  · rename_i asked
    cases w with
    | insert => cases picks
    | delete => exact absurd asked.2 Table.nextVersion_not_mem_keyTerms
    | update accepts =>
      obtain ⟨v, versioned⟩ := Table.versionColumn?_of_nextVersion asked.2
      obtain ⟨⟨_, same, _, others⟩, _⟩ := firstVersioned versioned touched
      cases versioned.symm.trans same
      apply others
      intro samePath
      -- An update that stores a version does so in a column that is no key.
      obtain ⟨member, notKey⟩ := Table.notKey_of_nextVersion versioned asked.2
      have equal := List.inj_on_of_nodup_map distinct (Table.mem_columns_of_key isKey) member samePath
      have marked := maps.sound.primaryKey_of_mem_keyColumns isKey
      rw [equal, notKey] at marked
      cases marked
  · rw [touched]

theorem converted_keys {columns : List Column} {ys keys : List Value}
    (own : List.Forall₂ (fun c y => R.read c.path mid = .ok y) columns ys)
    (supplied : List.Forall₂ (fun c x => R.supplied conv c mid = .ok x) columns keys) :
    List.Forall₂ (fun key x => conv.toDb key.1 key.2 = .ok x) (columns.zip ys) keys := by
  induction own generalizing keys with
  | nil =>
    cases supplied
    exact .nil
  | cons read _ ih =>
    obtain ⟨x, others, found, later, rfl⟩ := List.forall₂_cons_left_iff.mp supplied
    obtain ⟨z, same, converted⟩ := supplied_eq_ok.mp found
    cases read.symm.trans same
    exact .cons converted (ih later)

/-- A load by the keys of a record sends them as they are. A write of the record picks its row by the keys that the
converter makes of them, and so does its lookup. They are the same only if the converter leaves each key alone. -/
theorem key_arguments (registered : ctx.table? R.typeName = some t) (maps : R.Maps t)
    (distinct : (t.columns.map (·.path)).Nodup) (picks : w.picksRow = true) (sends : (w.plan t ctx.dialect).sql ≠ "")
    (hook : Script.Runs ctx (R.hooks w.preHook ctx before) early (.ok (.ok (), mid))) {x : w.Result} {first : Exchange}
    {outcome : Except Fault (Except Error w.Result × R.Values)}
    (run : Script.Runs ctx (R.perform ctx w x before) (early ++ first :: late) outcome) {ys : List Value}
    (own : List.Forall₂ (fun c y => R.read c.path mid = .ok y) t.keyColumns ys) {log : List Exchange}
    {ended : Except Fault (Except Error (Option R.Values))} (load : Script.Runs ctx (R.get ctx ys) log ended) :
    ∃ version keys answer rest, R.localVersion t mid = .ok version ∧
      List.Forall₂ (fun key x => ctx.converter.toDb key.1 key.2 = .ok x) (t.keyColumns.zip ys) keys ∧
      log = .query (Plan.get t ctx.dialect).sql ys answer :: rest ∧
      first.args.drop (w.setCount t) = keys ++ t.versionColumn?.toList.map (fun _ => .bigInt version) ∧
      (first.refusal? = none → first.touched = 0 → t.version.isSome = true → 0 < version →
        ∃ lookup, late = [.query (Plan.get t ctx.dialect).sql keys lookup]) ∧
      (ys = keys ↔ ∀ key ∈ t.keyColumns.zip ys, ctx.converter.toDb key.1 key.2 = .ok key.2) := by
  obtain ⟨bound, after, p, sent⟩ := prepared_of_sent registered sends hook run
  have bounded : bound.sql ≠ "" := p.binds.sql ▸ sends
  have kept : ∀ c ∈ t.keyColumns, R.supplied ctx.converter c mid = R.supplied ctx.converter c after := by
    intro c isKey
    unfold supplied
    rw [p.read_key maps distinct picks isKey]
  have keysSupplied : List.Forall₂ (fun c x => R.supplied ctx.converter c mid = .ok x) t.keyColumns bound.keys := by
    refine ((List.forall₂_and_left _ _).mpr ⟨fun _ => id, p.binds.keys⟩).imp ?_
    rintro c x ⟨isKey, found⟩
    rw [kept c isKey, found]
  have converted := converted_keys own keysSupplied
  obtain ⟨answer, rest, loaded, _⟩ := (runs_get registered ((announce_run p.announced).2.1 picks)).mp load
  refine ⟨bound.version, bound.keys, answer, rest, p.binds.version, converted, loaded, ?_, ?_, ?_⟩
  · rw [sent.2]
    exact p.picked picks bounded kept
  · exact p.looks_up bounded run picks
  · have second : (t.keyColumns.zip ys).map (·.2) = ys := List.map_snd_zip (Nat.le_of_eq own.length_eq.symm)
    have pairs : ys = bound.keys ↔ List.Forall₂ (fun key x => key.2 = x) (t.keyColumns.zip ys) bound.keys := by
      rw [← List.forall₂_map_left_iff (f := Prod.snd), second, List.forall₂_eq_eq_eq]
    rw [pairs]
    apply forall₂_iff_of converted
    intro key x made
    rw [made, Except.ok.injEq, eq_comm]

end RecordType

/-- The deletion of an event and a load by its key, under a converter for another column. -/
theorem event_key_arguments :
    ∃ version keys, eventType.localVersion events (event 0 1) = .ok version ∧
      [Value.bigInt 5, .bigInt 1] = keys ++ events.versionColumn?.toList.map (fun _ => .bigInt version) ∧
      [Value.bigInt 5] = keys := by
  have hook : Script.Runs (codedContext "at") (eventType.hooks Write.delete.preHook (codedContext "at")
      (event 0 1)) [] (.ok (.ok (), event 0 1)) := ⟨rfl, rfl⟩
  have run : Script.Runs (codedContext "at") (eventType.perform (codedContext "at") .delete (0 : Nat) (event 0 1))
      ([] ++ [.exec (eventDeletion 1).sql [.bigInt 5, .bigInt 1] (.ok { rowsAffected := 1 })])
      (.ok (.ok (1 : Nat), event 0 1)) := ⟨.ok { rowsAffected := 1 }, [], rfl, rfl, rfl⟩
  have load : Script.Runs (codedContext "at") (eventType.get (codedContext "at") [.bigInt 5])
      [.query (Plan.get events eventContext.dialect).sql [.bigInt 5] (.ok [])] (.ok (.ok none)) :=
    Script.runs_query.mpr ⟨.ok [], [], rfl, rfl, rfl⟩
  have own : List.Forall₂ (fun c y => eventType.read c.path (event 0 1) = .ok y) events.keyColumns [.bigInt 5] :=
    .cons rfl .nil
  have sends : (Write.delete.plan events (codedContext "at").dialect).sql ≠ "" := Plan.delete_sql_ne_empty
  obtain ⟨version, keys, _, _, shown, _, _, picked, _, same⟩ :=
    RecordType.key_arguments rfl eventType_maps (by decide) rfl sends hook run own load
  refine ⟨version, keys, shown, picked, same.mpr ?_⟩
  intro key member
  cases List.mem_singleton.mp member
  rfl

/-- A load by the key of an event does not send what its deletion does. -/
theorem event_key_not_converted :
    Script.Runs (codedContext "id") (eventType.get (codedContext "id") [.bigInt 5])
      [.query (Plan.get events eventContext.dialect).sql [.bigInt 5] (.ok [])] (.ok (.ok none)) ∧
    Script.Runs (codedContext "id") (eventType.delete (codedContext "id") 0 (event 0 1))
      [.exec (eventDeletion 1).sql [.text "code", .bigInt 1] (.ok {}),
        .query (Plan.get events eventContext.dialect).sql [.text "code"] (.ok [])]
      (.ok (.error (.optimisticLock
        { tableName := "events", keys := [.text "code"], rowExists := false, localVersion := 1 }), event 0 1)) ∧
    eventType.read "id" (event 0 1) = .ok (.bigInt 5) :=
  ⟨Script.runs_query.mpr ⟨.ok [], [], rfl, rfl, rfl⟩,
    ⟨.ok {}, _, rfl, Script.runs_query.mpr ⟨.ok [], [], rfl, rfl, rfl⟩⟩, rfl⟩

end RowMapper
