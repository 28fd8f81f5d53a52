import RowMapper.Proofs.Table.Configuration
import RowMapper.Table.Definition

/-!
# References to columns

The definition of a table refers to columns in its key and its groups, and indexes do in their members. A key is kept as
places, so it has the names that its columns have now. Groups and indexes are kept as names, so they have those that the
columns had when they were declared, and they are about the same columns as long as these are not renamed.
-/

namespace RowMapper

def ColumnSetting.renames : ColumnSetting → Bool
  | rename _ => true
  | _ => false

def TableCall.renamesColumn : TableCall → Bool
  | change (.version _ settings) | change (.column _ settings) => settings.any ColumnSetting.renames
  | _ => false

def TableCall.setsKeys : TableCall → Bool
  | change (.keys _ _) => true
  | _ => false

theorem Column.setAll_name {c d : Column} {settings : List ColumnSetting} (set : c.setAll settings = .ok d)
    (steady : settings.any ColumnSetting.renames = false) : d.name = c.name := by
  induction settings generalizing c with
  | nil =>
    cases set
    rfl
  | cons setting rest ih =>
    obtain ⟨mid, first, later⟩ := except_bind_ok set
    rw [List.any_cons, Bool.or_eq_false_iff] at steady
    have others : d.name = mid.name := ih later steady.2
    have same : mid.name = c.name := by
      cases setting with
      | rename name => cases steady.1
      | transient on =>
        simp only [Column.set] at first
        split at first
        · cases first
        · cases first
          rfl
      | unique on | notNull on | maxSize n =>
        cases first
        rfl
    exact others.trans same

namespace Table

variable {t after : Table} {l : List TableCall}

theorem nameAt_set {i : Nat} {old new : Column} (here : t.columns[i]? = some old) (same : new.name = old.name) :
    ({ t with columns := t.columns.set i new } : Table).nameAt = t.nameAt := by
  funext j
  show (t.columns.set i new)[j]?.map (·.name) = t.columns[j]?.map (·.name)
  rw [List.getElem?_set]
  by_cases isPlace : i = j
  · subst isPlace
    rw [if_pos rfl, here, if_pos (List.getElem?_eq_some_iff.mp here).1, Option.map_some, Option.map_some, same]
  · rw [if_neg isPlace]

theorem Becomes.nameAt {c : TableCall} (becomes : t.Becomes c after) (steady : c.renamesColumn = false) :
    after.nameAt = t.nameAt := by
  cases becomes with
  | keys alone placed =>
    funext i
    simp only [Table.nameAt, keyed, List.getElem?_mapIdx, Option.map_map]
    rfl
  | version placed here set | column placed here set => exact nameAt_set here (Column.setAll_name set steady)
  | group | groupAgain | noVersion | index | rename | removeIndex => rfl

theorem nameAt_calls (done : t.calls l = .ok after) (steady : ∀ c ∈ l, c.renamesColumn = false) :
    after.nameAt = t.nameAt :=
  calls_same Table.nameAt (fun c member _ _ becomes => becomes.nameAt (steady c member)) done

theorem length_calls (done : t.calls l = .ok after) : after.columns.length = t.columns.length :=
  calls_same (·.columns.length) (fun _ _ _ _ becomes => becomes.columns_length) done

theorem Becomes.keys_eq {c : TableCall} (becomes : t.Becomes c after) (others : c.setsKeys = false) :
    after.keys = t.keys := by
  cases becomes with
  | keys => cases others
  | group | groupAgain | version | noVersion | column | index | rename | removeIndex => rfl

theorem keys_calls (done : t.calls l = .ok after) (others : ∀ c ∈ l, c.setsKeys = false) : after.keys = t.keys :=
  calls_same Table.keys (fun c member _ _ becomes => becomes.keys_eq (others c member)) done

/-- A history in two parts, with the call between them. -/
theorem calls_split {first later : List TableCall} {c : TableCall} (done : t.calls (first ++ c :: later) = .ok after) :
    ∃ before made, t.calls first = .ok before ∧ before.call c = .ok made ∧ made.calls later = .ok after := by
  rw [calls_append] at done
  obtain ⟨before, early, done⟩ := except_bind_ok done
  obtain ⟨made, called, rest⟩ := calls_cons done
  exact ⟨before, made, early, called, rest⟩

/-- Whether a call declares something over the columns that fields name, and copies these names. -/
def Copies (t : Table) (kind : List String → TableChange) (names : List String) (c : TableCall) : Prop :=
  ∃ fields places, c = .change (kind fields) ∧ fields.mapM t.place = .ok places ∧ names = t.namesAt places

theorem Becomes.group_cases {c : TableCall} {group : List String} (becomes : t.Becomes c after)
    (member : group ∈ after.uniqueTogether) : group ∈ t.uniqueTogether ∨ t.Copies .uniqueTogether group c := by
  cases becomes with
  | group enough placed fresh =>
    rcases List.mem_append.mp member with old | new
    · exact .inl old
    · exact .inr ⟨_, _, rfl, placed, List.mem_singleton.mp new⟩
  | keys | groupAgain | version | noVersion | column | index | rename | removeIndex => exact .inl member

theorem Becomes.index_cases {c : TableCall} {i : Index} (becomes : t.Becomes c after) (member : i ∈ after.indexes) :
    i ∈ t.indexes ∨ t.Copies (.index i.name i.method · i.unique) i.columns c := by
  cases becomes with
  | index placed =>
    rcases List.mem_append.mp member with old | new
    · exact .inl old
    · rw [List.mem_singleton.mp new]
      exact .inr ⟨_, _, rfl, placed, rfl⟩
  | removeIndex index => exact .inl (List.mem_filter.mp member).1
  | keys | group | groupAgain | version | noVersion | column | rename => exact .inl member

/-- What a table has after a history it had before, or a call of the history copied the names. -/
theorem kept_or_copied {P : Table → Prop} {kind : List String → TableChange} {names : List String}
    (each : ∀ {s next : Table} {c : TableCall}, s.Becomes c next → P next → P s ∨ s.Copies kind names c)
    (done : t.calls l = .ok after) (there : P after) :
    P t ∨
      ∃ first c later before, l = first ++ c :: later ∧ t.calls first = .ok before ∧ before.Copies kind names c := by
  induction l generalizing t with
  | nil =>
    cases done
    exact .inl there
  | cons c rest ih =>
    obtain ⟨mid, called, others⟩ := calls_cons done
    rcases ih others with already | ⟨first, declared, later, before, split, reached, copies⟩
    · -- No later call copied the names, so either the first one did or they were there before.
      rcases each (becomes_of_call called) already with old | new
      · exact .inl old
      · exact .inr ⟨[], c, rest, t, rfl, rfl, new⟩
    · refine .inr ⟨c :: first, declared, later, before, ?_, ?_, copies⟩
      · rw [split]
        rfl
      · rw [calls, List.foldlM_cons, called]
        exact reached

/-- Names that a call of a history copied. They are those that the columns it named had then, and they are the names of
these columns now unless one of them has got another. -/
def Copied (start : Table) (l : List TableCall) (t : Table) (kind : List String → TableChange) (names : List String) :
    Prop :=
  ∃ first fields later before places, l = first ++ .change (kind fields) :: later ∧ start.calls first = .ok before ∧
    fields.mapM before.place = .ok places ∧ names = before.namesAt places ∧
    (t.namesAt places = names ↔ ∀ i ∈ places, t.nameAt i = before.nameAt i) ∧
    ((∀ c ∈ later, c.renamesColumn = false) → t.namesAt places = names)

theorem copied_of_history {P : Table → Prop} {kind : List String → TableChange} {names : List String}
    (each : ∀ {s next : Table} {c : TableCall}, s.Becomes c next → P next → P s ∨ s.Copies kind names c)
    (steady : ∀ fields, (TableCall.change (kind fields)).renamesColumn = false) (absent : ¬ P t)
    (done : t.calls l = .ok after) (there : P after) : Copied t l after kind names := by
  obtain ⟨first, _, later, before, rfl, reached, fields, places, rfl, placed, rfl⟩ :=
    (kept_or_copied each done there).resolve_left absent
  obtain ⟨again, made, reached', called, rest⟩ := calls_split done
  rw [reached] at reached'
  cases reached'
  have sameLength : after.columns.length = before.columns.length :=
    (length_calls rest).trans (becomes_of_call called).columns_length
  have inBefore := places_lt placed
  have inAfter : ∀ i ∈ places, i < after.columns.length := by
    intro i member
    rw [sameLength]
    exact inBefore i member
  have current : after.namesAt places = before.namesAt places ↔ ∀ i ∈ places, after.nameAt i = before.nameAt i := by
    rw [← List.map_inj_left, map_nameAt inAfter, map_nameAt inBefore]
    exact (List.map_injective_iff.mpr fun _ _ => Option.some.inj).eq_iff.symm
  refine ⟨first, fields, later, before, places, rfl, reached, placed, rfl, current, fun unrenamed => current.mpr ?_⟩
  intro i _
  rw [nameAt_calls rest unrenamed, (becomes_of_call called).nameAt (steady fields)]

theorem keyColumns_name (t : Table) : t.keyColumns.map (·.name) = t.namesAt t.keys := by
  unfold keyColumns namesAt
  rw [List.map_filterMap]
  rfl

end Table

namespace RecordType

variable {R : RecordType} {t : Table} {name : String} {schema : Option String} {l : List TableCall}

/-- The key of a definition has the names that its columns have now, and these are the columns that the last call on keys
named. Each group and each index has the names that the columns its call named had then; they follow these columns if no
later call renames one. -/
theorem constraints_name_columns (configured : R.Configured name schema l t) (d : Dialect) :
    (t.definitionParts d = t.storedColumns.map (t.columnDefinition d) ++
      (if 1 < t.keys.length then ["primary key " ++ Table.nameGroup d (t.namesAt t.keys)] else []) ++
      t.uniqueTogether.map fun group => "unique " ++ Table.nameGroup d group) ∧
    (∀ i ∈ t.keys, ∃ c, t.columns[i]? = some c ∧ c.primaryKey = true ∧ (c.isTransient = false → c ∈ t.storedColumns)) ∧
    (∀ first autoIncrement fields later, l = first ++ .change (.keys autoIncrement fields) :: later →
      (∀ c ∈ later, c.setsKeys = false) →
      ∃ before, (Table.ofFields R.typeName name schema R.fields).calls first = .ok before ∧
        fields.mapM before.place = .ok t.keys) ∧
    (∀ group ∈ t.uniqueTogether,
      Table.Copied (.ofFields R.typeName name schema R.fields) l t .uniqueTogether group) ∧
    ∀ i ∈ t.indexes,
      Table.Copied (.ofFields R.typeName name schema R.fields) l t (.index i.name i.method · i.unique) i.columns := by
  refine ⟨?_, ?_, ?_, ?_, ?_⟩
  · rw [Table.definitionParts, Table.keyColumns_name]
  · intro i isKey
    have here := List.getElem?_eq_getElem (configured.closed.keys i isKey)
    refine ⟨_, here, (configured.maps.sound.columns i _ here).primaryKey.mpr isKey, fun shown => ?_⟩
    exact List.mem_filter.mpr ⟨List.getElem_mem _, by rw [shown]; rfl⟩
  · intro first autoIncrement fields later split others
    have done := configured
    unfold Configured at done
    rw [split] at done
    obtain ⟨before, made, reached, called, rest⟩ := Table.calls_split done
    refine ⟨before, reached, ?_⟩
    cases Table.becomes_of_call called with
    | keys alone placed => rw [Table.keys_calls rest others]; exact placed
  · intro group member
    exact Table.copied_of_history (P := fun s => group ∈ s.uniqueTogether) (fun becomes => becomes.group_cases)
      (fun _ => rfl) List.not_mem_nil configured member
  · intro i member
    exact Table.copied_of_history (P := fun s => i ∈ s.indexes) (fun becomes => becomes.index_cases)
      (fun _ => rfl) List.not_mem_nil configured member

end RecordType

/-- The moment of an event is renamed after a key, a group and an index were declared over it. -/
def groupedCalls : List TableCall :=
  [.change (.keys false ["id", "at"]), .change (.uniqueTogether ["at", "version"]),
    .change (.index "by_at" "" ["at"] false), .change (.column "at" [.rename "happened"])]

def newEvents : Table := .ofFields "Event" "events" none eventType.fields

def groupedEvents : Table := (newEvents.calls groupedCalls).toOption.getD newEvents

theorem grouped_events_constraints :
    eventType.Configured "events" none groupedCalls groupedEvents ∧
      groupedEvents.namesAt groupedEvents.keys = ["id", "happened"] ∧
      ["id", "at"].mapM newEvents.place = .ok groupedEvents.keys ∧
      newEvents.Copied groupedCalls groupedEvents .uniqueTogether ["at", "version"] ∧
      newEvents.Copied groupedCalls groupedEvents (.index "by_at" "" · false) ["at"] := by
  have configured : eventType.Configured "events" none groupedCalls groupedEvents := rfl
  obtain ⟨_, _, key, groups, indexes⟩ := RecordType.constraints_name_columns configured eventContext.dialect
  refine ⟨configured, rfl, ?_, groups _ (by decide), indexes ⟨"by_at", "", ["at"], false⟩ (by decide)⟩
  obtain ⟨before, isNew, placed⟩ := key [] false ["id", "at"] _ rfl (by decide)
  cases isNew
  exact placed

/-- The key follows the renamed column. The group and the index do not: they name a column that the table does not
have. -/
theorem grouped_events_dangling :
    groupedEvents.createStatements eventContext.dialect false = .ok
        ["create table \"events\" (\"id\" integer not null, \"happened\" datetime not null, \"version\" integer, " ++
          "primary key (\"id\", \"happened\"), unique (\"at\", \"version\"));"] ∧
      groupedEvents.indexes.map (groupedEvents.createIndexStatement eventContext.dialect) =
        ["create index by_at on \"events\" (\"at\");"] ∧
      groupedEvents.uniqueTogether = [["at", "version"]] ∧ groupedEvents.indexes.map (·.columns) = [["at"]] ∧
      ¬ ∃ c ∈ groupedEvents.columns, c.name = "at" := by
  refine ⟨?_, ?_, rfl, rfl, by decide⟩ <;> decide +kernel

end RowMapper
