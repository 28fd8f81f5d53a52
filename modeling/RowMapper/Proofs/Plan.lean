import Mathlib.Data.List.Forall2
import Mathlib.Data.List.Nodup
import RowMapper.Crud.Write

/-!
# The terms of statements

Which column each argument of a statement belongs to. A stored version has one term in what a statement writes and one
in how an update or a deletion picks its row.
-/

namespace RowMapper

def Write.plan (t : Table) (d : Dialect) : Write → Plan
  | insert => .insert t d
  | update accepts => .update t d (accepts.getD fun _ => true)
  | delete => .delete t d

namespace Table

variable (t : Table) (d : Dialect) (accepts : Column → Bool) (args : List Value)

/-- The terms of an insertion that take an argument. -/
def boundTerms : List (Column × Source) := (t.insertTerms d).filterMap fun term => term.2.map (term.1, ·)

def inserted : List (Column × Value) := ((t.boundTerms d).map (·.1)).zip args

def assigned : List (Column × Value) := ((t.updateTerms accepts).map (·.1)).zip args

/-- The values that an update asks of the row that it changes. -/
def required : List (Column × Value) := ((t.keyTerms true).map (·.1)).zip (args.drop (t.updateTerms accepts).length)

/-- A version column that statements store. -/
structure StoresVersion (c : Column) : Prop where
  version : t.versionColumn? = some c
  notKey : c.primaryKey = false
  stored : c.isTransient = false

variable {t d accepts args} {c : Column}

theorem versionColumn?_eq_some : t.versionColumn? = some c ↔ ∃ i, t.version = some i ∧ t.columns[i]? = some c :=
  Option.bind_eq_some_iff

theorem version_isSome (versioned : t.versionColumn? = some c) : t.version.isSome = true := by
  obtain ⟨i, place, _⟩ := versionColumn?_eq_some.mp versioned
  rw [place]
  rfl

theorem storedSource_eq_nextVersion {i : Nat} : t.storedSource i c = .nextVersion ↔ t.version = some i := by
  unfold storedSource
  split <;> simp_all

theorem mem_updateTerms {source : Source} :
    (c, source) ∈ t.updateTerms accepts ↔
      ∃ i, t.columns[i]? = some c ∧ c.isTransient = false ∧ c.primaryKey = false ∧
        (t.version = some i ∨ accepts c = true) ∧ source = t.storedSource i c := by
  unfold updateTerms
  rw [List.mem_filterMap]
  constructor
  · rintro ⟨⟨d, i⟩, member, kept⟩
    have here := List.mem_zipIdx_iff_getElem?.mp member
    by_cases hidden : d.isTransient = true ∨ d.primaryKey = true
    · simp [hidden] at kept
    · by_cases chosen : t.version = some i ∨ accepts d = true
      · simp only [Bool.or_eq_true, hidden, if_false, chosen, if_true, decide_eq_true_eq] at kept
        cases kept
        rw [not_or, Bool.not_eq_true, Bool.not_eq_true] at hidden
        exact ⟨i, here, hidden.1, hidden.2, chosen, rfl⟩
      · simp [hidden, chosen] at kept
  · rintro ⟨i, here, stored, notKey, chosen, rfl⟩
    refine ⟨(c, i), List.mem_zipIdx_iff_getElem?.mpr here, ?_⟩
    have chosen : (t.version = some i ∨ accepts c = true) := chosen
    simp [stored, notKey, chosen]

theorem mem_boundTerms {source : Source} :
    (c, source) ∈ t.boundTerms d ↔
      ∃ i, t.columns[i]? = some c ∧ c.isTransient = false ∧ c.autoIncrement = false ∧ source = t.storedSource i c := by
  unfold boundTerms insertTerms
  rw [List.filterMap_filterMap, List.mem_filterMap]
  constructor
  · rintro ⟨⟨d, i⟩, member, kept⟩
    have here := List.mem_zipIdx_iff_getElem?.mp member
    cases shown : d.isTransient with
    | true => simp [shown] at kept
    | false =>
      cases auto : d.autoIncrement with
      | true => simp [shown, auto, Option.bind_eq_some_iff] at kept
      | false =>
        simp only [shown, auto] at kept
        cases kept
        exact ⟨i, here, shown, auto, rfl⟩
  · rintro ⟨i, here, stored, bound, rfl⟩
    exact ⟨(c, i), List.mem_zipIdx_iff_getElem?.mpr here, by simp [stored, bound]⟩

/-- Terms that each come from a column of their own are about stored columns, in order. -/
theorem map_fst_sublist {α : Type} {term? : Column × Nat → Option (Column × α)}
    (own : ∀ c i term, term? (c, i) = some term → term.1 = c ∧ c.isTransient = false) (columns : List Column) (n : Nat) :
    (((columns.zipIdx n).filterMap term?).map (·.1)).Sublist (columns.filter (!·.isTransient)) := by
  induction columns generalizing n with
  | nil => exact .slnil
  | cons c rest ih =>
    rw [List.zipIdx_cons, List.filterMap_cons]
    cases kept : term? (c, n) with
    | none => exact (ih (n + 1)).trans ((List.sublist_cons_self c rest).filter _)
    | some term =>
      obtain ⟨same, stored⟩ := own c n term kept
      rw [List.map_cons, same, List.filter_cons_of_pos (by rw [stored]; rfl)]
      exact (ih (n + 1)).cons_cons c

theorem mem_columns_of_key (member : c ∈ t.keyColumns) : c ∈ t.columns := by
  obtain ⟨i, _, here⟩ := List.mem_filterMap.mp member
  exact List.mem_of_getElem? here

theorem mem_storedColumns_of_key (member : c ∈ t.keyColumns) (stored : c.isTransient = false) : c ∈ t.storedColumns :=
  List.mem_filter.mpr ⟨mem_columns_of_key member, by rw [stored]; rfl⟩

theorem mem_storedColumns_of_version (versioned : t.versionColumn? = some c) (stored : c.isTransient = false) :
    c ∈ t.storedColumns := by
  obtain ⟨i, _, here⟩ := versionColumn?_eq_some.mp versioned
  exact List.mem_filter.mpr ⟨List.mem_of_getElem? here, by rw [stored]; rfl⟩

theorem updateTerms_sublist : ((t.updateTerms accepts).map (·.1)).Sublist t.storedColumns := by
  refine map_fst_sublist (fun c i term kept => ?_) t.columns 0
  by_cases hidden : c.isTransient = true ∨ c.primaryKey = true
  · simp [hidden] at kept
  · by_cases chosen : t.version = some i ∨ accepts c = true
    · simp only [Bool.or_eq_true, hidden, if_false, chosen, if_true, decide_eq_true_eq] at kept
      cases kept
      rw [not_or, Bool.not_eq_true] at hidden
      exact ⟨rfl, hidden.1⟩
    · simp [hidden, chosen] at kept

theorem boundTerms_sublist : ((t.boundTerms d).map (·.1)).Sublist t.storedColumns := by
  unfold boundTerms insertTerms
  rw [List.filterMap_filterMap]
  refine map_fst_sublist (fun c i term kept => ?_) t.columns 0
  cases shown : c.isTransient with
  | true => simp [shown] at kept
  | false =>
    cases auto : c.autoIncrement with
    | true => simp [shown, auto, Option.bind_eq_some_iff] at kept
    | false =>
      simp only [shown, auto] at kept
      cases kept
      exact ⟨rfl, rfl⟩

theorem lookup_zip_of_first {terms before after : List (Column × Source)} {more : List Source}
    {P : Source → Value → Prop} {source : Source} (supplied : List.Forall₂ P (terms.map (·.2) ++ more) args)
    (split : terms = before ++ (c, source) :: after) (first : c ∉ before.map (·.1)) :
    ∃ x, ((terms.map (·.1)).zip args).lookup c = some x ∧ P source x := by
  subst split
  induction before generalizing args with
  | nil =>
    obtain ⟨x, xs, holds, -, rfl⟩ := List.forall₂_cons_left_iff.mp supplied
    exact ⟨x, by simp, holds⟩
  | cons term rest ih =>
    obtain ⟨x, xs, -, others, rfl⟩ := List.forall₂_cons_left_iff.mp supplied
    rw [List.map_cons, List.mem_cons, not_or] at first
    obtain ⟨y, found, holds⟩ := ih first.2 others
    refine ⟨y, ?_, holds⟩
    rw [List.cons_append, List.map_cons, List.zip_cons_cons, List.lookup_cons, beq_eq_false_iff_ne.mpr first.1]
    exact found

theorem lookup_zip {terms : List (Column × Source)} {more : List Source} {P : Source → Value → Prop} {source : Source}
    (distinct : (terms.map (·.1)).Nodup) (supplied : List.Forall₂ P (terms.map (·.2) ++ more) args)
    (member : (c, source) ∈ terms) : ∃ x, ((terms.map (·.1)).zip args).lookup c = some x ∧ P source x := by
  obtain ⟨before, after, split⟩ := List.append_of_mem member
  refine lookup_zip_of_first supplied split fun early => ?_
  rw [split, List.map_append, List.nodup_append] at distinct
  exact distinct.2.2 c early c List.mem_cons_self rfl

theorem nextVersion_mem_boundTerms (versioned : t.versionColumn? = some c) (stored : c.isTransient = false)
    (manual : c.autoIncrement = false) : (c, .nextVersion) ∈ t.boundTerms d := by
  obtain ⟨i, place, here⟩ := versionColumn?_eq_some.mp versioned
  exact mem_boundTerms.mpr ⟨i, here, stored, manual, (storedSource_eq_nextVersion.mpr place).symm⟩

theorem keyTerms_of_version (versioned : t.versionColumn? = some c) :
    t.keyTerms true = t.keyColumns.map (fun c => (c, .field c)) ++ [(c, .existingVersion)] := by
  unfold keyTerms
  rw [versioned]
  rfl

/-- The version is the last that an update asks of its row. -/
theorem getLast?_required {P : Source → Value → Prop} (versioned : t.versionColumn? = some c)
    (supplied : List.Forall₂ P ((t.keyTerms true).map (·.2)) (args.drop (t.updateTerms accepts).length)) :
    ∃ x, (t.required accepts args).getLast? = some (c, x) ∧ P .existingVersion x := by
  unfold required
  generalize args.drop (t.updateTerms accepts).length = xs at supplied ⊢
  rw [keyTerms_of_version versioned, List.map_append] at supplied ⊢
  have last := List.forall₂_drop ((t.keyColumns.map fun c => (c, Source.field c)).map (·.2)).length supplied
  rw [List.drop_left] at last
  obtain ⟨x, none, holds, ended, split⟩ := List.forall₂_cons_left_iff.mp last
  cases ended
  -- The arguments before the last one are as many as the keys.
  have counted := supplied.length_eq
  rw [← List.take_append_drop (List.map (·.2) (t.keyColumns.map fun c => (c, Source.field c))).length xs, split,
    List.zip_append (by simp at counted ⊢; omega)]
  exact ⟨x, by simp, holds⟩

namespace StoresVersion

variable (versioned : t.StoresVersion c)

include versioned

theorem mem_storedColumns : c ∈ t.storedColumns := mem_storedColumns_of_version versioned.version versioned.stored

theorem mem_updateTerms : (c, .nextVersion) ∈ t.updateTerms accepts := by
  obtain ⟨i, place, here⟩ := versionColumn?_eq_some.mp versioned.version
  exact Table.mem_updateTerms.mpr
    ⟨i, here, versioned.stored, versioned.notKey, .inl place, (storedSource_eq_nextVersion.mpr place).symm⟩

end StoresVersion

end Table

namespace Plan

variable {t : Table} {d : Dialect} {accepts : Column → Bool}

theorem insert_sources : (Plan.insert t d).sources = (t.boundTerms d).map (·.2) := by
  show (t.insertTerms d).filterMap (·.2) = _
  unfold Table.boundTerms
  rw [List.map_filterMap]
  apply List.filterMap_congr
  intro term _
  cases term.2 <;> rfl

theorem update_sources (some : t.updateTerms accepts ≠ []) :
    (Plan.update t d accepts).sources = (t.updateTerms accepts).map (·.2) ++ (t.keyTerms true).map (·.2) := by
  simp [Plan.update, some]

theorem update_sql (some : t.updateTerms accepts ≠ []) :
    (Plan.update t d accepts).sql = "update " ++ t.quotedName d ++ " set " ++
      ", ".intercalate (d.equations 0 (t.updateTerms accepts)) ++ " where " ++
      " and ".intercalate (d.equations (t.updateTerms accepts).length (t.keyTerms true)) ++ d.terminator := by
  simp [Plan.update, some]

theorem update_sql_ne_empty (some : t.updateTerms accepts ≠ []) : (Plan.update t d accepts).sql ≠ "" := by
  intro empty
  have letters := congrArg String.toList empty
  simp [Plan.update, some] at letters

theorem delete_sql_ne_empty : (Plan.delete t d).sql ≠ "" := by
  intro empty
  have letters := congrArg String.toList empty
  simp [Plan.delete] at letters

end Plan

namespace Table

variable {t : Table} {d : Dialect} {w : Write}

theorem nextVersion_not_mem_keyTerms {withVersion : Bool} : .nextVersion ∉ (t.keyTerms withVersion).map (·.2) := by
  unfold keyTerms
  cases withVersion <;> simp

theorem versionColumn?_of_storedSource {i : Nat} {c : Column} (here : t.columns[i]? = some c)
    (next : .nextVersion = t.storedSource i c) : t.versionColumn? = some c :=
  versionColumn?_eq_some.mpr ⟨i, storedSource_eq_nextVersion.mp next.symm, here⟩

theorem mem_columns_of_field {accepts : Option (Column → Bool)} {c : Column}
    (asked : .field c ∈ ((Write.update accepts).plan t d).sources) : c ∈ t.columns := by
  by_cases none : t.updateTerms (accepts.getD fun _ => true) = []
  · simp [Write.plan, Plan.update, none] at asked
  · rw [Write.plan, Plan.update_sources none] at asked
    rcases List.mem_append.mp asked with set | picked
    · obtain ⟨⟨k, _⟩, member, same⟩ := List.mem_map.mp set
      obtain ⟨i, here, _, _, _, rfl⟩ := mem_updateTerms.mp member
      have own : k = c := by
        simp only [storedSource] at same
        split at same
        · cases same
        · cases same
          rfl
      exact own ▸ List.mem_of_getElem? here
    · obtain ⟨term, member, same⟩ := List.mem_map.mp picked
      rcases List.mem_append.mp member with key | version
      · obtain ⟨k, isKey, rfl⟩ := List.mem_map.mp key
        cases same
        exact mem_columns_of_key isKey
      · simp only [if_true] at version
        obtain ⟨k, _, rfl⟩ := List.mem_map.mp version
        cases same

theorem nextVersion_mem_updateTerms {accepts : Option (Column → Bool)}
    (asks : .nextVersion ∈ ((Write.update accepts).plan t d).sources) :
    ∃ c, (c, .nextVersion) ∈ t.updateTerms (accepts.getD fun _ => true) := by
  by_cases none : t.updateTerms (accepts.getD fun _ => true) = []
  · simp [Write.plan, Plan.update, none] at asks
  · rw [Write.plan, Plan.update_sources none] at asks
    have set := (List.mem_append.mp asks).resolve_right nextVersion_not_mem_keyTerms
    obtain ⟨⟨c, _⟩, member, rfl⟩ := List.mem_map.mp set
    exact ⟨c, member⟩

theorem notKey_of_nextVersion {accepts : Option (Column → Bool)} {c : Column} (versioned : t.versionColumn? = some c)
    (asks : .nextVersion ∈ ((Write.update accepts).plan t d).sources) : c ∈ t.columns ∧ c.primaryKey = false := by
  obtain ⟨k, member⟩ := nextVersion_mem_updateTerms asks
  obtain ⟨i, here, _, notKey, _, next⟩ := mem_updateTerms.mp member
  cases versioned.symm.trans (versionColumn?_of_storedSource here next)
  exact ⟨List.mem_of_getElem? here, notKey⟩

theorem versionColumn?_of_nextVersion (asks : .nextVersion ∈ (w.plan t d).sources) :
    ∃ c, t.versionColumn? = some c := by
  cases w with
  | insert =>
    rw [Write.plan, Plan.insert_sources] at asks
    obtain ⟨⟨c, _⟩, member, rfl⟩ := List.mem_map.mp asks
    obtain ⟨i, here, _, _, next⟩ := mem_boundTerms.mp member
    exact ⟨c, versionColumn?_of_storedSource here next⟩
  | update accepts =>
    obtain ⟨c, member⟩ := nextVersion_mem_updateTerms asks
    obtain ⟨i, here, _, _, _, next⟩ := mem_updateTerms.mp member
    exact ⟨c, versionColumn?_of_storedSource here next⟩
  | delete => exact absurd asks nextVersion_not_mem_keyTerms

end Table

end RowMapper
