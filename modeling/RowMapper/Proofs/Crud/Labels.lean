import RowMapper.Proofs.Crud.Select

/-!
# Records from any query

What a query for records makes of its rows: every label finds one column, and every row becomes a record behind those
that are there already, up to the first row that fails.
-/

namespace RowMapper

/-- The ways in which a column can answer to a label, the preferred ones first. -/
def labelWays (label : String) : List (Column → Prop) :=
  [fun c => c.name = label, fun c => c.fieldName = label, fun c => Text.eqIgnoreAsciiCase c.name label = true,
    fun c => Text.eqIgnoreAsciiCase c.fieldName label = true]

def IsFirst (columns : List Column) (way : Column → Prop) (c : Column) : Prop :=
  (c.isTransient = false ∧ way c) ∧
    ∃ before after, columns = before ++ c :: after ∧ ∀ b ∈ before, b.isTransient = false → ¬ way b

def IsNone (columns : List Column) (way : Column → Prop) : Prop := ∀ c ∈ columns, c.isTransient = false → ¬ way c

/-- The first column by the first way in which there is one. -/
inductive FirstBy (columns : List Column) : List (Column → Prop) → Column → Prop where
  | here {way ways c} (first : IsFirst columns way c) : FirstBy columns (way :: ways) c
  | later {way ways c} (none : IsNone columns way) (found : FirstBy columns ways c) : FirstBy columns (way :: ways) c

def Resolves (columns : List Column) (label : String) (c : Column) : Prop := FirstBy columns (labelWays label) c

def Unmapped (columns : List Column) (label : String) : Prop := ∀ way ∈ labelWays label, IsNone columns way

section

variable {columns : List Column} {label : String} {c : Column} {p : Column → Bool} {way : Column → Prop}
  {ways : List (Column → Prop)}

theorem find?_stored_some (same : ∀ b, p b = true ↔ way b) :
    (columns.filter (!·.isTransient)).find? p = some c ↔ IsFirst columns way c := by
  have here (b : Column) : decide ((!b.isTransient) = true ∧ p b = true) = true ↔ b.isTransient = false ∧ way b := by
    rw [decide_eq_true_iff, same, Bool.not_eq_true']
  have skipped (b : Column) :
      (!decide ((!b.isTransient) = true ∧ p b = true)) = true ↔ (b.isTransient = false → ¬ way b) := by
    rw [Bool.not_eq_true', ← Bool.not_eq_true, here, not_and]
  rw [List.find?_filter, List.find?_eq_some_iff_append]
  simp only [IsFirst, here, skipped]

theorem find?_stored_none (same : ∀ b, p b = true ↔ way b) :
    (columns.filter (!·.isTransient)).find? p = none ↔ IsNone columns way := by
  rw [List.find?_filter, List.find?_eq_none]
  simp [IsNone, same]

theorem firstBy_cons :
    FirstBy columns (way :: ways) c ↔ IsFirst columns way c ∨ IsNone columns way ∧ FirstBy columns ways c := by
  constructor
  · intro found
    cases found with
    | here first => exact .inl first
    | later none found => exact .inr ⟨none, found⟩
  · rintro (first | ⟨none, found⟩)
    · exact .here first
    · exact .later none found

theorem not_firstBy_nil : ¬ FirstBy columns [] c := nofun

theorem columnOf?_some : RecordType.columnOf? columns label = some c ↔ Resolves columns label c := by
  unfold RecordType.columnOf? Resolves labelWays
  simp only [Option.or_eq_some_iff, find?_stored_some (fun b => beq_iff_eq), find?_stored_none (fun b => beq_iff_eq),
    find?_stored_some (fun b => Iff.rfl), find?_stored_none (fun b => Iff.rfl), firstBy_cons, not_firstBy_nil,
    and_false, or_false]

theorem columnOf?_none : RecordType.columnOf? columns label = none ↔ Unmapped columns label := by
  unfold RecordType.columnOf? Unmapped labelWays
  simp only [Option.or_eq_none_iff, find?_stored_none (fun b => beq_iff_eq), find?_stored_none (fun b => Iff.rfl),
    List.forall_mem_cons, List.not_mem_nil, false_imp_iff, implies_true, and_true]

/-- The exact name of a field comes before the name of a column in another case. -/
example :
    let columns := (Fields.column "ID" (some "Key") (.int .i64) (.column "key" (some "no") (.int .i64) .nil)).columns
    (RecordType.columnOf? columns "key").map (·.fieldName) = some "key" ∧
      (RecordType.columnOf? columns "KEY").map (·.fieldName) = some "ID" := by decide

end

namespace RecordType

variable {R : RecordType} {ctx : Context} {columns targets : List Column} {labels : List String} {sql : String}
  {args : List Value} {log early late : List Exchange} {out : List R.Values}

def columnFor (R : RecordType) (columns : List Column) (sql label : String) : Except Error Column :=
  match columnOf? columns label with
  | some c => .ok c
  | none => .error (.unmappedColumn label R.typeName sql)

theorem columnFor_ok_iff {label : String} {c : Column} :
    R.columnFor columns sql label = .ok c ↔ Resolves columns label c := by
  rw [← columnOf?_some]
  unfold columnFor
  cases columnOf? columns label <;> simp

theorem columnFor_error_iff {label : String} {e : Error} :
    R.columnFor columns sql label = .error e ↔
      Unmapped columns label ∧ e = .unmappedColumn label R.typeName sql := by
  rw [← columnOf?_none]
  unfold columnFor
  cases columnOf? columns label <;> simp [eq_comm]

theorem resolve_ok_iff :
    R.resolve columns sql labels = .ok targets ↔ List.Forall₂ (Resolves columns) labels targets := by
  have each : (fun label c => R.columnFor columns sql label = .ok c) = Resolves columns := by
    funext label c
    exact propext columnFor_ok_iff
  rw [← each, ← List.forall₂_map_right_iff, ← List.forall₂_map_left_iff, List.forall₂_eq_eq_eq]
  exact except_mapM_ok_iff

/-- The first label that stands for no column is the one that is reported. -/
theorem resolve_error_iff {e : Error} :
    R.resolve columns sql labels = .error e ↔
      ∃ before label after, labels = before ++ label :: after ∧ (∀ l ∈ before, ∃ c, Resolves columns l c) ∧
        Unmapped columns label ∧ e = .unmappedColumn label R.typeName sql := by
  have named (l : String) (c : Column) : Resolves columns l c ↔ R.columnFor columns sql l = .ok c :=
    columnFor_ok_iff.symm
  simp only [named, ← columnFor_error_iff]
  exact except_mapM_error_iff

/-- The columns that labels can stand for: those of the table, or those of the fields of a type without one. -/
def labelled (R : RecordType) (ctx : Context) : List Column := (ctx.table? R.typeName).elim R.fields.columns (·.columns)

/-- What a value of the database is for a column. Only a registered type has its values converted. -/
def converted (R : RecordType) (ctx : Context) (c : Column) (x : Value) : Except Error Value :=
  match ctx.table? R.typeName with
  | some _ => ctx.converter.fromDb c x
  | none => .ok x

def writeTarget (R : RecordType) (ctx : Context) (record : R.Values) (target : Column × Value) :
    Except Error R.Values := do
  R.write target.1.path (← R.converted ctx target.1 target.2) record

/-- A fresh record with the values written to the columns, left to right. -/
def written (R : RecordType) (ctx : Context) (values : List (Column × Value)) : Except Error R.Values :=
  values.foldlM (R.writeTarget ctx) R.fresh

def applied (R : RecordType) (ctx : Context) : Converter := (ctx.table? R.typeName).elim {} fun _ => ctx.converter

theorem applied_fromDb (c : Column) (x : Value) : (R.applied ctx).fromDb c x = R.converted ctx c x := by
  unfold applied converted
  cases ctx.table? R.typeName <;> rfl

def result (edit : Edit R.Values Unit) (before : R.Values) : Except Error R.Values :=
  (edit before).1.map fun _ => (edit before).2

theorem loadColumn_result (c : Column) (x : Value) (before : R.Values) :
    result (R.loadColumn (R.applied ctx) c x) before = R.writeTarget ctx before (c, x) := by
  unfold loadColumn writeTarget
  rw [applied_fromDb]
  cases R.converted ctx c x with
  | error e => rfl
  | ok y =>
    show ((R.writeField c.path y before).1.map fun _ => (R.writeField c.path y before).2) = R.write c.path y before
    unfold writeField
    cases R.write c.path y before <;> rfl

theorem result_bind {first rest : Edit R.Values Unit} (before : R.Values) :
    result (first >>= fun _ => rest) before = result first before >>= result rest := by
  unfold result
  simp only [Bind.bind, ExceptT.bind, ExceptT.mk, StateT.bind]
  rcases first before with ⟨e | _, mid⟩ <;> rfl

theorem loadByTarget_result (values : List (Column × Value)) (before : R.Values) :
    result (R.loadByTarget (R.applied ctx) values) before = values.foldlM (R.writeTarget ctx) before := by
  -- Each value is written to what the one before it left, so the induction is for any record.
  induction values generalizing before with
  | nil => rfl
  | cons target rest ih =>
    have first : R.loadByTarget (R.applied ctx) (target :: rest) =
        (R.loadColumn (R.applied ctx) target.1 target.2 >>= fun _ => R.loadByTarget (R.applied ctx) rest) := rfl
    rw [first, result_bind, loadColumn_result, List.foldlM_cons]
    exact congrArg (R.writeTarget ctx before target >>= ·) (funext ih)

/-- What one row becomes: its values are written to a fresh record, and that goes through the hook. -/
inductive Loads (R : RecordType) (ctx : Context) (targets : List Column) (row : Row) :
    List Exchange → Except Fault (Except Error R.Values) → Prop where
  | refused {e} (failed : R.written ctx (targets.zip row.values) = .error e) :
    Loads R ctx targets row [] (.ok (.error e))
  | hooked {record log ended} (wrote : R.written ctx (targets.zip row.values) = .ok record)
    (ran : Script.Runs ctx (R.hooks .postGet ctx record) log ended) :
    Loads R ctx targets row log (ended.map fun left => left.1.map fun _ => left.2)

theorem runs_load {row : Row} {outcome : Except Fault (Except Error R.Values)} :
    Script.Runs ctx (R.load do
      R.loadByTarget (R.applied ctx) (targets.zip row.values)
      R.hooks .postGet ctx) log outcome ↔ R.Loads ctx targets row log outcome := by
  rw [load_eq, Step.bind_apply, Step.edit_apply]
  have wrote : result (R.loadByTarget (R.applied ctx) (targets.zip row.values)) R.fresh =
      R.written ctx (targets.zip row.values) := loadByTarget_result _ _
  rcases left : R.loadByTarget (R.applied ctx) (targets.zip row.values) R.fresh with ⟨e | _, record⟩
  · rw [result, left] at wrote
    constructor
    · rintro ⟨rfl, rfl⟩
      exact .refused wrote.symm
    · intro loads
      cases loads with
      | refused failed =>
        cases failed.symm.trans wrote.symm
        exact ⟨rfl, rfl⟩
      | hooked wrote' => cases wrote'.symm.trans wrote.symm
  · rw [result, left] at wrote
    show Script.Runs ctx (Script.bind (R.hooks .postGet ctx record) fun loaded =>
      .done (loaded.1.map fun _ => loaded.2)) log outcome ↔ _
    rw [Script.runs_change]
    constructor
    · rintro ⟨ended, ran, rfl⟩
      exact .hooked wrote.symm ran
    · intro loads
      cases loads with
      | refused failed => cases failed.symm.trans wrote.symm
      | hooked wrote' ran =>
        cases wrote'.symm.trans wrote.symm
        exact ⟨_, ran, rfl⟩

inductive LoadsAll (R : RecordType) (ctx : Context) (targets : List Column) :
    List Row → List Exchange → List R.Values → Prop where
  | nil : LoadsAll R ctx targets [] [] []
  | cons {row rows early late record records} (first : R.Loads ctx targets row early (.ok (.ok record)))
    (others : LoadsAll R ctx targets rows late records) :
    LoadsAll R ctx targets (row :: rows) (early ++ late) (record :: records)

/-- What appending the records of rows does: all of them are appended, or those before the first row that fails. -/
inductive Appends (R : RecordType) (ctx : Context) (targets : List Column) (rows : List Row) (out : List R.Values) :
    List Exchange → Except Fault (Except Error Unit × List R.Values) → Prop where
  | all {log records} (loaded : R.LoadsAll ctx targets rows log records) :
    Appends R ctx targets rows out log (.ok (.ok (), out ++ records))
  | failed {good bad others early late records e} (split : rows = good ++ bad :: others)
    (loaded : R.LoadsAll ctx targets good early records) (fails : R.Loads ctx targets bad late (.ok (.error e))) :
    Appends R ctx targets rows out (early ++ late) (.ok (.error e, out ++ records))
  | faulted {good bad others early late records reason} (split : rows = good ++ bad :: others)
    (loaded : R.LoadsAll ctx targets good early records) (faults : R.Loads ctx targets bad late (.error reason)) :
    Appends R ctx targets rows out (early ++ late) (.error reason)

theorem appends_nil {outcome : Except Fault (Except Error Unit × List R.Values)} :
    R.Appends ctx targets [] out log outcome ↔ log = [] ∧ outcome = .ok (.ok (), out) := by
  constructor
  · intro appends
    cases appends with
    | all loaded =>
      cases loaded
      exact ⟨rfl, by rw [List.append_nil]⟩
    | failed split | faulted split => simp at split
  · rintro ⟨rfl, rfl⟩
    have none : R.Appends ctx targets [] out [] (.ok (.ok (), out ++ [])) := .all .nil
    rwa [List.append_nil] at none

theorem appends_cons {row : Row} {rows : List Row} {outcome : Except Fault (Except Error Unit × List R.Values)} :
    R.Appends ctx targets (row :: rows) out log outcome ↔
      (∃ reason, R.Loads ctx targets row log (.error reason) ∧ outcome = .error reason) ∨
      (∃ e, R.Loads ctx targets row log (.ok (.error e)) ∧ outcome = .ok (.error e, out)) ∨
      ∃ record early late, R.Loads ctx targets row early (.ok (.ok record)) ∧
        R.Appends ctx targets rows (out ++ [record]) late outcome ∧ log = early ++ late := by
  constructor
  · intro appends
    cases appends with
    | all loaded =>
      cases loaded with
      | @cons _ _ early late record records first others =>
        refine .inr (.inr ⟨record, early, late, first, ?_, rfl⟩)
        rw [List.append_cons out record records]
        exact .all others
    | failed split loaded fails =>
      cases loaded with
      | nil =>
        cases split
        exact .inr (.inl ⟨_, fails, by rw [List.append_nil]⟩)
      | @cons _ _ early late record records first others =>
        cases split
        refine .inr (.inr ⟨record, early, _, first, ?_, List.append_assoc _ _ _⟩)
        rw [List.append_cons out record records]
        exact .failed rfl others fails
    | faulted split loaded faults =>
      cases loaded with
      | nil =>
        cases split
        exact .inl ⟨_, faults, rfl⟩
      | @cons _ _ early late record records first others =>
        cases split
        exact .inr (.inr ⟨record, early, _, first, .faulted rfl others faults, List.append_assoc _ _ _⟩)
  · rintro (⟨reason, faults, rfl⟩ | ⟨e, fails, rfl⟩ | ⟨record, early, late, first, appends, rfl⟩)
    · exact .faulted (List.nil_append _).symm .nil faults
    · have none : R.Appends ctx targets (row :: rows) out ([] ++ log) (.ok (.error e, out ++ [])) :=
        .failed (List.nil_append _).symm .nil fails
      rwa [List.append_nil] at none
    · cases appends with
      | all loaded =>
        rw [List.append_assoc]
        exact .all (.cons first loaded)
      | failed split loaded fails =>
        rw [List.append_assoc, ← List.append_assoc early]
        exact .failed (congrArg (row :: ·) split) (.cons first loaded) fails
      | faulted split loaded faults =>
        rw [← List.append_assoc]
        exact .faulted (congrArg (row :: ·) split) (.cons first loaded) faults

theorem runs_appendRows {rows : List Row} {outcome : Except Fault (Except Error Unit × List R.Values)} :
    Script.Runs ctx (R.appendRows ctx (R.applied ctx) targets rows out) log outcome ↔
      R.Appends ctx targets rows out log outcome := by
  -- The list grows at its end while the rows are taken from the front.
  induction rows generalizing out log with
  | nil => exact appends_nil.symm
  | cons row rows ih =>
    rw [appends_cons]
    unfold appendRows
    show Script.Runs ctx (Script.bind _ _) log outcome ↔ _
    rw [Script.runs_bind]
    simp only [runs_load]
    constructor
    · rintro (faulted | ⟨e | record, early, late, loads, others, rfl⟩)
      · exact .inl faulted
      · obtain ⟨rfl, rfl⟩ := others
        rw [List.append_nil]
        exact .inr (.inl ⟨e, loads, rfl⟩)
      · exact .inr (.inr ⟨record, early, late, loads, ih.mp others, rfl⟩)
    · rintro (faulted | ⟨e, loads, rfl⟩ | ⟨record, early, late, loads, others, rfl⟩)
      · exact .inl faulted
      · exact .inr ⟨.error e, log, [], loads, ⟨rfl, rfl⟩, (List.append_nil log).symm⟩
      · exact .inr ⟨.ok record, early, late, loads, ih.mpr others, rfl⟩

/-- What a query for records makes of its answer, with what is sent after the query. -/
inductive Selects (R : RecordType) (ctx : Context) (sql : String) (out : List R.Values) :
    Except Error (List Row) → List Exchange → Except Fault (Except Error Unit × List R.Values) → Prop where
  | misaligned {rows row} (first : rows.find? (!·.isAligned) = some row) :
    Selects R ctx sql out (.ok rows) [] (.error (.misalignedRow row.columns.length row.values.length))
  | refused (e) : Selects R ctx sql out (.error e) [] (.ok (.error e, out))
  | empty : Selects R ctx sql out (.ok []) [] (.ok (.ok (), out))
  | unmapped {first rest before label after} (aligned : ∀ row ∈ first :: rest, row.isAligned = true)
    (labels : first.columns = before ++ label :: after)
    (resolved : ∀ l ∈ before, ∃ c, Resolves (R.labelled ctx) l c) (unmapped : Unmapped (R.labelled ctx) label) :
    Selects R ctx sql out (.ok (first :: rest)) [] (.ok (.error (.unmappedColumn label R.typeName sql), out))
  | loaded {first rest targets log outcome} (aligned : ∀ row ∈ first :: rest, row.isAligned = true)
    (resolved : List.Forall₂ (Resolves (R.labelled ctx)) first.columns targets)
    (appends : R.Appends ctx targets (first :: rest) out log outcome) :
    Selects R ctx sql out (.ok (first :: rest)) log outcome

theorem selected_unmapped {first : Row} {rest : List Row} {e : Error}
    (failed : R.resolve (R.labelled ctx) sql first.columns = .error e) :
    R.selected ctx sql out (.ok (first :: rest)) = .done (.error e, out) := by
  unfold labelled at failed
  simp only [selected, failed]

theorem selected_resolved {first : Row} {rest : List Row}
    (resolved : R.resolve (R.labelled ctx) sql first.columns = .ok targets) :
    R.selected ctx sql out (.ok (first :: rest)) = R.appendRows ctx (R.applied ctx) targets (first :: rest) out := by
  unfold labelled at resolved
  simp only [selected, resolved, applied]

theorem runs_selected {first : Row} {rest : List Row} {outcome : Except Fault (Except Error Unit × List R.Values)}
    (aligned : ∀ row ∈ first :: rest, row.isAligned = true) :
    Script.Runs ctx (R.selected ctx sql out (.ok (first :: rest))) log outcome ↔
      R.Selects ctx sql out (.ok (first :: rest)) log outcome := by
  have checked : (first :: rest).find? (!·.isAligned) = none := by simpa using aligned
  cases resolved : R.resolve (R.labelled ctx) sql first.columns with
  | error e =>
    rw [selected_unmapped resolved]
    obtain ⟨before, label, after, labels, earlier, unmapped, rfl⟩ := resolve_error_iff.mp resolved
    constructor
    · rintro ⟨rfl, rfl⟩
      exact .unmapped aligned labels earlier unmapped
    · intro selects
      cases selects with
      | misaligned found => cases checked.symm.trans found
      | unmapped _ labels earlier unmapped =>
        cases resolved.symm.trans (resolve_error_iff.mpr ⟨_, _, _, labels, earlier, unmapped, rfl⟩)
        exact ⟨rfl, rfl⟩
      | loaded _ mapped => cases resolved.symm.trans (resolve_ok_iff.mpr mapped)
  | ok targets =>
    rw [selected_resolved resolved, runs_appendRows]
    constructor
    · exact .loaded aligned (resolve_ok_iff.mp resolved)
    · intro selects
      cases selects with
      | misaligned found => cases checked.symm.trans found
      | unmapped _ labels earlier unmapped =>
        cases resolved.symm.trans (resolve_error_iff.mpr ⟨_, _, _, labels, earlier, unmapped, rfl⟩)
      | loaded _ mapped appends =>
        cases resolved.symm.trans (resolve_ok_iff.mpr mapped)
        exact appends

theorem runs_selectInto {outcome : Except Fault (Except Error Unit × List R.Values)} :
    Script.Runs ctx (R.selectInto ctx sql args out) log outcome ↔
      ∃ answer late, log = .query sql args answer :: late ∧ R.Selects ctx sql out answer late outcome := by
  rw [selectInto_eq, Script.runs_query]
  refine exists_congr fun answer => exists_congr fun late => and_congr_right fun _ => ?_
  rcases answer with e | rows
  · constructor
    · rintro ⟨rfl, rfl⟩
      exact .refused e
    · intro selects
      cases selects
      exact ⟨rfl, rfl⟩
  -- The check of the rows comes before anything is made of them, so a row that fails it is a fault whatever its labels.
  cases checked : rows.find? (!·.isAligned) with
  | some row =>
    simp only [Mapper.checkRows, checked]
    constructor
    · rintro ⟨rfl, rfl⟩
      exact .misaligned checked
    · intro selects
      cases selects with
      | misaligned first =>
        cases checked.symm.trans first
        exact ⟨rfl, rfl⟩
      | empty => cases checked
      | unmapped aligned | loaded aligned =>
        have found := List.find?_some checked
        rw [aligned row (List.mem_of_find?_eq_some checked)] at found
        cases found
  | none =>
    have aligned : ∀ row ∈ rows, row.isAligned = true := by simpa using checked
    simp only [Mapper.checkRows, checked]
    cases rows with
    | cons first rest => exact runs_selected aligned
    | nil =>
      constructor
      · rintro ⟨rfl, rfl⟩
        exact .empty
      · intro selects
        cases selects with
        | misaligned first => cases first
        | empty => exact ⟨rfl, rfl⟩

theorem selectOne_select : R.selectOne ctx sql args =
    Script.bind (R.selectInto ctx sql args []) fun found => .done (found.1.bind fun _ => R.only? sql found.2) := by
  rw [selectOne_eq, selectInto_eq, Script.bind]

theorem only?_eq (records : List R.Values) : R.only? sql records =
    if 1 < records.length then .error (.multipleRows sql) else .ok records.head? := by
  rcases records with _ | ⟨record, _ | ⟨other, rest⟩⟩ <;> simp [only?]

/-- A query for records resolves its labels once, appends the records of its rows in order and keeps what was there.
Asked for a list it starts from none, and asked for at most one record it refuses more. -/
theorem selected_by_label (R : RecordType) (ctx : Context) (sql : String) (args : List Value) (log : List Exchange) :
    (∀ out outcome, Script.Runs ctx (R.selectInto ctx sql args out) log outcome ↔
      ∃ answer late, log = .query sql args answer :: late ∧ R.Selects ctx sql out answer late outcome) ∧
    (∀ outcome, Script.Runs ctx (R.select ctx sql args) log outcome ↔
      ∃ answer late ended, log = .query sql args answer :: late ∧ R.Selects ctx sql [] answer late ended ∧
        outcome = ended.map fun found => found.1.map fun _ => found.2) ∧
    ∀ outcome, Script.Runs ctx (R.selectOne ctx sql args) log outcome ↔
      ∃ answer late ended, log = .query sql args answer :: late ∧ R.Selects ctx sql [] answer late ended ∧
        outcome = ended.map fun found => found.1.bind fun _ =>
          if 1 < found.2.length then .error (.multipleRows sql) else .ok found.2.head? := by
  have changed {β : Type} (change : Except Error Unit × List R.Values → β) (outcome : Except Fault β) :
      Script.Runs ctx (Script.bind (R.selectInto ctx sql args []) fun found => .done (change found)) log outcome ↔
        ∃ answer late ended, log = .query sql args answer :: late ∧ R.Selects ctx sql [] answer late ended ∧
          outcome = ended.map change := by
    rw [Script.runs_change]
    constructor
    · rintro ⟨ended, run, rfl⟩
      obtain ⟨answer, late, sent, selects⟩ := runs_selectInto.mp run
      exact ⟨answer, late, ended, sent, selects, rfl⟩
    · rintro ⟨answer, late, ended, sent, selects, rfl⟩
      exact ⟨ended, runs_selectInto.mpr ⟨answer, late, sent, selects⟩, rfl⟩
  refine ⟨fun _ _ => runs_selectInto, fun outcome => ?_, fun outcome => ?_⟩
  · rw [select_eq]
    exact changed _ outcome
  · rw [selectOne_select]
    simp only [← only?_eq]
    exact changed _ outcome

end RecordType

end RowMapper
