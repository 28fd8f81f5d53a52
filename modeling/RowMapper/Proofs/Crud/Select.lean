import RowMapper.Proofs.Crud.Get
import RowMapper.Proofs.Table.Configuration

/-!
# Runs of queries for records

A query's rows are matched to columns by label. Where the labels are the names of the stored columns in table order,
that is the order in which a load by key goes through them.
-/

namespace RowMapper

namespace RecordType

variable {R : RecordType} {ctx : Context} {conv : Converter} {t : Table} {columns : List Column} {values : List Value}
  {c : Column} {log late : List Exchange} {sql : String} {args : List Value}

theorem find?_name (distinct : (columns.map (·.name)).Nodup) (member : c ∈ columns) :
    columns.find? (·.name == c.name) = some c := by
  induction columns with
  | nil => cases member
  | cons first rest ih =>
    rw [List.map_cons, List.nodup_cons] at distinct
    rcases List.mem_cons.mp member with rfl | later
    · exact List.find?_cons_of_pos (by simp)
    · have differs : first.name ≠ c.name := by
        intro same
        exact distinct.1 (same ▸ List.mem_map_of_mem later)
      rw [List.find?_cons_of_neg (by simpa using differs), ih distinct.2 later]

theorem columnOf?_name (distinct : (t.storedColumns.map (·.name)).Nodup) (stored : c ∈ t.storedColumns) :
    columnOf? t.columns c.name = some c := by
  have found : (t.columns.filter (!·.isTransient)).find? (·.name == c.name) = some c := find?_name distinct stored
  unfold columnOf?
  simp only [found, Option.some_or]

theorem resolve_names (distinct : (t.storedColumns.map (·.name)).Nodup) :
    R.resolve t.columns sql (t.storedColumns.map (·.name)) = .ok t.storedColumns := by
  unfold resolve
  rw [except_mapM_ok_iff, List.map_map]
  apply List.map_congr_left
  intro c stored
  simp only [Function.comp_apply, columnOf?_name distinct stored]

/-- Loading by label is loading by place when each column has its value. -/
theorem loadByTarget_zip (each : values.length = columns.length) :
    R.loadByTarget conv (columns.zip values) = R.loadByPlace conv columns values := by
  induction columns generalizing values with
  | nil =>
    cases values with
    | nil => rfl
    | cons x rest => cases each
  | cons c columns ih =>
    cases values with
    | nil => cases each
    | cons x values =>
      have others : R.loadByTarget conv (columns.zip values) = R.loadByPlace conv columns values :=
        ih (Nat.succ.inj each)
      rw [loadByPlace, List.tail_cons, ← others]
      rfl

def selected (R : RecordType) (ctx : Context) (sql : String) (out : List R.Values) :
    Except Error (List Row) → Script (Except Error Unit × List R.Values)
  | .error e => .done (.error e, out)
  | .ok [] => .done (.ok (), out)
  | .ok (first :: rest) =>
    match R.resolve ((ctx.table? R.typeName).elim R.fields.columns (·.columns)) sql first.columns with
    | .ok targets =>
      R.appendRows ctx ((ctx.table? R.typeName).elim {} fun _ => ctx.converter) targets (first :: rest) out
    | .error e => .done (.error e, out)

theorem selectInto_eq {out : List R.Values} :
    R.selectInto ctx sql args out = .query sql args (R.selected ctx sql out) := by
  show Script.query sql args _ = _
  congr 1
  funext answer
  rcases answer with e | _ | ⟨first, rest⟩
  · rfl
  · rfl
  · simp only [Script.bind, selected]
    cases R.resolve ((ctx.table? R.typeName).elim R.fields.columns (·.columns)) sql first.columns <;> rfl

/-- What is asked for with at most one record: the only one of a list, or none. -/
def only? (R : RecordType) (sql : String) : List R.Values → Except Error (Option R.Values)
  | [] => .ok none
  | [record] => .ok (some record)
  | _ => .error (.multipleRows sql)

theorem select_eq : R.select ctx sql args =
    Script.bind (R.selectInto ctx sql args []) fun found => .done (found.1.map fun _ => found.2) := by
  unfold select
  rw [Attempt.bind_apply]
  show Script.bind (Script.bind (R.selectInto ctx sql args []) fun found => .done (Except.ok found)) _ = _
  rw [Script.bind_assoc]
  congr 1
  funext ⟨answer, out⟩
  cases answer <;> rfl

theorem selectOne_eq : R.selectOne ctx sql args = Script.query sql args fun answer =>
    Script.bind (R.selected ctx sql [] answer) fun found => .done (found.1.bind fun _ => R.only? sql found.2) := by
  have selects : R.selectOne ctx sql args =
      Script.bind (R.selectInto ctx sql args []) fun found => .done (found.1.bind fun _ => R.only? sql found.2) := by
    unfold selectOne
    rw [Attempt.bind_apply, select_eq, Script.bind_assoc]
    congr 1
    funext ⟨answer, out⟩
    rcases answer with e | _
    · rfl
    · rcases out with _ | ⟨record, _ | _⟩ <;> rfl
  rw [selects, selectInto_eq, Script.bind]

/-- The only row of a query, scanned by label into the record that is returned. -/
theorem only?_appendRows {targets : List Column} {row : Row} :
    (Script.bind (R.appendRows ctx conv targets [row] []) fun found =>
      .done (found.1.bind fun _ => R.only? sql found.2)) =
    (do
      let record ← R.load do
        R.loadByTarget conv (targets.zip row.values)
        R.hooks .postGet ctx
      return some record : Attempt (Option R.Values)) := by
  rw [Attempt.bind_apply]
  unfold appendRows
  show Script.bind (Script.bind _ _) _ = _
  rw [Script.bind_assoc]
  congr 1
  funext loaded
  cases loaded <;> rfl

theorem selected_row {row : Row} {out : List R.Values} (registered : ctx.table? R.typeName = some t)
    (distinct : (t.storedColumns.map (·.name)).Nodup) (labels : row.columns = t.storedColumns.map (·.name)) :
    R.selected ctx sql out (.ok [row]) = R.appendRows ctx ctx.converter t.storedColumns [row] out := by
  simp only [selected, registered, Option.elim_some, labels, resolve_names distinct]

theorem length_values {row : Row} (labels : row.columns = t.storedColumns.map (·.name))
    (aligned : row.isAligned = true) : row.values.length = t.storedColumns.length := by
  have pairs : row.columns.length = row.values.length := by simpa [Row.isAligned] using aligned
  rw [← pairs, labels, List.length_map]

/-- A load by key and a query by label make the same of a row whose labels are the names of the stored columns in table
order: the same record or error, with the same statements of hooks in between. -/
theorem get_eq_selectOne {row : Row} {rest : List Row} {keys : List Value}
    {outcome : Except Fault (Except Error (Option R.Values))} (registered : ctx.table? R.typeName = some t)
    (keyed : t.keys ≠ []) (distinct : (t.storedColumns.map (·.name)).Nodup)
    (labels : row.columns = t.storedColumns.map (·.name)) (others : ∀ other ∈ rest, other.isAligned = true) :
    Script.Runs ctx (R.get ctx keys) (.query (Plan.get t ctx.dialect).sql keys (.ok (row :: rest)) :: late) outcome ↔
      Script.Runs ctx (R.selectOne ctx sql args) (.query sql args (.ok [row]) :: late) outcome := by
  rw [runs_get registered keyed, selectOne_eq, Script.runs_query, Script.exists_query_cons, Script.exists_query_cons]
  cases aligned : row.isAligned with
  | true =>
    have checked : Mapper.checkRows (.ok (row :: rest)) = .ok (.ok (row :: rest)) :=
      Mapper.checkRows_aligned (List.forall_mem_cons.mpr ⟨aligned, others⟩)
    have checkedAlone : Mapper.checkRows (.ok [row]) = .ok (.ok [row]) :=
      Mapper.checkRows_aligned (by simpa using aligned)
    simp only [checked, checkedAlone, List.head?_cons]
    rw [selected_row registered distinct labels, only?_appendRows, loadByTarget_zip (length_values labels aligned)]
  | false => simp only [Mapper.checkRows_misaligned aligned]

end RecordType

/-- A type with two columns that each bear the name of the other one's field. -/
def mirrorType : RecordType where
  typeName := "Mirror"
  recordName := "Mirror"
  tableName := "mirrors"
  fields := .column "left" (some "right") (.int .i64) (.column "right" (some "left") (.int .i64) .nil)

def mirrors : Table :=
  ((Table.ofFields "Mirror" "mirrors" none mirrorType.fields).setKeys false ["left"]).toOption.getD
    (.ofFields "Mirror" "mirrors" none mirrorType.fields)

def mirrorContext : Context := { dialect := .sqlite "" false, converter := {}, tables := [mirrors] }

def mirrorRow : Row := ⟨["right", "left"], [.bigInt 3, .bigInt 4]⟩

def mirrorRecord : mirrorType.Values := (⟨3, by decide, by decide⟩, ⟨4, by decide, by decide⟩, ())

/-- The value under the label right is that of the field left, loaded by key or by label. -/
theorem mirror_get_eq_selectOne :
    mirrorRow.columns = mirrors.storedColumns.map (·.name) ∧
      Script.Runs mirrorContext (mirrorType.selectOne mirrorContext "select * from mirrors" [])
        [.query "select * from mirrors" [] (.ok [mirrorRow])] (.ok (.ok (some mirrorRecord))) := by
  have labels : mirrorRow.columns = mirrors.storedColumns.map (·.name) := rfl
  have loaded : Script.Runs mirrorContext (mirrorType.get mirrorContext [.bigInt 3])
      [.query (Plan.get mirrors mirrorContext.dialect).sql [.bigInt 3] (.ok [mirrorRow])]
      (.ok (.ok (some mirrorRecord))) := (RecordType.runs_get rfl (by decide)).mpr ⟨_, _, rfl, rfl, rfl⟩
  exact ⟨labels, (RecordType.get_eq_selectOne rfl (by decide) (by decide) labels (List.forall_mem_nil _)).mp loaded⟩

end RowMapper
