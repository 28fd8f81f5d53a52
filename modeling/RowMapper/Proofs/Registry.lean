import RowMapper.Proofs.Table.Mapping
import RowMapper.Proofs.Script.Runs

/-!
# Registries with current plans

The plans that a registry keeps are those that it would build from its tables as they are. Each step of the
configuration of a table leaves this so: either it forgets the plans, or no plan depends on what it changes.
-/

namespace RowMapper

/-- The plans that are kept are what they would be if they were built now. -/
def RegisteredTable.Current (r : RegisteredTable) (d : Dialect) : Prop :=
  ∀ kind plan, r.plans kind = some plan → plan = .build r.table d kind

structure Registry.Coherent (r : Registry) (d : Dialect) : Prop where
  /-- Each type has one entry. -/
  unique : ∀ entry ∈ r.entries, r.find? entry.table.typeName = some entry
  kept : ∀ entry ∈ r.entries, entry.Current d

theorem Plan.build_indexes (t : Table) (indexes : List Index) (d : Dialect) (kind : PlanKind) :
    Plan.build { t with indexes } d kind = Plan.build t d kind := by
  cases kind <;> rfl

theorem Table.addIndex_ok {t : Table} {name method : String} {fields : List String} {unique : Bool}
    {result : ChangedTable} (added : t.addIndex name method fields unique = .ok result) :
    ∃ indexes, result.table = { t with indexes } := by
  obtain ⟨_, _, added⟩ := except_bind_ok added
  cases added
  exact ⟨_, rfl⟩

namespace RegisteredTable

variable {r after : RegisteredTable} {d : Dialect}

theorem current_of_table {t : Table} : Current { table := t } d := fun _ _ kept => by cases kept

theorem Current.withIndexes (current : r.Current d) (indexes : List Index) :
    Current { r with table := { r.table with indexes } } d := fun kind plan kept =>
  (current kind plan kept).trans (Plan.build_indexes r.table indexes d kind).symm

/-- A change forgets the plans, or it adds an index and they stay as they would be built. -/
theorem change_ok {c : TableChange} {changed : ChangedTable} (current : r.Current d)
    (h : r.change c = .ok (changed, after)) : after.table.typeName = r.table.typeName ∧ after.Current d := by
  obtain ⟨result, made, same⟩ := except_map_ok h
  have typeName := (Table.becomes_of_change made).typeName
  cases c with
  | index name method fields unique =>
    cases same
    obtain ⟨indexes, added⟩ := Table.addIndex_ok made
    refine ⟨typeName, ?_⟩
    rw [added]
    exact current.withIndexes indexes
  | keys | uniqueTogether | version | noVersion | column =>
    cases same
    exact ⟨typeName, current_of_table⟩

theorem step_ok {s : TableStep} {answer : TableAnswer} (current : r.Current d) (h : r.step d s = .ok (answer, after)) :
    after.table.typeName = r.table.typeName ∧ after.Current d := by
  cases s with
  | change c =>
    obtain ⟨⟨changed, next⟩, made, same⟩ := except_map_ok h
    cases same
    exact change_ok current made
  | forgetPlans =>
    cases h
    exact ⟨rfl, current_of_table⟩
  | column name | definition guarded =>
    obtain ⟨_, _, same⟩ := except_map_ok h
    cases same
    exact ⟨rfl, current⟩
  | index name =>
    cases h
    exact ⟨rfl, current⟩

theorem steps_ok {steps : List TableStep} {answers : List TableAnswer} (current : r.Current d)
    (h : r.steps d steps = .ok (answers, after)) : after.table.typeName = r.table.typeName ∧ after.Current d := by
  induction steps generalizing r answers with
  | nil =>
    cases h
    exact ⟨rfl, current⟩
  | cons first rest ih =>
    obtain ⟨⟨answer, mid⟩, stepped, h⟩ := except_bind_ok h
    obtain ⟨⟨others, last⟩, went, h⟩ := except_bind_ok h
    cases h
    obtain ⟨sameFirst, midCurrent⟩ := step_ok current stepped
    obtain ⟨same, lastCurrent⟩ := ih midCurrent went
    exact ⟨same.trans sameFirst, lastCurrent⟩

end RegisteredTable

namespace Registry

variable {r : Registry} {d : Dialect} {typeName : String} {kind : PlanKind}

theorem find?_tables : r.tables.find? (·.typeName == typeName) = (r.find? typeName).map (·.table) := by
  unfold tables find?
  rw [List.find?_map]
  rfl

theorem mem_of_find? {entry : RegisteredTable} (found : r.find? typeName = some entry) :
    entry ∈ r.entries ∧ entry.table.typeName = typeName :=
  ⟨List.mem_of_find?_eq_some found, eq_of_beq (List.find?_some found :)⟩

theorem find?_put (entry : RegisteredTable) :
    (r.put entry).find? typeName =
      (r.find? typeName).map fun e => if e.table.typeName = entry.table.typeName then entry else e := by
  unfold find? put
  rw [List.find?_map]
  congr 2
  funext e
  simp only [Function.comp_apply]
  split
  · rename_i same
    rw [same]
  · rfl

/-- Only the entry has to be current: it stands for its type alone. -/
theorem Coherent.replaced {new : RegisteredTable} (coherent : r.Coherent d) (current : new.Current d) :
    (r.put new).Coherent d := by
  refine ⟨fun e there => ?_, fun e there => ?_⟩
  · obtain ⟨old, inOld, rfl⟩ := List.mem_map.mp there
    rw [find?_put]
    split
    · rename_i same
      rw [← same, coherent.unique old inOld, Option.map_some, if_pos rfl]
    · rename_i differs
      rw [coherent.unique old inOld, Option.map_some, if_neg differs]
  · obtain ⟨old, inOld, rfl⟩ := List.mem_map.mp there
    split
    · exact current
    · exact coherent.kept old inOld

theorem Coherent.put {entry new : RegisteredTable} (coherent : r.Coherent d) (member : entry ∈ r.entries)
    (sameTable : new.table = entry.table) (current : new.Current d) :
    (r.put new).tables = r.tables ∧ (r.put new).Coherent d := by
  have replaced : ∀ e ∈ r.entries, e.table.typeName = new.table.typeName → e = entry := by
    intro e there same
    have one := coherent.unique e there
    rw [same, sameTable, coherent.unique entry member] at one
    exact (Option.some.inj one).symm
  refine ⟨?_, coherent.replaced current⟩
  unfold tables Registry.put
  rw [List.map_map]
  apply List.map_congr_left
  intro e there
  simp only [Function.comp_apply]
  split
  · rename_i same
    rw [replaced e there same, sameTable]
  · rfl

theorem Coherent.plan_ok (coherent : r.Coherent d) (kind : PlanKind) {entry : RegisteredTable}
    (found : r.find? typeName = some entry) :
    ∃ after : Registry, r.plan d typeName kind = .ok (.build entry.table d kind, after) ∧ after.tables = r.tables ∧
      after.Coherent d := by
  obtain ⟨member, _⟩ := mem_of_find? found
  have handed : r.plan d typeName kind = .ok ((entry.plan d kind).1, r.put (entry.plan d kind).2) := by
    unfold Registry.plan find
    rw [found]
    rfl
  rw [handed]
  unfold RegisteredTable.plan
  split
  · rename_i plan stored
    rw [coherent.kept entry member kind plan stored]
    exact ⟨_, rfl, coherent.put member rfl (coherent.kept entry member)⟩
  · refine ⟨_, rfl, coherent.put member rfl fun k plan stored => ?_⟩
    dsimp only at stored
    split at stored
    · rename_i same
      cases stored
      rw [same]
    · exact coherent.kept entry member k plan stored

theorem find_ok {entry : RegisteredTable} (found : r.find typeName = .ok entry) : r.find? typeName = some entry := by
  unfold find at found
  split at found
  · cases found
    assumption
  · cases found

theorem coherent_empty : ({} : Registry).Coherent d :=
  ⟨fun _ member => absurd member List.not_mem_nil, fun _ member => absurd member List.not_mem_nil⟩

theorem Coherent.register (coherent : r.Coherent d) (typeName : String) (fields : Fields) (schema : Option String)
    (name : String) : (r.register typeName fields schema name).Coherent d := by
  unfold Registry.register
  split
  · exact coherent.replaced RegisteredTable.current_of_table
  · rename_i absent
    have old : ∀ entry ∈ r.entries,
        find? { entries := r.entries ++ [{ table := .ofFields typeName name schema fields }] } entry.table.typeName =
          some entry := by
      intro entry member
      unfold find?
      rw [List.find?_append, show r.entries.find? _ = some entry from coherent.unique entry member]
      rfl
    refine ⟨fun entry member => ?_, fun entry member => ?_⟩
    · rcases List.mem_append.mp member with before | new
      · exact old entry before
      · have missing : r.entries.find? (·.table.typeName == typeName) = none := absent
        rw [List.mem_singleton.mp new]
        simp [find?, List.find?_append, Table.ofFields, missing]
    · rcases List.mem_append.mp member with before | new
      · exact coherent.kept entry before
      · rw [List.mem_singleton.mp new]
        exact RegisteredTable.current_of_table

theorem Coherent.configure (coherent : r.Coherent d) {steps : List TableStep} {answers : List TableAnswer}
    {after : Registry} (h : r.configure d typeName steps = .ok (answers, after)) : after.Coherent d := by
  obtain ⟨entry, found, h⟩ := except_bind_ok h
  obtain ⟨⟨_, changed⟩, went, h⟩ := except_bind_ok h
  cases h
  have member := (mem_of_find? (find_ok found)).1
  exact coherent.replaced (RegisteredTable.steps_ok (coherent.kept entry member) went).2

theorem Coherent.removeIndex (coherent : r.Coherent d) {index : String} {after : Registry}
    (h : r.removeIndex typeName index = .ok after) : after.Coherent d := by
  obtain ⟨entry, found, rfl⟩ := except_map_ok h
  have member := (mem_of_find? (find_ok found)).1
  exact coherent.replaced ((coherent.kept entry member).withIndexes _)

end Registry

end RowMapper
