import RowMapper.Proofs.Concurrency.Copy
import RowMapper.Store.Cell

/-!
# Databases of one row

A database that keeps one row in cells and runs the statements of its table as they are written. It has fewer kinds of
cells than there are kinds of values, and tells updates of different columns apart by their text.
-/

namespace RowMapper

variable {R : RecordType} {t : Table} {c : Column} {d : Dialect} {filters : List (Column → Bool)}

/-- What comes back of a value that was put into a cell. -/
def cellValue (x : Value) : Value := (Store.Cell.ofValue x).toValue

/-- A database whose state is what its row shows. It knows the updates of the columns that pass one of the filters. -/
def rowBackend (t : Table) (d : Dialect) (filters : List (Column → Bool)) : Backend where
  State := Column → Value
  Handle := Empty
  execute _ sql args cells :=
    match filters.find? fun accepts => (Plan.update t d accepts).sql == sql with
    | none => (.error .transactionFinished, cells)
    | some accepts =>
      if (t.required accepts args).all fun term => decide (cells term.1 = cellValue term.2) then
        (.ok { rowsAffected := 1 }, fun c => (((t.assigned accepts args).lookup c).map cellValue).getD (cells c))
      else (.ok {}, cells)
  query _ _ keys cells :=
    if (t.keyColumns.zip keys).all fun term => decide (cells term.1 = cellValue term.2) then
      (.ok [{ columns := t.storedColumns.map (·.name), values := t.storedColumns.map cells }], cells)
    else (.ok [], cells)
  start cells := (.error .transactionFinished, cells)
  commit handle := handle.elim
  rollback handle := handle.elim

def rowView (t : Table) (d : Dialect) (filters : List (Column → Bool)) : RowView (rowBackend t d filters) where
  cell cells := cells
  keeps _ := cellValue
  same _ x y := decide (x = cellValue y)

theorem Plan.update_congr {accepts others : Column → Bool} (same : t.updateTerms accepts = t.updateTerms others) :
    Plan.update t d accepts = Plan.update t d others := by
  unfold Plan.update
  rw [same]

/-- The database is honest if it knows every update and tells them apart. -/
theorem honest_rowBackend (covers : ∀ accepts, ∃ f ∈ filters, t.updateTerms f = t.updateTerms accepts)
    (tells : ∀ f ∈ filters, ∀ g ∈ filters, (Plan.update t d f).sql = (Plan.update t d g).sql →
      t.updateTerms f = t.updateTerms g) :
    (rowView t d filters).Honest R t c d where
  keeps_version n := rfl
  same_version m n := by simp [rowView, cellValue, Store.Cell.ofValue, Store.Cell.toValue]
  update accepts args cells _ := by
    obtain ⟨f, known, same⟩ := covers accepts
    cases found : filters.find? fun g => (Plan.update t d g).sql == (Plan.update t d accepts).sql with
    | none =>
      have unknown := List.find?_eq_none.mp found f known
      rw [Plan.update_congr same, beq_self_eq_true] at unknown
      exact absurd rfl unknown
    | some g =>
      have text := eq_of_beq (List.find?_some found :)
      have terms : t.updateTerms g = t.updateTerms accepts := by
        rw [← same]
        exact tells g (List.mem_of_find?_eq_some found) f known (by rw [text, Plan.update_congr same])
      have asks : t.required g args = t.required accepts args := by
        unfold Table.required
        rw [terms]
      have sets : t.assigned g args = t.assigned accepts args := by
        unfold Table.assigned
        rw [terms]
      by_cases met : (rowView t d filters).meets cells (t.required accepts args) = true
      · refine ⟨{ rowsAffected := 1 }, (rowView t d filters).setCells cells (t.assigned accepts args), ?_, ?_⟩
        · simp only [rowBackend, found, asks, sets]
          exact if_pos met
        · rw [if_pos met]
          exact ⟨rfl, rfl⟩
      · refine ⟨{}, cells, ?_, ?_⟩
        · simp only [rowBackend, found, asks]
          exact if_neg met
        · rw [if_neg met]
          exact ⟨rfl, rfl⟩
  get keys cells answer after _ answers := by
    simp only [rowBackend] at answers
    split at answers
    all_goals
      cases answers
      refine ⟨rfl, ?_⟩
      rintro _ ⟨⟩ row member
    · rw [List.mem_singleton.mp member]
      rfl
    · cases member
  finds keys cells _ met :=
    ⟨_, cells, if_pos met, beq_iff_eq.mpr ((List.length_map _).trans (List.length_map _).symm)⟩

theorem updateTerms_congr {a : Column} {accepts others : Column → Bool}
    (only : ∀ place ∈ t.columns.zipIdx, place.1.isTransient = false → place.1.primaryKey = false →
      t.version = some place.2 ∨ place.1 = a)
    (same : accepts a = others a) : t.updateTerms accepts = t.updateTerms others := by
  unfold Table.updateTerms
  apply List.filterMap_congr
  rintro ⟨c, i⟩ member
  by_cases hidden : c.isTransient = true ∨ c.primaryKey = true
  · simp [hidden]
  · rw [not_or, Bool.not_eq_true, Bool.not_eq_true] at hidden
    rcases only _ member hidden.1 hidden.2 with version | chosen
    · simp [show t.version = some i from version]
    · simp [show c = a from chosen, same]

theorem honest_of_one_choice {a : Column}
    (only : ∀ place ∈ t.columns.zipIdx, place.1.isTransient = false → place.1.primaryKey = false →
      t.version = some place.2 ∨ place.1 = a)
    (differ : (Plan.update t d fun _ => true).sql ≠ (Plan.update t d fun _ => false).sql) :
    (rowView t d [fun _ => true, fun _ => false]).Honest R t c d := by
  refine honest_rowBackend (fun accepts => ?_) fun f known g knownToo same => ?_
  · cases chosen : accepts a with
    | true => exact ⟨fun _ => true, by simp, updateTerms_congr only chosen.symm⟩
    | false => exact ⟨fun _ => false, by simp, updateTerms_congr only chosen.symm⟩
  · simp only [List.mem_cons, List.not_mem_nil, or_false] at known knownToo
    rcases known with rfl | rfl <;> rcases knownToo with rfl | rfl
    · rfl
    · exact absurd same differ
    · exact absurd same.symm differ
    · rfl

def eventCells (version : Int64) (c : Column) : Value :=
  if c.fieldName = "id" then .bigInt 5 else if c.fieldName = "at" then .bigInt 0 else .bigInt version

/-- Events with a key that statements do not mention. -/
def hiddenEvents : Table := ((events.change (.column "id" [.transient true])).map (·.table)).toOption.getD events

def hiddenContext : Context := { eventContext with tables := [hiddenEvents] }

def hiddenEvent (version : Int64) : eventType.Values :=
  (IntKind.i64.zero, ⟨0⟩, ⟨version.toInt, version.le_toInt, version.toInt_le⟩, ())

abbrev eventDatabase (t : Table) : Backend := rowBackend t eventContext.dialect [fun _ => true, fun _ => false]

def eventRow (t : Table) : RowView (eventDatabase t) := rowView t eventContext.dialect [fun _ => true, fun _ => false]

def eventMoment : Column := { eventVersion with name := "at", fieldName := "at", path := "at", type := .timestamp }

theorem event_setting : Setting eventContext eventType events eventVersion (eventRow events) where
  registered := rfl
  maps := eventType_maps
  undotted := eventType_undotted
  keyed := by decide
  versioned := events_storesVersion
  wide := ⟨_, rfl, rfl⟩
  noPreHook := rfl
  noPostHook := rfl
  noGetHook := rfl
  noConverter := rfl
  honest := @honest_of_one_choice _ _ _ eventContext.dialect eventMoment (by decide) (by decide)

theorem hidden_setting : Setting hiddenContext eventType hiddenEvents eventVersion (eventRow hiddenEvents) where
  registered := rfl
  maps := by
    have change : events.change (.column "id" [.transient true]) =
        .ok { table := hiddenEvents, column := hiddenEvents.columns[0]? } := rfl
    exact eventType_maps.changed change
  undotted := eventType_undotted
  keyed := by decide
  versioned := ⟨rfl, rfl, rfl⟩
  wide := ⟨_, rfl, rfl⟩
  noPreHook := rfl
  noPostHook := rfl
  noGetHook := rfl
  noConverter := rfl
  honest := @honest_of_one_choice _ _ _ eventContext.dialect eventMoment (by decide) (by decide)

end RowMapper
