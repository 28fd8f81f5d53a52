import Mathlib.Data.List.Basic
import RowMapper.Table.Basic

/-!
# Columns of record types

Flattening gives every column a path that ends in its field's name, and no two columns of the database share a field's
name. As names have no dots, a path belongs to one column alone.
-/

namespace RowMapper

/-- No field has a dot in its name, which would look like a path. -/
def Fields.Undotted : Fields → Prop
  | nil => True
  | column name _ _ rest | transient name _ rest => '.' ∉ name.toList ∧ rest.Undotted
  | embedded name _ inner rest => '.' ∉ name.toList ∧ inner.Undotted ∧ rest.Undotted

def IsParent (parent : String) : Prop := parent = "" ∨ ∃ start, parent = start ++ "."

def Column.Placed (c : Column) : Prop :=
  '.' ∉ c.fieldName.toList ∧ ∃ parent, IsParent parent ∧ c.path = parent ++ c.fieldName

def storedNames (columns : List Column) : List String :=
  (columns.filter (!·.isTransient)).map (·.fieldName)

namespace Column

theorem Placed.lastName {c : Column} (placed : c.Placed) :
    c.path.toList.reverse.takeWhile (· != '.') = c.fieldName.toList.reverse := by
  obtain ⟨undotted, parent, above, path⟩ := placed
  have plain : ∀ x ∈ c.fieldName.toList.reverse, (x != '.') = true := by
    intro x member
    simp only [bne_iff_ne, ne_eq]
    rintro rfl
    exact undotted (List.mem_reverse.mp member)
  rw [path, String.toList_append, List.reverse_append, List.takeWhile_append_of_pos plain]
  rcases above with rfl | ⟨start, rfl⟩
  · exact List.append_nil _
  · simp

theorem Placed.fieldName_eq {c d : Column} (hc : c.Placed) (hd : d.Placed) (same : c.path = d.path) :
    c.fieldName = d.fieldName := by
  have reversed : c.fieldName.toList.reverse = d.fieldName.toList.reverse := by
    rw [← hc.lastName, ← hd.lastName, same]
  exact String.toList_inj.mp (List.reverse_inj.mp reversed)

end Column

/-- A column before any setting: it is transient just as its field is, and no key. -/
structure Column.Unset (c : Column) : Prop where
  transient : c.isTransient = c.declaredTransient
  primaryKey : c.primaryKey = false
  autoIncrement : c.autoIncrement = false

section

variable {c d : Column} {columns inner : List Column}

theorem storedNames_append : storedNames (columns ++ inner) = storedNames columns ++ storedNames inner := by
  unfold storedNames
  rw [List.filter_append, List.map_append]

theorem storedNames_transient (transient : c.isTransient = true) : storedNames [c] = [] := by
  simp [storedNames, transient]

theorem storedNames_stored (stored : c.isTransient = false) : storedNames [c] = [c.fieldName] := by
  simp [storedNames, stored]

theorem repeats_iff : c.repeats columns = true ↔ c.fieldName ∈ storedNames columns := by
  simp [Column.repeats, storedNames, and_assoc]

theorem replaceColumn_cases (c : Column) (columns : List Column) :
    (c.fieldName ∉ storedNames columns ∧ replaceColumn c columns = columns ++ [c]) ∨
      ∃ before d after, columns = before ++ d :: after ∧ d.isTransient = false ∧ d.fieldName = c.fieldName ∧
        replaceColumn c columns = before ++ c :: after := by
  induction columns with
  | nil => exact .inl ⟨List.not_mem_nil, rfl⟩
  | cons d rest ih =>
    unfold replaceColumn
    split
    · rename_i taken
      simp only [Bool.and_eq_true, Bool.not_eq_true', beq_iff_eq] at taken
      exact .inr ⟨[], d, rest, rfl, taken.1, taken.2, rfl⟩
    · rename_i free
      rcases ih with ⟨fresh, added⟩ | ⟨before, e, after, rfl, stored, same, replaced⟩
      · refine .inl ⟨?_, by rw [added]; rfl⟩
        rw [← List.singleton_append, storedNames_append, List.mem_append, not_or]
        refine ⟨fun member => free ?_, fresh⟩
        cases shown : d.isTransient with
        | true => simp [storedNames_transient shown] at member
        | false =>
          rw [storedNames_stored shown, List.mem_singleton] at member
          simp [member]
      · exact .inr ⟨d :: before, e, after, rfl, stored, same, by rw [replaced]; rfl⟩

theorem mem_replaceColumn (member : d ∈ replaceColumn c columns) : d ∈ columns ∨ d = c := by
  rcases replaceColumn_cases c columns with ⟨_, added⟩ | ⟨before, e, after, rfl, _, _, replaced⟩
  · rw [added] at member
    simpa using member
  · rw [replaced] at member
    simp only [List.mem_append, List.mem_cons] at member ⊢
    tauto

theorem mem_embedColumns (member : d ∈ embedColumns columns inner) : d ∈ columns ∨ d ∈ inner := by
  induction inner generalizing columns with
  | nil => exact .inl member
  | cons c rest ih =>
    unfold embedColumns at member
    rcases ih member with old | later
    · split at old
      · exact .inl old
      · rcases List.mem_append.mp old with old | new
        · exact .inl old
        · exact .inr (List.mem_cons.mpr (.inl (List.mem_singleton.mp new)))
    · exact .inr (List.mem_cons_of_mem _ later)

theorem storedNames_append_nodup (distinct : (storedNames columns).Nodup)
    (fresh : c.isTransient = true ∨ c.fieldName ∉ storedNames columns) : (storedNames (columns ++ [c])).Nodup := by
  rw [storedNames_append]
  cases stored : c.isTransient with
  | true =>
    rw [storedNames_transient stored, List.append_nil]
    exact distinct
  | false =>
    have fresh : c.fieldName ∉ storedNames columns := by simpa [stored] using fresh
    rw [storedNames_stored stored, List.nodup_append]
    refine ⟨distinct, List.pairwise_singleton _ _, ?_⟩
    rintro name old last member rfl
    rw [List.mem_singleton.mp member] at old
    exact fresh old

theorem replaceColumn_nodup (distinct : (storedNames columns).Nodup) (stored : c.isTransient = false) :
    (storedNames (replaceColumn c columns)).Nodup := by
  rcases replaceColumn_cases c columns with ⟨fresh, added⟩ | ⟨before, d, after, rfl, shown, same, replaced⟩
  · rw [added]
    exact storedNames_append_nodup distinct (.inr fresh)
  · have names : storedNames (before ++ c :: after) = storedNames (before ++ d :: after) := by
      simp [storedNames, stored, shown, same]
    rw [replaced, names]
    exact distinct

theorem embedColumns_nodup (distinct : (storedNames columns).Nodup) :
    (storedNames (embedColumns columns inner)).Nodup := by
  induction inner generalizing columns with
  | nil => exact distinct
  | cons c rest ih =>
    refine ih ?_
    split
    · exact distinct
    · rename_i kept
      refine storedNames_append_nodup distinct ?_
      cases stored : c.isTransient with
      | true => exact .inl rfl
      | false => exact .inr fun taken => kept (by rw [stored, repeats_iff.mpr taken]; rfl)

end

namespace Fields

variable {fs : Fields} {parent : String} {columns : List Column}

theorem flattenOnto_nodup (distinct : (storedNames columns).Nodup) :
    (storedNames (fs.flattenOnto parent columns)).Nodup := by
  induction fs generalizing parent columns with
  | nil => exact distinct
  | column name tag type rest ih => exact ih (replaceColumn_nodup distinct rfl)
  | transient name type rest ih => exact ih (storedNames_append_nodup distinct (.inl rfl))
  | embedded name recordName inner rest _ ih => exact ih (embedColumns_nodup distinct)

theorem flattenOnto_unset (unset : ∀ c ∈ columns, c.Unset) : ∀ c ∈ fs.flattenOnto parent columns, c.Unset := by
  induction fs generalizing parent columns with
  | nil => exact unset
  | column name tag type rest ih =>
    refine ih fun d member => ?_
    rcases mem_replaceColumn member with old | rfl
    · exact unset d old
    · exact ⟨rfl, rfl, rfl⟩
  | transient name type rest ih =>
    refine ih fun d member => ?_
    rcases List.mem_append.mp member with old | new
    · exact unset d old
    · rw [List.mem_singleton.mp new]
      exact ⟨rfl, rfl, rfl⟩
  | embedded name recordName inner rest innerIh ih =>
    refine ih fun d member => ?_
    rcases mem_embedColumns member with old | new
    · exact unset d old
    · exact innerIh (fun _ member => absurd member List.not_mem_nil) d new

theorem flattenOnto_placed (undotted : fs.Undotted) (above : IsParent parent) (placed : ∀ c ∈ columns, c.Placed) :
    ∀ c ∈ fs.flattenOnto parent columns, c.Placed := by
  induction fs generalizing parent columns with
  | nil => exact placed
  | column name tag type rest ih =>
    refine ih undotted.2 above fun d member => ?_
    rcases mem_replaceColumn member with old | rfl
    · exact placed d old
    · exact ⟨undotted.1, parent, above, rfl⟩
  | transient name type rest ih =>
    refine ih undotted.2 above fun d member => ?_
    rcases List.mem_append.mp member with old | new
    · exact placed d old
    · rw [List.mem_singleton.mp new]
      exact ⟨undotted.1, parent, above, rfl⟩
  | embedded name recordName inner rest innerIh ih =>
    refine ih undotted.2.2 above fun d member => ?_
    rcases mem_embedColumns member with old | new
    · exact placed d old
    · have inside : IsParent (parent ++ name ++ ".") := .inr ⟨parent ++ name, rfl⟩
      exact innerIh undotted.2.1 inside (fun _ member => absurd member List.not_mem_nil) d new

theorem columns_nodup (fs : Fields) : (storedNames fs.columns).Nodup := flattenOnto_nodup List.nodup_nil

theorem columns_unset (fs : Fields) : ∀ c ∈ fs.columns, c.Unset :=
  flattenOnto_unset fun _ member => absurd member List.not_mem_nil

theorem columns_placed (undotted : fs.Undotted) : ∀ c ∈ fs.columns, c.Placed :=
  flattenOnto_placed undotted (.inl rfl) fun _ member => absurd member List.not_mem_nil

end Fields

end RowMapper
