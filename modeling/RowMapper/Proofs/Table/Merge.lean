import RowMapper.Proofs.Table.Flatten

/-!
# The merge rule

What flattening keeps and which leaf wins, said without the passes that compute it. All transient leaves stay. Any other
stays where its field name comes first, and there the winner of that name stands: the last own column, or else the
winner in the first embedded record that has the name.
-/

namespace RowMapper

/-- The path of a field below embedded records, the outermost first. -/
def dotted (chain : List String) (name : String) : String :=
  chain.foldr (fun parent path => parent ++ "." ++ path) name

theorem dotted_append (chain : List String) (parent name : String) :
    dotted (chain ++ [parent]) name = dotted chain (parent ++ "." ++ name) := by
  simp [dotted]

/-- The transient columns, and of any others those whose field name is neither taken nor seen before. -/
def firstOfName (taken : List String) : List Column → List Column
  | [] => []
  | c :: rest =>
    if c.isTransient then c :: firstOfName taken rest
    else if c.fieldName ∈ taken then firstOfName taken rest
    else c :: firstOfName (c.fieldName :: taken) rest

namespace Fields

/-- The columns of all leaves, depth first in order, before any are merged. -/
def unmerged (chain : List String) : Fields → List Column
  | nil => []
  | column name tag type rest =>
    .ofColumn name tag (dotted chain name) type.semantic type.nullable :: rest.unmerged chain
  | transient name _ rest => .ofTransient name (dotted chain name) :: rest.unmerged chain
  | embedded name _ inner rest => inner.unmerged (chain ++ [name]) ++ rest.unmerged chain

def lastOwn? (chain : List String) (field : String) : Fields → Option Column
  | nil => none
  | column name tag type rest =>
    (rest.lastOwn? chain field).or
      (if name = field then some (.ofColumn name tag (dotted chain name) type.semantic type.nullable) else none)
  | transient _ _ rest | embedded _ _ _ rest => rest.lastOwn? chain field

/-- The winner in the first embedded record that has a field name. -/
def firstEmbedded? (chain : List String) (field : String) : Fields → Option Column
  | nil => none
  | column _ _ _ rest | transient _ _ rest => rest.firstEmbedded? chain field
  | embedded name _ inner rest =>
    if field ∈ storedNames (inner.unmerged (chain ++ [name])) then
      (inner.lastOwn? (chain ++ [name]) field).or (inner.firstEmbedded? (chain ++ [name]) field)
    else rest.firstEmbedded? chain field

/-- The column that stands for a field name. -/
def winner? (chain : List String) (field : String) (fs : Fields) : Option Column :=
  (fs.lastOwn? chain field).or (fs.firstEmbedded? chain field)

end Fields

section

variable {c d : Column} {columns inner : List Column} {taken more : List String} {field : String}

theorem storedNames_cons : storedNames (c :: columns) = storedNames [c] ++ storedNames columns := by
  rw [← List.singleton_append, storedNames_append]

theorem mem_storedNames : field ∈ storedNames columns ↔ ∃ c ∈ columns, c.isTransient = false ∧ c.fieldName = field := by
  simp [storedNames, and_assoc]

theorem firstOfName_congr (same : ∀ n, n ∈ taken ↔ n ∈ more) :
    firstOfName taken columns = firstOfName more columns := by
  induction columns generalizing taken more with
  | nil => rfl
  | cons c rest ih =>
    have grown : ∀ n, n ∈ c.fieldName :: taken ↔ n ∈ c.fieldName :: more := by
      intro n
      rw [List.mem_cons, List.mem_cons, same]
    simp only [firstOfName, same, ih same, ih grown]

/-- Names that are taken from the start are those that are left out at the end. -/
theorem firstOfName_append_taken :
    firstOfName (more ++ taken) columns =
      (firstOfName taken columns).filter fun c => c.isTransient || c.fieldName ∉ more := by
  induction columns generalizing taken with
  | nil => rfl
  | cons c rest ih =>
    have moved : firstOfName (c.fieldName :: (more ++ taken)) rest = firstOfName (more ++ c.fieldName :: taken) rest :=
      firstOfName_congr fun n => by simp [or_left_comm]
    cases hidden : c.isTransient with
    | true => simp [firstOfName, hidden, ih]
    | false =>
      by_cases old : c.fieldName ∈ taken
      · simp [firstOfName, hidden, old, ih]
      · by_cases added : c.fieldName ∈ more
        · have held : firstOfName (more ++ c.fieldName :: taken) rest = firstOfName (more ++ taken) rest :=
            firstOfName_congr fun n => by
              simp only [List.mem_append, List.mem_cons]
              exact ⟨fun member => by rcases member with h | rfl | h <;> tauto, fun member => by tauto⟩
          simp only [firstOfName, hidden, added, old, List.mem_append, or_false, if_true, Bool.false_eq_true, if_false,
            List.filter_cons, Bool.false_or, not_true_eq_false, decide_false, ← ih, held]
        · simp [firstOfName, hidden, old, added, moved, ih]

theorem firstOfName_append :
    firstOfName taken (columns ++ inner) =
      firstOfName taken columns ++ firstOfName (storedNames columns ++ taken) inner := by
  induction columns generalizing taken with
  | nil => rfl
  | cons c rest ih =>
    rw [storedNames_cons, List.cons_append]
    cases hidden : c.isTransient with
    | true =>
      simp only [firstOfName, hidden, if_true, ih, storedNames_transient hidden, List.nil_append, List.cons_append]
    | false =>
      rw [storedNames_stored hidden]
      by_cases old : c.fieldName ∈ taken
      · have held : firstOfName (storedNames rest ++ taken) inner =
            firstOfName ([c.fieldName] ++ storedNames rest ++ taken) inner :=
          firstOfName_congr fun n => by
            simp only [List.mem_append, List.mem_cons, List.not_mem_nil, or_false]
            exact ⟨fun member => by tauto, fun member => by rcases member with (rfl | h) | h <;> tauto⟩
        simp only [firstOfName, hidden, old, if_true, Bool.false_eq_true, if_false, ih, held]
      · have moved : firstOfName (storedNames rest ++ c.fieldName :: taken) inner =
            firstOfName ([c.fieldName] ++ storedNames rest ++ taken) inner :=
          firstOfName_congr fun n => by simp [or_left_comm]
        simp only [firstOfName, hidden, old, Bool.false_eq_true, if_false, ih, moved, List.cons_append]

theorem firstOfName_cons_fresh (shown : c.isTransient = false) (fresh : c.fieldName ∉ storedNames columns) :
    firstOfName (storedNames columns) (c :: inner) = c :: firstOfName (storedNames (columns ++ [c])) inner := by
  have grown : ∀ n, n ∈ c.fieldName :: storedNames columns ↔ n ∈ storedNames (columns ++ [c]) := by
    simp [storedNames_append, storedNames_stored shown, or_comm]
  simp [firstOfName, shown, fresh, firstOfName_congr grown]

theorem mem_storedNames_firstOfName :
    field ∈ storedNames (firstOfName taken columns) ↔ field ∈ storedNames columns ∧ field ∉ taken := by
  induction columns generalizing taken with
  | nil => simp [firstOfName, storedNames]
  | cons c rest ih =>
    rw [storedNames_cons, List.mem_append]
    cases hidden : c.isTransient with
    | true =>
      simp only [firstOfName, hidden, if_true]
      rw [storedNames_cons, List.mem_append, storedNames_transient hidden, ih]
      simp
    | false =>
      rw [storedNames_stored hidden, List.mem_singleton]
      by_cases old : c.fieldName ∈ taken
      · simp only [firstOfName, hidden, old, if_true, Bool.false_eq_true, if_false, ih]
        constructor
        · tauto
        · rintro ⟨rfl | later, fresh⟩
          · exact absurd old fresh
          · exact ⟨later, fresh⟩
      · simp only [firstOfName, hidden, old, Bool.false_eq_true, if_false]
        rw [storedNames_cons, List.mem_append, storedNames_stored hidden, List.mem_singleton, ih, List.mem_cons, not_or]
        constructor
        · rintro (rfl | ⟨later, _, fresh⟩)
          · exact ⟨.inl rfl, old⟩
          · exact ⟨.inr later, fresh⟩
        · rintro ⟨rfl | later, fresh⟩
          · exact .inl rfl
          · by_cases same : field = c.fieldName
            · exact .inl same
            · exact .inr ⟨later, same, fresh⟩

theorem filter_transient_firstOfName :
    (firstOfName taken columns).filter (·.isTransient) = columns.filter (·.isTransient) := by
  induction columns generalizing taken with
  | nil => rfl
  | cons c rest ih =>
    unfold firstOfName
    split
    · rename_i hidden
      rw [List.filter_cons_of_pos hidden, List.filter_cons_of_pos hidden, ih]
    · rename_i shown
      rw [List.filter_cons_of_neg shown]
      split
      · exact ih
      · rw [List.filter_cons_of_neg shown, ih]

theorem mem_of_mem_firstOfName (member : c ∈ firstOfName taken columns) :
    c ∈ columns ∧ (c.isTransient = false → c.fieldName ∉ taken) := by
  induction columns generalizing taken with
  | nil => exact absurd member List.not_mem_nil
  | cons d rest ih =>
    unfold firstOfName at member
    split at member
    · rename_i hidden
      rcases List.mem_cons.mp member with rfl | later
      · exact ⟨List.mem_cons_self, fun shown => absurd (hidden.symm.trans shown) (by decide)⟩
      · exact ⟨List.mem_cons_of_mem _ (ih later).1, (ih later).2⟩
    · split at member
      · exact ⟨List.mem_cons_of_mem _ (ih member).1, (ih member).2⟩
      · rename_i fresh
        rcases List.mem_cons.mp member with rfl | later
        · exact ⟨List.mem_cons_self, fun _ => fresh⟩
        · exact ⟨List.mem_cons_of_mem _ (ih later).1, fun shown taken =>
            (ih later).2 shown (List.mem_cons_of_mem _ taken)⟩

theorem embedColumns_eq (distinct : (storedNames inner).Nodup) :
    embedColumns columns inner =
      columns ++ inner.filter fun c => c.isTransient || c.fieldName ∉ storedNames columns := by
  induction inner generalizing columns with
  | nil => exact (List.append_nil _).symm
  | cons c rest ih =>
    rw [storedNames_cons] at distinct
    have later : (storedNames rest).Nodup := (List.nodup_append.mp distinct).2.1
    unfold embedColumns
    rw [ih later]
    cases hidden : c.isTransient with
    | true => simp [hidden, storedNames_append, storedNames_transient hidden]
    | false =>
      by_cases taken : c.fieldName ∈ storedNames columns
      · simp [hidden, taken, repeats_iff.mpr taken]
      · have free : c.repeats columns = false := by rw [Bool.eq_false_iff, ne_eq, repeats_iff]; exact taken
        have others : ∀ d ∈ rest, d.isTransient = false → d.fieldName ≠ c.fieldName := by
          intro d member shown same
          have again : c.fieldName ∈ storedNames rest := mem_storedNames.mpr ⟨d, member, shown, same⟩
          rw [storedNames_stored hidden] at distinct
          exact (List.nodup_append.mp distinct).2.2 _ (List.mem_singleton_self _) _ again rfl
        have unchanged : rest.filter (fun d => d.isTransient || d.fieldName ∉ storedNames (columns ++ [c])) =
            rest.filter fun d => d.isTransient || d.fieldName ∉ storedNames columns := by
          apply List.filter_congr
          intro d member
          cases shown : d.isTransient with
          | true => rfl
          | false => simp [storedNames_append, storedNames_stored hidden, others d member shown]
        simpa [hidden, taken, free] using unchanged

theorem map_replace_fresh (fresh : c.fieldName ∉ storedNames columns) :
    columns.map (fun d => if !d.isTransient && d.fieldName == c.fieldName then c else d) = columns := by
  have kept : ∀ d ∈ columns, (if !d.isTransient && d.fieldName == c.fieldName then c else d) = d := by
    intro d member
    refine if_neg fun repeated => fresh ?_
    simp only [Bool.and_eq_true, Bool.not_eq_true', beq_iff_eq] at repeated
    exact mem_storedNames.mpr ⟨d, member, repeated⟩
  exact (List.map_congr_left kept).trans (List.map_id columns)

theorem replaceColumn_map (distinct : (storedNames columns).Nodup) (taken : c.fieldName ∈ storedNames columns) :
    replaceColumn c columns = columns.map fun d => if !d.isTransient && d.fieldName == c.fieldName then c else d := by
  induction columns with
  | nil => exact absurd taken List.not_mem_nil
  | cons d rest ih =>
    rw [storedNames_cons] at distinct taken
    obtain ⟨_, later, apart⟩ := List.nodup_append.mp distinct
    unfold replaceColumn
    rw [List.map_cons]
    split
    · rename_i repeated
      simp only [Bool.and_eq_true, Bool.not_eq_true', beq_iff_eq] at repeated
      have fresh : c.fieldName ∉ storedNames rest := fun again =>
        apart d.fieldName (by simp [storedNames_stored repeated.1]) c.fieldName again repeated.2
      rw [map_replace_fresh fresh]
    · rename_i other
      have below : c.fieldName ∈ storedNames rest := by
        refine (List.mem_append.mp taken).resolve_left fun here => other ?_
        obtain ⟨e, member, shown, same⟩ := mem_storedNames.mp here
        rw [List.mem_singleton.mp member] at shown same
        simp [shown, same]
      rw [ih later below]

theorem storedNames_replaceColumn (stored : c.isTransient = false) (taken : c.fieldName ∈ storedNames columns) :
    storedNames (replaceColumn c columns) = storedNames columns := by
  rcases replaceColumn_cases c columns with ⟨fresh, _⟩ | ⟨before, d, after, rfl, shown, same, replaced⟩
  · exact absurd taken fresh
  · rw [replaced]
    simp [storedNames, stored, shown, same]

theorem replaceColumn_fresh (fresh : c.fieldName ∉ storedNames columns) : replaceColumn c columns = columns ++ [c] := by
  rcases replaceColumn_cases c columns with ⟨_, added⟩ | ⟨before, d, after, rfl, shown, same, _⟩
  · exact added
  · exact absurd (mem_storedNames.mpr ⟨d, by simp, shown, same⟩) fresh

end

/-- A column, or for one of the database the column that stands for its field name. -/
def Column.standIn (winner : String → Option Column) (c : Column) : Column :=
  if c.isTransient then c else (winner c.fieldName).getD c

namespace Fields

variable {fs inner rest : Fields} {chain : List String} {field name : String} {columns : List Column} {c : Column}

theorem mem_storedNames_unmerged_column {tag : Option String} {type : NativeType} :
    field ∈ storedNames ((column name tag type rest).unmerged chain) ↔
      field = name ∨ field ∈ storedNames (rest.unmerged chain) := by
  rw [unmerged, storedNames_cons, List.mem_append, storedNames_stored rfl, List.mem_singleton]
  rfl

theorem mem_storedNames_unmerged_embedded {recordName : String} :
    field ∈ storedNames ((embedded name recordName inner rest).unmerged chain) ↔
      field ∈ storedNames (inner.unmerged (chain ++ [name])) ∨ field ∈ storedNames (rest.unmerged chain) := by
  rw [unmerged, storedNames_append, List.mem_append]

theorem unmerged_transient_storedNames {type : NativeType} :
    storedNames ((transient name type rest).unmerged chain) = storedNames (rest.unmerged chain) := by
  rw [unmerged, storedNames_cons, storedNames_transient rfl, List.nil_append]

theorem lastOwn?_leaf (found : fs.lastOwn? chain field = some c) :
    c.isTransient = false ∧ c.fieldName = field ∧ c ∈ fs.unmerged chain := by
  induction fs with
  | nil => cases found
  | column name tag type rest ih =>
    rcases Option.or_eq_some_iff.mp found with later | ⟨_, here⟩
    · obtain ⟨shown, named, member⟩ := ih later
      exact ⟨shown, named, List.mem_cons_of_mem _ member⟩
    · split at here
      · rename_i same
        cases here
        exact ⟨rfl, same, List.mem_cons_self⟩
      · cases here
  | transient name type rest ih =>
    obtain ⟨shown, named, member⟩ := ih found
    exact ⟨shown, named, List.mem_cons_of_mem _ member⟩
  | embedded name recordName inner rest _ ih =>
    obtain ⟨shown, named, member⟩ := ih found
    exact ⟨shown, named, List.mem_append.mpr (.inr member)⟩

theorem winner?_leaf (found : fs.winner? chain field = some c) :
    c.isTransient = false ∧ c.fieldName = field ∧ c ∈ fs.unmerged chain := by
  refine (Option.or_eq_some_iff.mp found).elim lastOwn?_leaf fun embedded => ?_
  replace found := embedded.2
  clear embedded
  induction fs generalizing chain with
  | nil => cases found
  | column name tag type rest ih | transient name type rest ih =>
    obtain ⟨shown, named, member⟩ := ih found
    exact ⟨shown, named, List.mem_cons_of_mem _ member⟩
  | embedded name recordName inner rest innerIh ih =>
    unfold firstEmbedded? at found
    split at found
    · obtain ⟨shown, named, member⟩ :
          c.isTransient = false ∧ c.fieldName = field ∧ c ∈ inner.unmerged (chain ++ [name]) :=
        (Option.or_eq_some_iff.mp found).elim lastOwn?_leaf fun deeper => innerIh deeper.2
      exact ⟨shown, named, List.mem_append.mpr (.inl member)⟩
    · obtain ⟨shown, named, member⟩ := ih found
      exact ⟨shown, named, List.mem_append.mpr (.inr member)⟩

theorem winner?_inside {recordName : String} (inside : field ∈ storedNames (inner.unmerged (chain ++ [name]))) :
    (embedded name recordName inner rest).winner? chain field =
      (rest.lastOwn? chain field).or (inner.winner? (chain ++ [name]) field) :=
  congrArg (rest.lastOwn? chain field).or (if_pos inside)

theorem winner?_outside {recordName : String} (outside : field ∉ storedNames (inner.unmerged (chain ++ [name]))) :
    (embedded name recordName inner rest).winner? chain field = rest.winner? chain field :=
  congrArg (rest.lastOwn? chain field).or (if_neg outside)

theorem winner?_isSome : (fs.winner? chain field).isSome ↔ field ∈ storedNames (fs.unmerged chain) := by
  induction fs generalizing chain with
  | nil => simp [winner?, lastOwn?, firstEmbedded?, unmerged, storedNames]
  | column name tag type rest ih =>
    rw [mem_storedNames_unmerged_column, ← ih]
    by_cases same : name = field
    · simp [winner?, lastOwn?, same]
    · simp [winner?, lastOwn?, firstEmbedded?, same, Ne.symm same]
  | transient name type rest ih =>
    rw [unmerged_transient_storedNames, ← ih]
    rfl
  | embedded name recordName inner rest innerIh ih =>
    rw [mem_storedNames_unmerged_embedded]
    by_cases inside : field ∈ storedNames (inner.unmerged (chain ++ [name]))
    · rw [winner?_inside inside, Option.isSome_or, innerIh.mpr inside, Bool.or_true]
      simp [inside]
    · rw [winner?_outside inside, ih]
      simp [inside]

theorem winner?_column_other {tag : Option String} {type : NativeType} (other : name ≠ field) :
    (column name tag type rest).winner? chain field = rest.winner? chain field := by
  simp [winner?, lastOwn?, firstEmbedded?, other]

end Fields

section

variable {winner other : String → Option Column} {c : Column}

theorem standIn_congr (same : c.isTransient = false → winner c.fieldName = other c.fieldName) :
    c.standIn winner = c.standIn other := by
  unfold Column.standIn
  split
  · rfl
  · rename_i shown
    rw [same (by simpa using shown)]

variable (named : ∀ n d, winner n = some d → d.isTransient = false ∧ d.fieldName = n)

include named

theorem standIn_like : (c.standIn winner).isTransient = c.isTransient ∧ (c.standIn winner).fieldName = c.fieldName := by
  unfold Column.standIn
  split
  · exact ⟨rfl, rfl⟩
  · rename_i shown
    cases found : winner c.fieldName with
    | none => exact ⟨rfl, rfl⟩
    | some d => simpa [shown] using named _ _ found

theorem storedNames_map_standIn {columns : List Column} :
    storedNames (columns.map (Column.standIn winner)) = storedNames columns := by
  unfold storedNames
  rw [List.filter_map, List.map_map]
  congr 1
  · exact funext fun c => (standIn_like named).2
  · exact congrArg (List.filter · columns) (funext fun c => congrArg (!·) (standIn_like named).1)

end

namespace Fields

variable {fs inner rest : Fields} {chain : List String} {parent name recordName : String} {tag : Option String}
  {type : NativeType} {columns : List Column} {c : Column} {taken : List String}

theorem standIn_lastOwn?_same (shown : c.isTransient = false) (same : c.fieldName = name) :
    c.standIn (fun n => (column name tag type rest).lastOwn? chain n) =
      (Column.ofColumn name tag (dotted chain name) type.semantic type.nullable).standIn
        fun n => rest.lastOwn? chain n := by
  simp [Column.standIn, Column.ofColumn, lastOwn?, shown, same]

theorem standIn_lastOwn?_other (other : c.isTransient = true ∨ c.fieldName ≠ name) :
    c.standIn (fun n => (column name tag type rest).lastOwn? chain n) = c.standIn fun n => rest.lastOwn? chain n := by
  refine standIn_congr fun shown => ?_
  have differs : name ≠ c.fieldName := by simpa [shown, eq_comm] using other
  simp [lastOwn?, differs]

theorem standIn_winner?_own :
    (Column.ofColumn name tag (dotted chain name) type.semantic type.nullable).standIn
        (fun n => (column name tag type rest).winner? chain n) =
      (Column.ofColumn name tag (dotted chain name) type.semantic type.nullable).standIn
        fun n => rest.lastOwn? chain n := by
  simp [Column.standIn, Column.ofColumn, winner?, lastOwn?]

theorem standIn_winner?_column (seen : name ∈ taken) (kept : c ∈ firstOfName taken (rest.unmerged chain)) :
    c.standIn (fun n => (column name tag type rest).winner? chain n) = c.standIn fun n => rest.winner? chain n := by
  refine standIn_congr fun shown => winner?_column_other ?_
  rintro rfl
  exact (mem_of_mem_firstOfName kept).2 shown seen

theorem standIn_winner?_inner (kept : c ∈ firstOfName taken (inner.unmerged (chain ++ [name]))) :
    c.standIn (fun n => (embedded name recordName inner rest).winner? chain n) =
      (c.standIn fun n => inner.winner? (chain ++ [name]) n).standIn fun n => rest.lastOwn? chain n := by
  cases shown : c.isTransient with
  | true => simp [Column.standIn, shown]
  | false =>
    have inside : c.fieldName ∈ storedNames (inner.unmerged (chain ++ [name])) :=
      mem_storedNames.mpr ⟨c, (mem_of_mem_firstOfName kept).1, shown, rfl⟩
    obtain ⟨d, won⟩ := Option.isSome_iff_exists.mp (winner?_isSome.mpr inside)
    obtain ⟨stored, named, _⟩ := winner?_leaf won
    simp [Column.standIn, shown, winner?_inside inside, won, stored, named]

theorem standIn_winner?_outer (seen : ∀ n ∈ storedNames (inner.unmerged (chain ++ [name])), n ∈ taken)
    (kept : c ∈ firstOfName taken (rest.unmerged chain)) :
    c.standIn (fun n => (embedded name recordName inner rest).winner? chain n) =
      c.standIn fun n => rest.winner? chain n :=
  standIn_congr fun shown => winner?_outside fun inside => (mem_of_mem_firstOfName kept).2 shown (seen _ inside)

theorem map_standIn_replaceColumn (distinct : (storedNames columns).Nodup)
    (taken : (Column.ofColumn name tag (dotted chain name) type.semantic type.nullable).fieldName ∈
      storedNames columns) :
    (replaceColumn (Column.ofColumn name tag (dotted chain name) type.semantic type.nullable) columns).map
        (Column.standIn fun n => rest.lastOwn? chain n) =
      columns.map (Column.standIn fun n => (column name tag type rest).lastOwn? chain n) := by
  rw [replaceColumn_map distinct taken, List.map_map]
  refine List.map_congr_left fun c _ => ?_
  rw [Function.comp_apply]
  split
  · rename_i repeated
    simp only [Bool.and_eq_true, Bool.not_eq_true', beq_iff_eq] at repeated
    exact (standIn_lastOwn?_same repeated.1 repeated.2).symm
  · rename_i other
    exact (standIn_lastOwn?_other (by simpa [or_iff_not_imp_left, Column.ofColumn] using other)).symm

/-- Flattening follows the rule whatever columns are there before: own fields replace among these, and what is added
stands as its winner. -/
def Merges (fs : Fields) : Prop :=
  ∀ ⦃chain : List String⦄ ⦃parent : String⦄ ⦃columns : List Column⦄, (∀ s, parent ++ s = dotted chain s) →
    (storedNames columns).Nodup →
    fs.flattenOnto parent columns =
      columns.map (Column.standIn fun n => fs.lastOwn? chain n) ++
        (firstOfName (storedNames columns) (fs.unmerged chain)).map (Column.standIn fun n => fs.winner? chain n)

theorem Merges.nil : Fields.nil.Merges := by
  intro chain parent columns _ _
  have kept : ∀ c ∈ columns, c.standIn (fun n => Fields.nil.lastOwn? chain n) = id c := fun c _ => by
    simp [Column.standIn, lastOwn?]
  rw [List.map_congr_left kept]
  simp [flattenOnto, unmerged, firstOfName]

theorem Merges.column (later : rest.Merges) : (column name tag type rest).Merges := by
  intro chain parent columns path distinct
  generalize isOwn : Column.ofColumn name tag (dotted chain name) type.semantic type.nullable = own
  have shown : own.isTransient = false := by rw [← isOwn]; rfl
  have named : own.fieldName = name := by rw [← isOwn]; rfl
  have leaves : (Fields.column name tag type rest).unmerged chain = own :: rest.unmerged chain := by
    rw [unmerged, isOwn]
  rw [flattenOnto, path, isOwn, later path (replaceColumn_nodup distinct shown), leaves]
  -- The own column takes the place of one with its name, or is the first with it.
  by_cases taken : own.fieldName ∈ storedNames columns
  · have replaced : (replaceColumn own columns).map (Column.standIn fun n => rest.lastOwn? chain n) =
        columns.map (Column.standIn fun n => (Fields.column name tag type rest).lastOwn? chain n) :=
      isOwn ▸ map_standIn_replaceColumn distinct (isOwn ▸ taken)
    have left : firstOfName (storedNames columns) (own :: rest.unmerged chain) =
        firstOfName (storedNames columns) (rest.unmerged chain) := by
      simp [firstOfName, shown, taken]
    rw [replaced, storedNames_replaceColumn shown taken, left]
    congr 1
    exact List.map_congr_left fun c kept => (standIn_winner?_column (named ▸ taken) kept).symm
  · have others : columns.map (Column.standIn fun n => rest.lastOwn? chain n) =
        columns.map (Column.standIn fun n => (Fields.column name tag type rest).lastOwn? chain n) := by
      refine List.map_congr_left fun c member => (standIn_lastOwn?_other ?_).symm
      refine or_iff_not_imp_left.mpr fun stored same => taken ?_
      exact mem_storedNames.mpr ⟨c, member, by simpa using stored, same.trans named.symm⟩
    have added : firstOfName (storedNames columns) (own :: rest.unmerged chain) =
        own :: firstOfName (storedNames (columns ++ [own])) (rest.unmerged chain) := firstOfName_cons_fresh shown taken
    have last : own.standIn (fun n => (Fields.column name tag type rest).winner? chain n) =
        own.standIn fun n => rest.lastOwn? chain n := isOwn ▸ standIn_winner?_own
    have seen : name ∈ storedNames (columns ++ [own]) := by
      simp [storedNames_append, storedNames_stored shown, named]
    simp only [replaceColumn_fresh taken, List.map_append, others, added, List.map_cons, List.map_nil, last,
      List.append_assoc, List.cons_append, List.nil_append]
    congr 2
    exact List.map_congr_left fun c kept => (standIn_winner?_column seen kept).symm

theorem Merges.transient (later : rest.Merges) : (transient name type rest).Merges := by
  intro chain parent columns path distinct
  rw [flattenOnto, path, later path (storedNames_append_nodup distinct (.inl rfl)), storedNames_append,
    storedNames_transient rfl, List.append_nil, List.map_append, List.append_assoc, unmerged]
  rfl

theorem Merges.embedded (inside : inner.Merges) (later : rest.Merges) :
    (embedded name recordName inner rest).Merges := by
  intro chain parent columns path distinct
  have below : ∀ s, parent ++ name ++ "." ++ s = dotted (chain ++ [name]) s := by
    intro s
    rw [dotted_append, ← path, String.append_assoc, String.append_assoc, String.append_assoc]
  have distinctNil : (storedNames []).Nodup := List.nodup_nil
  have named : ∀ n d, inner.winner? (chain ++ [name]) n = some d → d.isTransient = false ∧ d.fieldName = n :=
    fun n d found => ⟨(winner?_leaf found).1, (winner?_leaf found).2.1⟩
  have won := inside below distinctNil
  rw [List.map_nil, List.nil_append] at won
  -- The record inside is merged on its own, so its names are taken twice: among themselves and against the columns.
  let added := (firstOfName (storedNames columns) (inner.unmerged (chain ++ [name]))).map
    (Column.standIn fun n => inner.winner? (chain ++ [name]) n)
  have grown : embedColumns columns (inner.flattenOnto (parent ++ name ++ ".") []) = columns ++ added := by
    have fresh : firstOfName (storedNames columns ++ []) (inner.unmerged (chain ++ [name])) = _ :=
      firstOfName_append_taken
    rw [List.append_nil] at fresh
    rw [embedColumns_eq (flattenOnto_nodup distinctNil), won, List.filter_map]
    simp only [added, fresh, Function.comp_def, standIn_like named]
    rfl
  have names : storedNames (columns ++ added) = storedNames columns ++
      storedNames (firstOfName (storedNames columns) (inner.unmerged (chain ++ [name]))) := by
    rw [storedNames_append, storedNames_map_standIn named]
  have seen : ∀ n, n ∈ storedNames (columns ++ added) ↔
      n ∈ storedNames (inner.unmerged (chain ++ [name])) ++ storedNames columns := by
    intro n
    rw [names, List.mem_append, List.mem_append, mem_storedNames_firstOfName]
    tauto
  rw [flattenOnto, grown, later path (grown ▸ embedColumns_nodup distinct), unmerged, firstOfName_append,
    List.map_append, List.map_append, firstOfName_congr seen, List.append_assoc, List.map_map]
  congr 2
  · exact List.map_congr_left fun c kept => (standIn_winner?_inner kept).symm
  · exact List.map_congr_left fun c kept => (standIn_winner?_outer (fun n => List.mem_append_left _) kept).symm

theorem merges (fs : Fields) : fs.Merges := by
  induction fs with
  | nil => exact .nil
  | column name tag type rest later => exact .column later
  | transient name type rest later => exact .transient later
  | embedded name recordName inner rest inside later => exact .embedded inside later

theorem columns_eq (fs : Fields) :
    fs.columns = (firstOfName [] (fs.unmerged [])).map (Column.standIn fun n => fs.winner? [] n) :=
  fs.merges (fun _ => String.empty_append) List.nodup_nil

/-- The columns of a record type are its leaves in order: all transient ones, and of each other field name the winner
where that name comes first. So no name is there twice and none is lost. -/
theorem columns_merge (fs : Fields) :
    fs.columns.map some =
        (firstOfName [] (fs.unmerged [])).map (fun c => if c.isTransient then some c else fs.winner? [] c.fieldName) ∧
      (storedNames fs.columns).Nodup ∧
      (∀ n, n ∈ storedNames fs.columns ↔ n ∈ storedNames (fs.unmerged [])) ∧
      fs.columns.filter (·.isTransient) = (fs.unmerged []).filter (·.isTransient) ∧
      ∀ c ∈ fs.columns, c ∈ fs.unmerged [] := by
  have named : ∀ n d, fs.winner? [] n = some d → d.isTransient = false ∧ d.fieldName = n :=
    fun n d found => ⟨(winner?_leaf found).1, (winner?_leaf found).2.1⟩
  refine ⟨?_, fs.columns_nodup, fun n => ?_, ?_, fun c member => ?_⟩
  · rw [columns_eq, List.map_map]
    refine List.map_congr_left fun c kept => ?_
    cases shown : c.isTransient with
    | true => simp [Column.standIn, shown]
    | false =>
      have leaf : c.fieldName ∈ storedNames (fs.unmerged []) :=
        mem_storedNames.mpr ⟨c, (mem_of_mem_firstOfName kept).1, shown, rfl⟩
      obtain ⟨d, won⟩ := Option.isSome_iff_exists.mp (winner?_isSome.mpr leaf)
      simp [Column.standIn, shown, won]
  · rw [columns_eq, storedNames_map_standIn named, mem_storedNames_firstOfName]
    simp
  · have hidden : ∀ c ∈ (firstOfName [] (fs.unmerged [])).filter (·.isTransient),
        c.standIn (fun n => fs.winner? [] n) = id c := fun c member => if_pos (List.mem_filter.mp member).2
    rw [columns_eq, List.filter_map]
    simp only [Function.comp_def, standIn_like named]
    rw [List.map_congr_left hidden, List.map_id, filter_transient_firstOfName]
  · rw [columns_eq] at member
    obtain ⟨d, kept, rfl⟩ := List.mem_map.mp member
    unfold Column.standIn
    split
    · exact (mem_of_mem_firstOfName kept).1
    · cases won : fs.winner? [] d.fieldName with
      | none => simpa [won] using (mem_of_mem_firstOfName kept).1
      | some e => simpa [won] using (winner?_leaf won).2.2

/-- An own field after an embedded record takes the place of that record's field, with its own path and name. -/
example :
    (embedded "base" "Base" (.column "id" none (.int .i64) (.transient "cache" .text .nil))
      (.column "note" none .text (.column "id" (some "ID") (.int .i64) .nil))).columns.map
        (fun c => (c.path, c.name)) = [("id", "ID"), ("base.cache", "-"), ("note", "note")] := by
  decide

end Fields

end RowMapper
