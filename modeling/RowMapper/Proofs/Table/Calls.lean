import RowMapper.Table.Basic

/-!
# Calls on tables

Each call on a table that is not refused does one thing to it: a relation says which, exactly. What every call keeps,
any number of calls keep.
-/

namespace RowMapper

theorem except_bind_ok {ε α β : Type} {x : Except ε α} {f : α → Except ε β} {b : β} (h : x >>= f = .ok b) :
    ∃ a, x = .ok a ∧ f a = .ok b := by
  cases x with
  | error e => cases h
  | ok a => exact ⟨a, rfl, h⟩

theorem except_map_ok {ε α β : Type} {x : Except ε α} {f : α → β} {b : β} (h : x.map f = .ok b) :
    ∃ a, x = .ok a ∧ b = f a := by
  cases x with
  | error e => cases h
  | ok a =>
    cases h
    exact ⟨a, rfl, rfl⟩

theorem except_mapM_ok_iff {ε α β : Type} {f : α → Except ε β} {xs : List α} {ys : List β} :
    xs.mapM f = .ok ys ↔ xs.map f = ys.map .ok := by
  constructor
  · intro mapped
    induction xs generalizing ys with
    | nil =>
      cases mapped
      rfl
    | cons x rest ih =>
      rw [List.mapM_cons] at mapped
      obtain ⟨y, first, mapped⟩ := except_bind_ok mapped
      obtain ⟨others, later, mapped⟩ := except_bind_ok mapped
      cases mapped
      rw [List.map_cons, List.map_cons, first, ih later]
  · intro each
    induction xs generalizing ys with
    | nil =>
      rw [List.map_eq_nil_iff.mp each.symm]
      rfl
    | cons x rest ih =>
      obtain ⟨y, others, rfl, first, later⟩ := List.map_eq_cons_iff.mp each.symm
      rw [List.mapM_cons, ← first, ih later.symm]
      rfl

/-- A traversal fails as the first of its steps that fails. -/
theorem except_mapM_error_iff {ε α β : Type} {f : α → Except ε β} {xs : List α} {e : ε} :
    xs.mapM f = .error e ↔
      ∃ before x after, xs = before ++ x :: after ∧ (∀ y ∈ before, ∃ b, f y = .ok b) ∧ f x = .error e := by
  induction xs with
  | nil =>
    constructor
    · intro impossible
      cases impossible
    · rintro ⟨before, x, after, split, _⟩
      simp at split
  | cons x rest ih =>
    rw [List.mapM_cons]
    cases here : f x with
    | error e' =>
      constructor
      · rintro ⟨⟩
        exact ⟨[], x, rest, rfl, List.forall_mem_nil _, here⟩
      · rintro ⟨_ | ⟨y, before⟩, z, after, split, fine, failed⟩
        · cases split
          cases here.symm.trans failed
          rfl
        · cases split
          obtain ⟨_, fine⟩ := fine x List.mem_cons_self
          cases here.symm.trans fine
    | ok b =>
      have later : ((.ok b : Except ε β) >>= fun b => rest.mapM f >>= fun others => pure (b :: others)) = .error e ↔
          rest.mapM f = .error e := by
        cases rest.mapM f with
        | error e' => exact ⟨fun failed => failed, fun failed => failed⟩
        | ok others => exact ⟨nofun, nofun⟩
      rw [later, ih]
      constructor
      · rintro ⟨before, y, after, rfl, fine, failed⟩
        exact ⟨x :: before, y, after, rfl, List.forall_mem_cons.mpr ⟨⟨b, here⟩, fine⟩, failed⟩
      · rintro ⟨_ | ⟨y, before⟩, z, after, split, fine, failed⟩
        · cases split
          cases here.symm.trans failed
        · cases split
          exact ⟨before, z, after, rfl, (List.forall_mem_cons.mp fine).2, failed⟩

theorem except_mapM_length {ε α β : Type} {f : α → Except ε β} {xs : List α} {ys : List β}
    (h : xs.mapM f = .ok ys) : ys.length = xs.length := by
  have same := congrArg List.length (except_mapM_ok_iff.mp h)
  rw [List.length_map, List.length_map] at same
  exact same.symm

theorem except_mapM_ok_mono {ε α β : Type} {f g : α → Except ε β} {xs : List α} {ys : List β}
    (each : ∀ x y, f x = .ok y → g x = .ok y) (mapped : xs.mapM f = .ok ys) : xs.mapM g = .ok ys := by
  induction xs generalizing ys with
  | nil => exact mapped
  | cons x rest ih =>
    rw [List.mapM_cons] at mapped ⊢
    obtain ⟨y, first, mapped⟩ := except_bind_ok mapped
    obtain ⟨others, later, mapped⟩ := except_bind_ok mapped
    cases mapped
    rw [each x y first, ih later]
    rfl

inductive TableCall where
  | change (c : TableChange)
  /-- The type is registered again. -/
  | rename (schema : Option String) (name : String)
  | removeIndex (index : String)
deriving DecidableEq

def TableCall.isRename : TableCall → Bool
  | rename _ _ => true
  | _ => false

namespace Table

variable {t after : Table} {name : String} {i : Nat} {c : Column}

theorem place_ok {name : String} {i : Nat} (h : t.place name = .ok i) :
    t.columns.findIdx? (·.answersTo name) = some i := by
  unfold place at h
  split at h
  · cases h
    assumption
  · cases h

theorem column_ok {name : String} {c : Column} (h : t.column name = .ok c) :
    t.columns.find? (·.answersTo name) = some c := by
  unfold column at h
  split at h
  · cases h
    assumption
  · cases h

theorem getElem?_place {name : String} {i : Nat} {c : Column} (placed : t.place name = .ok i)
    (found : t.column name = .ok c) : t.columns[i]? = some c := by
  have same := column_ok found
  rw [List.find?_eq_bind_findIdx?_getElem?, place_ok placed] at same
  exact same

def call (t : Table) : TableCall → Except Fault Table
  | .change c => (t.change c).map (·.table)
  | .rename schema name => .ok { t with name, schema }
  | .removeIndex index => .ok (t.removeIndex index)

def calls (t : Table) (l : List TableCall) : Except Fault Table := l.foldlM call t

def nameAt (t : Table) (i : Nat) : Option String := t.columns[i]?.map (·.name)

def namesAt (t : Table) (places : List Nat) : List String := places.filterMap t.nameAt

/-- The columns at these places are the key, and no others are in it. -/
def keyed (t : Table) (autoIncrement : Bool) (places : List Nat) : Table :=
  { t with
    keys := places
    columns := t.columns.mapIdx fun i c =>
      { c with primaryKey := places.contains i, autoIncrement := autoIncrement && places.contains i } }

/-- What a call does to a table. Keys and the version are kept as places of columns, the members of groups and indexes
as the names that the columns have at the time. -/
inductive Becomes (t : Table) : TableCall → Table → Prop where
  | keys {autoIncrement : Bool} {fields : List String} {places : List Nat}
    (alone : autoIncrement = true → fields.length = 1) (placed : fields.mapM t.place = .ok places) :
    Becomes t (.change (.keys autoIncrement fields)) (t.keyed autoIncrement places)
  | group {fields : List String} {places : List Nat} (enough : 2 ≤ fields.length)
    (placed : fields.mapM t.place = .ok places) (fresh : t.namesAt places ∉ t.uniqueTogether) :
    Becomes t (.change (.uniqueTogether fields)) { t with uniqueTogether := t.uniqueTogether ++ [t.namesAt places] }
  | groupAgain {fields : List String} {places : List Nat} (enough : 2 ≤ fields.length)
    (placed : fields.mapM t.place = .ok places) (known : t.namesAt places ∈ t.uniqueTogether) :
    Becomes t (.change (.uniqueTogether fields)) t
  | version {field : String} {settings : List ColumnSetting} {i : Nat} {old new : Column}
    (placed : t.place field = .ok i) (here : t.columns[i]? = some old) (set : old.setAll settings = .ok new) :
    Becomes t (.change (.version field settings)) { t with version := some i, columns := t.columns.set i new }
  | noVersion : Becomes t (.change .noVersion) { t with version := none }
  | column {field : String} {settings : List ColumnSetting} {i : Nat} {old new : Column}
    (placed : t.place field = .ok i) (here : t.columns[i]? = some old) (set : old.setAll settings = .ok new) :
    Becomes t (.change (.column field settings)) { t with columns := t.columns.set i new }
  | index {name method : String} {fields : List String} {unique : Bool} {places : List Nat}
    (placed : fields.mapM t.place = .ok places) :
    Becomes t (.change (.index name method fields unique))
      { t with indexes := t.indexes ++ [{ name, method, columns := t.namesAt places, unique }] }
  | rename (schema : Option String) (name : String) : Becomes t (.rename schema name) { t with name, schema }
  | removeIndex (index : String) : Becomes t (.removeIndex index) (t.removeIndex index)

theorem place_lt {name : String} {i : Nat} (placed : t.place name = .ok i) : i < t.columns.length :=
  (List.findIdx?_eq_some_iff_getElem.mp (place_ok placed)).1

theorem places_lt {fields : List String} {places : List Nat} (placed : fields.mapM t.place = .ok places) :
    ∀ i ∈ places, i < t.columns.length := by
  intro i member
  have each := except_mapM_ok_iff.mp placed
  obtain ⟨field, _, here⟩ := List.mem_map.mp (each ▸ List.mem_map_of_mem (f := Except.ok) member)
  exact place_lt here

theorem map_nameAt {places : List Nat} (inRange : ∀ i ∈ places, i < t.columns.length) :
    places.map t.nameAt = (t.namesAt places).map some := by
  induction places with
  | nil => rfl
  | cons i rest ih =>
    obtain ⟨first, others⟩ := List.forall_mem_cons.mp inRange
    have here : t.nameAt i = some t.columns[i].name := by rw [nameAt, List.getElem?_eq_getElem first, Option.map_some]
    rw [List.map_cons, namesAt, List.filterMap_cons_some here, List.map_cons, here, ← namesAt, ih others]

/-- Names of columns are looked up as places are. -/
theorem columnNames_eq (fields : List String) : t.columnNames fields = (fields.mapM t.place).map t.namesAt := by
  induction fields with
  | nil => rfl
  | cons field rest ih =>
    unfold columnNames at ih ⊢
    rw [List.mapM_cons, List.mapM_cons, ih, column, place, List.find?_eq_bind_findIdx?_getElem?]
    cases found : t.columns.findIdx? (·.answersTo field) with
    | none => rfl
    | some i =>
      have inRange := (List.findIdx?_eq_some_iff_getElem.mp found).1
      cases others : rest.mapM t.place with
      | error reason => simp [List.getElem?_eq_getElem inRange, Except.map, bind, Except.bind]
      | ok places =>
        simp [List.getElem?_eq_getElem inRange, Except.map, bind, Except.bind, namesAt, nameAt, pure, Except.pure]

theorem place_eq_ok : t.place name = .ok i ↔ t.columns.findIdx? (·.answersTo name) = some i := by
  refine ⟨place_ok, fun found => ?_⟩
  rw [place, found]

theorem column_of_place (placed : t.place name = .ok i) (here : t.columns[i]? = some c) : t.column name = .ok c := by
  rw [column, List.find?_eq_bind_findIdx?_getElem?, place_ok placed, Option.bind_some, here]

theorem setKeys_eq {autoIncrement : Bool} {fields : List String} {places : List Nat}
    (alone : autoIncrement = true → fields.length = 1) (placed : fields.mapM t.place = .ok places) :
    t.setKeys autoIncrement fields = .ok (t.keyed autoIncrement places) := by
  have allowed : (autoIncrement && fields.length != 1) = false := by
    cases autoIncrement with
    | false => rfl
    | true => simp [alone rfl]
  unfold setKeys
  rw [allowed, placed]
  rfl

theorem setColumn_eq (placed : t.place name = .ok i) (here : t.columns[i]? = some c) (settings : List ColumnSetting) :
    t.setColumn name settings = (c.setAll settings).map fun new =>
      { table := { t with columns := t.columns.set i new }, column := some new } := by
  rw [setColumn, placed, column_of_place placed here]
  cases changed : c.setAll settings with
  | error reason => simp [changed, bind, Except.bind, Except.map]
  | ok new => simp [changed, bind, Except.bind, Except.map, pure, Except.pure]

theorem setVersion_eq (placed : t.place name = .ok i) (here : t.columns[i]? = some c) (settings : List ColumnSetting) :
    t.setVersion name settings = (c.setAll settings).map fun new =>
      { table := { t with version := some i, columns := t.columns.set i new }, column := some new } := by
  have versioned : ({ t with version := some i } : Table).place name = .ok i := placed
  rw [setVersion, placed]
  exact setColumn_eq versioned here settings

theorem setUniqueTogether_eq {fields : List String} {places : List Nat} (enough : 2 ≤ fields.length)
    (placed : fields.mapM t.place = .ok places) :
    t.setUniqueTogether fields = .ok (if t.uniqueTogether.contains (t.namesAt places) then t
      else { t with uniqueTogether := t.uniqueTogether ++ [t.namesAt places] }) := by
  rw [setUniqueTogether, if_neg (Nat.not_lt.mpr enough), columnNames_eq, placed]
  rfl

theorem addIndex_eq {index method : String} {fields : List String} {unique : Bool} {places : List Nat}
    (placed : fields.mapM t.place = .ok places) :
    t.addIndex index method fields unique =
      .ok { table := { t with indexes := t.indexes ++ [⟨index, method, t.namesAt places, unique⟩] }
            index := some ⟨index, method, t.namesAt places, unique⟩ } := by
  rw [addIndex, columnNames_eq, placed]
  rfl

theorem length_namesAt {fields : List String} {places : List Nat} (placed : fields.mapM t.place = .ok places) :
    (t.namesAt places).length = fields.length := by
  have same := congrArg List.length (map_nameAt (places_lt placed))
  rw [List.length_map, List.length_map] at same
  exact same.symm.trans (except_mapM_length placed)

theorem setColumn_ok {field : String} {settings : List ColumnSetting} {result : ChangedTable}
    (set : t.setColumn field settings = .ok result) :
    ∃ i old new, t.place field = .ok i ∧ t.columns[i]? = some old ∧ old.setAll settings = .ok new ∧
      result = { table := { t with columns := t.columns.set i new }, column := some new } := by
  obtain ⟨i, placed, set⟩ := except_bind_ok set
  obtain ⟨old, found, set⟩ := except_bind_ok set
  obtain ⟨new, changed, set⟩ := except_bind_ok set
  cases set
  exact ⟨i, old, new, placed, getElem?_place placed found, changed, rfl⟩

theorem becomes_of_change {c : TableChange} {result : ChangedTable} (done : t.change c = .ok result) :
    t.Becomes (.change c) result.table := by
  cases c with
  | keys autoIncrement fields =>
    obtain ⟨changed, set, rfl⟩ := except_map_ok done
    unfold setKeys at set
    by_cases refused : (autoIncrement && fields.length != 1) = true
    · simp only [refused, if_true] at set
      cases set
    simp only [refused, if_false, Bool.false_eq_true] at set
    obtain ⟨places, placed, set⟩ := except_bind_ok set
    cases set
    refine .keys (fun auto => ?_) placed
    simpa [auto] using refused
  | uniqueTogether fields =>
    obtain ⟨changed, set, rfl⟩ := except_map_ok done
    unfold setUniqueTogether at set
    by_cases refused : fields.length < 2
    · simp only [refused, if_true] at set
      cases set
    simp only [refused, if_false] at set
    obtain ⟨names, found, set⟩ := except_bind_ok set
    rw [columnNames_eq] at found
    obtain ⟨places, placed, rfl⟩ := except_map_ok found
    cases set
    by_cases known : t.namesAt places ∈ t.uniqueTogether
    · rw [if_pos (List.contains_iff_mem.mpr known)]
      exact .groupAgain (Nat.not_lt.mp refused) placed known
    · rw [if_neg (mt List.contains_iff_mem.mp known)]
      exact .group (Nat.not_lt.mp refused) placed known
  | version field settings =>
    obtain ⟨i, placed, set⟩ := except_bind_ok done
    obtain ⟨j, old, new, again, here, changed, rfl⟩ := setColumn_ok set
    have same : t.place field = .ok j := again
    rw [placed] at same
    cases same
    exact .version placed here changed
  | noVersion =>
    cases done
    exact .noVersion
  | column field settings =>
    obtain ⟨i, old, new, placed, here, changed, rfl⟩ := setColumn_ok done
    exact .column placed here changed
  | index name method fields unique =>
    obtain ⟨names, found, added⟩ := except_bind_ok done
    rw [columnNames_eq] at found
    obtain ⟨places, placed, rfl⟩ := except_map_ok found
    cases added
    exact .index placed

theorem becomes_of_call {c : TableCall} (done : t.call c = .ok after) : t.Becomes c after := by
  cases c with
  | change c =>
    obtain ⟨result, changed, rfl⟩ := except_map_ok done
    exact becomes_of_change changed
  | rename schema name =>
    cases done
    exact .rename schema name
  | removeIndex index =>
    cases done
    exact .removeIndex index

theorem call_of_becomes {c : TableCall} (becomes : t.Becomes c after) : t.call c = .ok after := by
  cases becomes with
  | keys alone placed =>
    rw [call, change, setKeys_eq alone placed]
    rfl
  | group enough placed fresh =>
    rw [call, change, setUniqueTogether_eq enough placed, if_neg (mt List.contains_iff_mem.mp fresh)]
    rfl
  | groupAgain enough placed known =>
    rw [call, change, setUniqueTogether_eq enough placed, if_pos (List.contains_iff_mem.mpr known)]
    rfl
  | version placed here set =>
    rw [call, change, setVersion_eq placed here, set]
    rfl
  | column placed here set =>
    rw [call, change, setColumn_eq placed here, set]
    rfl
  | index placed =>
    rw [call, change, addIndex_eq placed]
    rfl
  | noVersion | rename | removeIndex => rfl

theorem Becomes.columns_length {c : TableCall} (becomes : t.Becomes c after) :
    after.columns.length = t.columns.length := by
  cases becomes with
  | keys => exact List.length_mapIdx
  | version | column => exact List.length_set
  | group | groupAgain | noVersion | index | rename | removeIndex => rfl

theorem calls_cons {c : TableCall} {l : List TableCall} (done : t.calls (c :: l) = .ok after) :
    ∃ mid, t.call c = .ok mid ∧ mid.calls l = .ok after := by
  rw [calls, List.foldlM_cons] at done
  exact except_bind_ok done

theorem calls_append (l later : List TableCall) :
    t.calls (l ++ later) = t.calls l >>= fun mid => mid.calls later := by
  unfold calls
  exact List.foldlM_append

theorem calls_keep {P : Table → Prop} {l : List TableCall}
    (each : ∀ c ∈ l, ∀ {t after : Table}, P t → t.call c = .ok after → P after) (start : P t)
    (done : t.calls l = .ok after) : P after := by
  induction l generalizing t with
  | nil =>
    cases done
    exact start
  | cons c rest ih =>
    obtain ⟨mid, first, later⟩ := calls_cons done
    apply ih
    · intro c member
      exact each c (List.mem_cons_of_mem _ member)
    · exact each c List.mem_cons_self start first
    · exact later

theorem calls_same {α : Type} (part : Table → α) {l : List TableCall}
    (each : ∀ c ∈ l, ∀ {t after : Table}, t.Becomes c after → part after = part t) (done : t.calls l = .ok after) :
    part after = part t :=
  calls_keep (P := fun s => part s = part t)
    (fun c member _ _ same made => (each c member (becomes_of_call made)).trans same) rfl done

variable {c : TableCall} {l : List TableCall}

def renamed (t : Table) (schema : Option String) (name : String) : Table := { t with name, schema }

theorem Becomes.typeName (becomes : t.Becomes c after) : after.typeName = t.typeName := by
  cases becomes <;> rfl

theorem Becomes.sameName (becomes : t.Becomes c after) (configures : c.isRename = false) :
    after.renamed t.schema t.name = after := by
  cases becomes with
  | rename => cases configures
  | keys | group | groupAgain | version | noVersion | column | index | removeIndex => rfl

theorem place_renamed (t : Table) (schema : Option String) (name field : String) (i : Nat)
    (placed : t.place field = .ok i) : (t.renamed schema name).place field = .ok i :=
  place_eq_ok.mpr (place_eq_ok.mp placed :)

/-- What a call does to a table has nothing to do with the name of the table. -/
theorem Becomes.renamed (becomes : t.Becomes c after) (configures : c.isRename = false) (schema : Option String)
    (name : String) : (t.renamed schema name).Becomes c (after.renamed schema name) := by
  have samePlace := place_renamed t schema name
  cases becomes with
  | keys alone placed => exact .keys alone (except_mapM_ok_mono samePlace placed)
  | group enough placed fresh => exact .group enough (except_mapM_ok_mono samePlace placed) fresh
  | groupAgain enough placed known => exact .groupAgain enough (except_mapM_ok_mono samePlace placed) known
  | version placed here set => exact .version (samePlace _ _ placed) here set
  | noVersion => exact .noVersion
  | column placed here set => exact .column (samePlace _ _ placed) here set
  | index placed => exact .index (except_mapM_ok_mono samePlace placed)
  | rename => cases configures
  | removeIndex index => exact .removeIndex index

theorem calls_typeName (done : t.calls l = .ok after) : after.typeName = t.typeName :=
  calls_same Table.typeName (fun _ _ _ _ becomes => becomes.typeName) done

theorem calls_sameName (done : t.calls l = .ok after) (configures : ∀ c ∈ l, c.isRename = false) :
    after.renamed t.schema t.name = after := by
  refine calls_keep (P := fun s => s.renamed t.schema t.name = s) (fun c member s next same made => ?_) rfl done
  have kept := (becomes_of_call made).sameName (configures c member)
  rw [← same] at kept
  exact kept

theorem calls_renamed (done : t.calls l = .ok after) (configures : ∀ c ∈ l, c.isRename = false)
    (schema : Option String) (name : String) :
    (t.renamed schema name).calls l = .ok (after.renamed schema name) := by
  induction l generalizing t with
  | nil =>
    cases done
    rfl
  | cons c rest ih =>
    obtain ⟨mid, called, later⟩ := calls_cons done
    obtain ⟨first, others⟩ := List.forall_mem_cons.mp configures
    have renamed := call_of_becomes ((becomes_of_call called).renamed first schema name)
    rw [calls, List.foldlM_cons, renamed]
    exact ih later others

/-- Calls on a renamed table make of it what they would make of the table itself. -/
theorem calls_of_renamed {schema : Option String} {name : String} (done : (t.renamed schema name).calls l = .ok after)
    (configures : ∀ c ∈ l, c.isRename = false) :
    ∃ made, t.calls l = .ok made ∧ after = made.renamed schema name :=
  ⟨after.renamed t.schema t.name, calls_renamed done configures t.schema t.name,
    (calls_sameName done configures).symm⟩

end Table

end RowMapper
