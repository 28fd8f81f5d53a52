import RowMapper.Proofs.Concurrency.Copy

/-!
# What a copy asks of its row

An update that was bound from a copy finds the row if and only if the row still has the version of the copy. It then
makes the next version of it. The lookup after a conflict always finds the row.
-/

namespace RowMapper

namespace Table

variable {t : Table} {accepts : Column → Bool} {args : List Value} {k : Column}

theorem lookup_assigned_of_key (key : k.primaryKey = true) : (t.assigned accepts args).lookup k = none := by
  rw [List.lookup_eq_none_iff]
  intro term member
  obtain ⟨⟨_, source⟩, set, same⟩ := List.mem_map.mp (List.of_mem_zip (show (term.1, term.2) ∈ _ from member)).1
  obtain ⟨_, _, _, notKey, _⟩ := mem_updateTerms.mp set
  refine bne_iff_ne.mpr ?_
  rintro rfl
  rw [← same, notKey] at key
  cases key

end Table

/-- A bound update of a copy, with what it sets and what it asks of the row that had these cells. -/
structure Bound.Asks {R : RecordType} (t : Table) (d : Dialect) (c : Column) (accepts : Option (Column → Bool))
    {B : Backend} (view : RowView B) (start : Column → Value) (bound : Bound) (copy : R.Values) : Prop where
  sql : bound.sql = (Plan.update t d (accepts.getD fun _ => true)).sql
  sends : bound.sql ≠ ""
  bindable : List.Forall₂ R.Bindable (Plan.update t d (accepts.getD fun _ => true)).sources bound.args
  keys : List.Forall₂ (fun k y => R.read k.path copy = .ok y) t.keyColumns bound.keys
  shown : R.localVersion t copy = .ok bound.version
  positive : 0 < bound.version
  hasNext : bound.version ≠ Int64.maxValue
  finds : ∀ {database version}, RowAt t c start (view.cell database) version →
    view.meets database (t.required (accepts.getD fun _ => true) bound.args) =
      view.same c (.bigInt version) (.bigInt bound.version)
  sets : ∀ {cells version}, RowAt t c start cells version →
    RowAt t c start (view.setCells cells (t.assigned (accepts.getD fun _ => true) bound.args)) (bound.version + 1)
  looksUp : ∀ {database version}, RowAt t c start (view.cell database) version →
    view.meets database (t.keyColumns.zip bound.keys) = true

namespace Setting

variable {ctx : Context} {R : RecordType} {t : Table} {c : Column} {B : Backend} {view : RowView B}
  {start : Column → Value} {accepts : Option (Column → Bool)} {version : Int64} {copy after : R.Values} {bound : Bound}

/-- The keys of a copy are those of its row, so that only the version decides. -/
theorem meets_keys_and_version {database : B.State} {ks : List Column} {xs : List Value} {n : Int64}
    (stored : view.cell database c = .bigInt version)
    (found : ∀ k ∈ ks, ∃ y, R.read k.path copy = .ok y ∧ view.same k (view.cell database k) y = true)
    (supplied : List.Forall₂ (R.Supplies {} n copy copy)
      ((ks.map (fun k => (k, Source.field k)) ++ [(c, Source.existingVersion)]).map Prod.snd) xs) :
    view.meets database
        (((ks.map (fun k => (k, Source.field k)) ++ [(c, Source.existingVersion)]).map Prod.fst).zip xs) =
      view.same c (.bigInt version) (.bigInt n) := by
  induction ks generalizing xs with
  | nil =>
    obtain ⟨x, _, rfl, none, rfl⟩ := List.forall₂_cons_left_iff.mp supplied
    cases none
    simp [RowView.meets, stored]
  | cons k rest ih =>
    obtain ⟨x, others, first, later, rfl⟩ := List.forall₂_cons_left_iff.mp supplied
    obtain ⟨y, read, same⟩ := found k List.mem_cons_self
    -- The argument is what the copy shows, and that is what the row has.
    have taken : x = y := by
      have bound : R.supplied {} k copy = .ok x := first.elim id id
      rw [RecordType.supplied_default, read] at bound
      exact (Except.ok.inj bound).symm
    have tail := ih (fun other member => found other (List.mem_cons_of_mem _ member)) later
    unfold RowView.meets at tail ⊢
    rw [List.map_append, List.map_cons, List.map_cons, List.cons_append, List.zip_cons_cons, List.all_cons,
      ← List.map_append, tail, taken, same, Bool.true_and]

theorem meets_keys {database : B.State} {ks : List Column} {ys : List Value}
    (found : ∀ k ∈ ks, ∃ y, R.read k.path copy = .ok y ∧ view.same k (view.cell database k) y = true)
    (supplied : List.Forall₂ (fun k y => R.read k.path copy = .ok y) ks ys) :
    view.meets database (ks.zip ys) = true := by
  unfold RowView.meets
  induction supplied with
  | nil => rfl
  | @cons k y ks ys first _ ih =>
    obtain ⟨z, read, same⟩ := found k List.mem_cons_self
    rw [read] at first
    cases first
    rw [List.zip_cons_cons, List.all_cons, same, Bool.true_and]
    exact ih fun other member => found other (List.mem_cons_of_mem _ member)

theorem asks (setting : Setting ctx R t c view) (loaded : CopyOf R t view start version copy)
    (p : R.Prepared ctx (.update accepts) copy t [] copy bound after) :
    after = copy ∧ bound.Asks t ctx.dialect c accepts view start copy := by
  have binds := p.binds
  rw [setting.noConverter] at binds
  obtain ⟨n, shown, positive, _⟩ := loaded.version
  obtain rfl : n = bound.version := Except.ok.inj (shown.symm.trans binds.version)
  have versioned : bound.version ≠ 0 := (Int64.ne_of_lt positive).symm
  have same := (RecordType.touched_of_version versioned).mp binds.touched
  subst same
  have versioned := setting.versioned
  have sound := setting.maps.sound
  obtain ⟨sends, hasNext, sets⟩ := p.stores_next setting.maps versioned
  have picked := p.keys_supplied sends
  rw [setting.noConverter, Table.keyTerms_of_version versioned.version] at picked
  have found {database : B.State} {version : Int64} (row : RowAt t c start (view.cell database) version) :
      ∀ k ∈ t.keyColumns, ∃ y, R.read k.path after = .ok y ∧ view.same k (view.cell database k) y = true := by
    intro k member
    rw [row.keys k member]
    exact loaded.keys k member
  have keys : List.Forall₂ (fun k y => R.read k.path after = .ok y) t.keyColumns bound.keys :=
    binds.keys.imp fun k y supplied => (RecordType.supplied_default k).symm.trans supplied
  have bindable : List.Forall₂ R.Bindable (Plan.update t ctx.dialect (accepts.getD fun _ => true)).sources bound.args :=
    binds.args.imp fun _ _ => RecordType.Supplies.bindable
  refine ⟨rfl, binds.sql, sends, bindable, keys, binds.version, positive, hasNext, fun row => ?_,
    fun row => ⟨?_, fun k member => ?_⟩, fun row => meets_keys (found row) keys⟩
  · unfold Table.required
    rw [Table.keyTerms_of_version versioned.version]
    exact meets_keys_and_version row.version (found row) picked
  · unfold RowView.setCells
    rw [sets]
    exact setting.honest.keeps_version _
  · unfold RowView.setCells
    rw [Table.lookup_assigned_of_key (sound.primaryKey_of_mem_keyColumns member)]
    exact row.keys k member

end Setting

end RowMapper
