import RowMapper.Proofs.Crud.Insert
import RowMapper.Proofs.Crud.Update
import RowMapper.Proofs.Field.RoundTrip
import RowMapper.Proofs.Table.Mapping

/-!
# Versions in records and rows

After a record gets its first version, and after an update that found its row, the record shows the version that the
statement stored, and its next update asks the row for that version.
-/

namespace RowMapper

def NativeType.Holds (type : NativeType) (version : Int64) : Prop :=
  ∃ content x, type.decode (.bigInt version) = .ok content ∧ type.encode content = .ok x ∧ x.asInt? = some version

theorem NativeType.int_holds {k : IntKind} {n : k.Num} {m : Int64} (loaded : k.load (.bigInt m) = .ok n) :
    (int k).Holds m :=
  ⟨n, k.store n, loaded, rfl, Value.asInt?_of_integer? (IntKind.store_of_load loaded rfl)⟩

theorem NativeType.int64_holds (n : Int64) : (NativeType.int .i64).Holds n := by
  have inRange : IntKind.i64.ofInt? n.toInt = some ⟨n.toInt, n.le_toInt, n.toInt_le⟩ :=
    dif_pos ⟨n.le_toInt, n.toInt_le⟩
  have loaded : IntKind.i64.load (.bigInt n) = .ok ⟨n.toInt, n.le_toInt, n.toInt_le⟩ := by
    simp only [IntKind.load, Value.asInt?, IntKind.widen, inRange]
  exact int_holds loaded

def RecordType.HoldsVersion (R : RecordType) (path : String) (version : Int64) : Prop :=
  ∃ p, R.place path = .ok p ∧ p.leaf.type.Holds version

/-- An update of the record, as it is, requires a version of its row whenever it sends a statement. -/
def RecordType.Requires (R : RecordType) (ctx : Context) (t : Table) (c : Column) (v : R.Values) (version : Int64) :
    Prop :=
  ∀ accepts bound after, R.Prepared ctx (.update accepts) v t [] v bound after → bound.sql ≠ "" →
    (t.required (accepts.getD fun _ => true) bound.args).getLast? = some (c, .bigInt version)

namespace RecordType

variable {R : RecordType} {ctx : Context} {t : Table} {c : Column} {bound : Bound} {version : Int64}
  {before mid after : R.Values} {log early late : List Exchange}

theorem read_write_held {path : String} (holds : R.HoldsVersion path version)
    (wrote : R.write path (.bigInt version) before = .ok after) :
    ∃ x, R.read path after = .ok x ∧ x.asInt? = some version := by
  obtain ⟨p, place, content, x, decoded, encoded, shown⟩ := holds
  obtain ⟨q, written, found, known, rfl⟩ := write_eq_ok.mp wrote
  cases place.symm.trans found
  cases decoded.symm.trans known
  refine ⟨x, ?_, shown⟩
  rw [read_of_place place, Place.read, Leaf.get_set_self, encoded]
  rfl

theorem storeVersion_of_holds (versioned : t.versionColumn? = some c) (holds : R.HoldsVersion c.path version) :
    ∃ after, R.storeVersion t version before = (.ok (), after) := by
  obtain ⟨p, place, content, x, decoded, _⟩ := holds
  refine ⟨p.leaf.set content before, ?_⟩
  rw [storeVersion_of_column versioned, writeField_eq_ok]
  exact write_eq_ok.mpr ⟨p, content, place, decoded, rfl⟩

theorem localVersion_of_column (versioned : t.versionColumn? = some c) :
    R.localVersion t before = (R.read c.path before).map fun x => x.asInt?.getD 0 := by
  unfold localVersion
  rw [versioned]

theorem localVersion_stored (versioned : t.versionColumn? = some c) (holds : R.HoldsVersion c.path version)
    (stored : R.storeVersion t version before = (.ok (), after)) : R.localVersion t after = .ok version := by
  rw [storeVersion_of_column versioned, writeField_eq_ok] at stored
  obtain ⟨x, read, shown⟩ := read_write_held holds stored
  rw [localVersion_of_column versioned, read, Except.map, shown]
  rfl

theorem localVersion_write_other (versioned : t.versionColumn? = some c) {path : String} {x : Value}
    (wrote : R.write path x before = .ok after) (differs : c.path ≠ path) :
    R.localVersion t after = R.localVersion t before := by
  rw [localVersion_of_column versioned, localVersion_of_column versioned, read_write_other wrote differs]

theorem requires_localVersion (versioned : t.versionColumn? = some c) (shown : R.localVersion t before = .ok version) :
    R.Requires ctx t c before version := by
  intro accepts bound after p sends
  have same : bound.version = version := Except.ok.inj (p.binds.version.symm.trans shown)
  obtain ⟨x, found, rfl⟩ := Table.getLast?_required versioned (p.keys_supplied sends)
  rw [← same]
  exact found

theorem generated_path_ne (maps : R.Maps t) (undotted : R.fields.Undotted) (stored : c ∈ t.storedColumns)
    (manual : c.autoIncrement = false) {key : Column} (generated : (Plan.insert t ctx.dialect).generated = some key) :
    c.path ≠ key.path := by
  intro same
  have member := List.mem_of_find?_eq_some generated
  have marked := List.find?_some generated
  rw [Bool.and_eq_true, Bool.not_eq_true'] at marked
  have keptKey : key ∈ t.storedColumns := List.mem_filter.mpr ⟨member, by rw [marked.1]; rfl⟩
  have equal := maps.sound.storedColumns_inj undotted stored keptKey same
  rw [← equal, manual] at marked
  cases marked.2

theorem generated_eq (maps : R.Maps t) (stored : c ∈ t.storedColumns) (auto : c.autoIncrement = true) :
    (Plan.insert t ctx.dialect).generated = some c := by
  show t.columns.find? (fun c => !c.isTransient && c.autoIncrement) = some c
  obtain ⟨member, kept⟩ := List.mem_filter.mp stored
  obtain ⟨i, here⟩ := List.mem_iff_getElem?.mp member
  have only := (maps.sound.columns i c here).autoIncrement auto
  cases found : t.columns.find? fun c => !c.isTransient && c.autoIncrement with
  | none =>
    have unmarked := List.find?_eq_none.mp found c member
    rw [kept, auto] at unmarked
    exact absurd rfl unmarked
  | some other =>
    -- A generated key is the only key, so both columns stand at its place.
    have marked := List.find?_some found
    rw [Bool.and_eq_true] at marked
    obtain ⟨j, there⟩ := List.mem_iff_getElem?.mp (List.mem_of_find?_eq_some found)
    have alone := (maps.sound.columns j other there).autoIncrement marked.2
    cases only.symm.trans alone
    exact there.symm.trans here

theorem insert_version (maps : R.Maps t) (undotted : R.fields.Undotted) (versioned : t.versionColumn? = some c)
    (kept : c.isTransient = false) (manual : c.autoIncrement = false) {final : R.Values}
    (p : R.Prepared ctx .insert before t early mid bound after)
    (run : Script.Runs ctx (R.insert ctx before) (early ++ late) (.ok (.ok (), final))) :
    ∃ x rest stored, late = x :: rest ∧ bound.IsSentBy x ∧
      (t.inserted ctx.dialect x.args).lookup c = some (.bigInt (bound.version + 1)) ∧
      ((bound.version = 0 → R.HoldsVersion c.path 1) →
        R.localVersion t stored = .ok (if bound.version = 0 then bound.version + 1 else bound.version)) ∧
      Script.Runs ctx (R.hooks Write.insert.postHook ctx stored) rest (.ok (.ok (), final)) := by
  have binds := p.binds
  have asks : (c, .nextVersion) ∈ t.boundTerms ctx.dialect :=
    Table.nextVersion_mem_boundTerms versioned kept manual
  have distinct := maps.sound.storedColumns_nodup.sublist (Table.boundTerms_sublist (t := t) (d := ctx.dialect))
  have supplied := binds.args
  rw [Write.plan, Plan.insert_sources, ← List.append_nil ((t.boundTerms ctx.dialect).map _)] at supplied
  obtain ⟨_, found, rfl⟩ := Table.lookup_zip distinct supplied asks
  -- Binding asked for the next version, and so it gave the first one to a record that had none.
  have asked : .nextVersion ∈ (Plan.insert t ctx.dialect).sources := by
    rw [Plan.insert_sources]
    exact List.mem_map_of_mem asks
  have shown (holds : bound.version = 0 → R.HoldsVersion c.path 1) :
      R.localVersion t after = .ok (if bound.version = 0 then bound.version + 1 else bound.version) := by
    have touched := binds.touched
    by_cases unversioned : bound.version = 0
    · rw [unversioned] at touched
      rw [if_pos unversioned, unversioned]
      exact localVersion_stored versioned (holds unversioned) ((touched_zero asked).mp touched)
    · rw [if_neg unversioned, (touched_of_version unversioned).mp touched]
      exact binds.version
  rcases Step.runs_bind.mp (p.rest_run run) with
    ⟨_, _, ended⟩ | ⟨_, _, _, ended⟩ | ⟨_, stored, sent, rest, sending, hook, rfl⟩
  · cases ended
  · cases ended
  · obtain ⟨x, rfl, same, ⟨_, _, ended⟩ | ⟨_, _ | _ | wrote⟩⟩ := sendInsert_run sending
    · cases ended
    · refine ⟨x, rest, stored, rfl, same, ?_, ?_, hook⟩
      · rw [same.2]
        exact found
      · rcases wrote.cases with rfl | ⟨key, value, generated, wrote⟩
        · exact shown
        · rw [localVersion_write_other versioned wrote
            (generated_path_ne maps undotted (Table.mem_storedColumns_of_version versioned kept) manual generated)]
          exact shown

/-- The update of a record with a stored version is sent and sets the next one. -/
theorem Prepared.stores_next {accepts : Option (Column → Bool)} (maps : R.Maps t) (versioned : t.StoresVersion c)
    (p : R.Prepared ctx (.update accepts) before t early mid bound after) :
    bound.sql ≠ "" ∧ bound.version ≠ Int64.maxValue ∧
      (t.assigned (accepts.getD fun _ => true) bound.args).lookup c = some (.bigInt (bound.version + 1)) := by
  have binds := p.binds
  have asks : (c, .nextVersion) ∈ t.updateTerms (accepts.getD fun _ => true) := versioned.mem_updateTerms
  have some : t.updateTerms (accepts.getD fun _ => true) ≠ [] := List.ne_nil_of_mem asks
  have distinct : ((t.updateTerms (accepts.getD fun _ => true)).map (·.1)).Nodup :=
    maps.sound.storedColumns_nodup.sublist Table.updateTerms_sublist
  have supplied := binds.args
  rw [Write.plan, Plan.update_sources some] at supplied
  obtain ⟨_, found, rfl⟩ := Table.lookup_zip distinct supplied asks
  refine ⟨?_, binds.hasNext ?_, found⟩
  · rw [binds.sql]
    exact Plan.update_sql_ne_empty some
  · rw [Write.plan, Plan.update_sources some]
    exact List.mem_append_left _ (List.mem_map_of_mem asks)

theorem update_version (maps : R.Maps t) (versioned : t.StoresVersion c) {accepts : Option (Column → Bool)}
    {count : Nat} {x : Exchange} {outcome : Except Fault (Except Error Nat × R.Values)}
    (p : R.Prepared ctx (.update accepts) before t early mid bound after)
    (holds : R.HoldsVersion c.path (bound.version + 1))
    (run : Script.Runs ctx (R.update ctx accepts count before) (early ++ x :: late) outcome) (hit : 1 ≤ x.touched) :
    bound.IsSentBy x ∧
      (t.assigned (accepts.getD fun _ => true) x.args).lookup c = some (.bigInt (bound.version + 1)) ∧
      ∃ stored, R.localVersion t stored = .ok (bound.version + 1) ∧
        (UInt64.size ≤ count + x.touched ∧ outcome = .error .overflow ∨
          Script.Runs ctx
            ((R.hooks (Write.update accepts).postHook ctx >>= fun _ => (return count + x.touched : Step R.Values Nat))
              stored) late outcome) := by
  obtain ⟨sends, hasNext, found⟩ := p.stores_next maps versioned
  obtain ⟨stored, wrote⟩ : ∃ stored, R.storeVersion t (bound.version + 1) after = (.ok (), stored) :=
    storeVersion_of_holds versioned.version holds
  have shown := localVersion_stored versioned.version holds wrote
  obtain ⟨sent, ended⟩ := (p.update_run run).found sends hasNext wrote hit
  exact ⟨sent, by rw [sent.2, found], stored, shown, ended⟩

/-- An insert stores the version after the one that its record shows. A record without a version then shows the stored
one; any other keeps its own. An update that found its row sets the version after the one that its record shows, and
the record then shows it. What the record shows is what its next update requires of the row. All this holds when the
post-hook starts. -/
theorem stored_version (registered : ctx.table? R.typeName = some t) (maps : R.Maps t)
    (undotted : R.fields.Undotted) (versioned : t.versionColumn? = some c) (kept : c.isTransient = false) :
    (∀ {before final log}, c.autoIncrement = false →
      Script.Runs ctx (R.insert ctx before) log (.ok (.ok (), final)) →
      ∃ early mid bound after x rest stored, R.Prepared ctx .insert before t early mid bound after ∧
        log = early ++ x :: rest ∧ bound.IsSentBy x ∧
        (t.inserted ctx.dialect x.args).lookup c = some (.bigInt (bound.version + 1)) ∧
        ((bound.version = 0 → R.HoldsVersion c.path 1) →
          R.localVersion t stored = .ok (if bound.version = 0 then bound.version + 1 else bound.version) ∧
            R.Requires ctx t c stored (if bound.version = 0 then bound.version + 1 else bound.version)) ∧
        Script.Runs ctx (R.hooks Write.insert.postHook ctx stored) rest (.ok (.ok (), final))) ∧
    ∀ {accepts count before mid after bound early x late outcome}, c.primaryKey = false →
      R.Prepared ctx (.update accepts) before t early mid bound after → R.HoldsVersion c.path (bound.version + 1) →
      Script.Runs ctx (R.update ctx accepts count before) (early ++ x :: late) outcome → 1 ≤ x.touched →
      bound.IsSentBy x ∧
        (t.assigned (accepts.getD fun _ => true) x.args).lookup c = some (.bigInt (bound.version + 1)) ∧
        ∃ stored, R.localVersion t stored = .ok (bound.version + 1) ∧
          R.Requires ctx t c stored (bound.version + 1) ∧
          (UInt64.size ≤ count + x.touched ∧ outcome = .error .overflow ∨
            Script.Runs ctx
              ((R.hooks (Write.update accepts).postHook ctx >>= fun _ => (return count + x.touched : Step R.Values Nat))
                stored) late outcome) := by
  constructor
  · intro before final log manual run
    obtain ⟨early, mid, bound, after, late, p, rfl⟩ := prepared_of_success (w := .insert) registered run
    obtain ⟨x, rest, stored, rfl, sent, found, shown, hook⟩ :=
      insert_version maps undotted versioned kept manual p run
    exact ⟨early, mid, bound, after, x, rest, stored, p, rfl, sent, found,
      fun holds => ⟨shown holds, requires_localVersion versioned (shown holds)⟩, hook⟩
  · intro accepts count before mid after bound early x late outcome notKey p holds run hit
    obtain ⟨sent, found, stored, shown, ended⟩ := update_version maps ⟨versioned, notKey, kept⟩ p holds run hit
    exact ⟨sent, found, stored, shown, requires_localVersion versioned shown, ended⟩

end RecordType

theorem events_storesVersion : events.StoresVersion eventVersion := ⟨events_versionColumn, rfl, rfl⟩

/-- An event that is stored without a version shows version 1, and an update of it then stores and shows version 2. -/
theorem event_stored_version :
    (∃ early mid bound after x rest stored,
      eventType.Prepared eventContext .insert (event 0 0) events early mid bound after ∧
        [Exchange.exec (eventInsertion 0).sql (eventInsertion 0).args (.ok {})] = early ++ x :: rest ∧ bound.IsSentBy x ∧
        (events.inserted eventContext.dialect x.args).lookup eventVersion = some (.bigInt (bound.version + 1)) ∧
        ((bound.version = 0 → eventType.HoldsVersion eventVersion.path 1) →
          eventType.localVersion events stored = .ok (if bound.version = 0 then bound.version + 1 else bound.version) ∧
            eventType.Requires eventContext events eventVersion stored
              (if bound.version = 0 then bound.version + 1 else bound.version)) ∧
        Script.Runs eventContext (eventType.hooks Write.insert.postHook eventContext stored) rest
          (.ok (.ok (), event 0 1))) ∧
    ∃ stored, eventType.localVersion events stored = .ok 2 ∧
      eventType.Requires eventContext events eventVersion stored 2 := by
  have versioned := @RecordType.stored_version eventType eventContext events eventVersion rfl eventType_maps
    eventType_undotted events_versionColumn rfl
  have inserted : Script.Runs eventContext (eventType.insert eventContext (event 0 0))
      [.exec (eventInsertion 0).sql (eventInsertion 0).args (.ok {})] (.ok (.ok (), event 0 1)) :=
    ⟨.ok {}, [], rfl, rfl, rfl⟩
  have updated : Script.Runs eventContext (eventType.update eventContext none 0 (event 0 1))
      ([] ++ [.exec (eventUpdate 1).sql (eventUpdate 1).args (.ok { rowsAffected := 1 })]) (.ok (.ok 1, event 0 2)) :=
    ⟨.ok { rowsAffected := 1 }, [], rfl, rfl, rfl⟩
  have bound : eventType.Prepared eventContext (.update none) (event 0 1) events [] (event 0 1) (eventUpdate 1)
      (event 0 1) := ⟨⟨rfl, rfl⟩, ⟨rfl, rfl⟩⟩
  have holds : eventType.HoldsVersion eventVersion.path 2 := ⟨_, rfl, NativeType.int64_holds 2⟩
  obtain ⟨_, _, stored, shows, requires, _⟩ := versioned.2 rfl bound holds updated (Nat.le_refl 1)
  exact ⟨versioned.1 rfl inserted, stored, shows, requires⟩

/-- An event that is stored with version 5 makes a row with version 6 and keeps its own. -/
theorem insert_keeps_version :
    Script.Runs eventContext (eventType.insert eventContext (event 0 5))
      [.exec (eventInsertion 5).sql (eventInsertion 5).args (.ok {})] (.ok (.ok (), event 0 5)) ∧
    (events.inserted eventContext.dialect (eventInsertion 5).args).lookup eventVersion = some (.bigInt 6) ∧
    eventType.localVersion events (event 0 5) = .ok 5 :=
  ⟨⟨.ok {}, [], rfl, rfl, rfl⟩, rfl, rfl⟩

end RowMapper
