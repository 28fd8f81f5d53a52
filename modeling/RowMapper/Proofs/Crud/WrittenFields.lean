import RowMapper.Proofs.Crud.Rows
import RowMapper.Proofs.Crud.Stages

/-!
# The fields that writes change

A write changes its record only where the database or the version asks for it: an insertion writes the generated key and
the version, an update the version, and a deletion nothing. The generated key is the one that the database reported for
the statement.
-/

namespace RowMapper

def Write.writes (t : Table) : Write → List Column
  | insert => t.columns.filter (fun c => !c.isTransient && c.autoIncrement) ++ t.versionColumn?.toList
  | update _ => t.versionColumn?.toList
  | delete => []

namespace RecordType

/-- States of a record with the same content in all fields but those of some columns. -/
structure SameApart (R : RecordType) (columns : List Column) (before after : R.Values) : Prop where
  leaves : ∀ l : Leaf R.fields, (∀ c ∈ columns, l.path ≠ c.path) → l.get after = l.get before
  transients : R.fields.transients "" after = R.fields.transients "" before

variable {R : RecordType} {ctx : Context} {w : Write} {t : Table} {d : Dialect} {c : Column} {columns : List Column}
  {before mid after : R.Values} {log : List Exchange}

namespace SameApart

theorem refl (v : R.Values) : R.SameApart columns v v := ⟨fun _ _ => rfl, rfl⟩

theorem trans (first : R.SameApart columns before mid) (second : R.SameApart columns mid after) :
    R.SameApart columns before after where
  leaves l apart := (second.leaves l apart).trans (first.leaves l apart)
  transients := second.transients.trans first.transients

theorem of_write {x : Value} (member : c ∈ columns) (wrote : R.write c.path x before = .ok after) :
    R.SameApart columns before after := by
  refine ⟨fun l apart => ?_, transients_write wrote⟩
  obtain ⟨p, content, located, _, rfl⟩ := write_eq_ok.mp wrote
  have differs : l.path ≠ p.leaf.path := by
    rw [Fields.locate_path located]
    exact apart c member
  exact Leaf.get_set_of_path_ne l p.leaf content before differs

theorem of_writeField {x : Value} {answer : Except Error Unit} (member : c ∈ columns)
    (wrote : R.writeField c.path x before = (answer, after)) : R.SameApart columns before after := by
  cases answer with
  | error e =>
    rw [writeField_failed wrote]
    exact refl before
  | ok _ => exact of_write member (writeField_eq_ok.mp wrote)

theorem of_storeVersion {version : Int64} {answer : Except Error Unit}
    (allowed : ∀ c, t.versionColumn? = some c → c ∈ columns)
    (stored : R.storeVersion t version before = (answer, after)) : R.SameApart columns before after := by
  cases versioned : t.versionColumn? with
  | none =>
    rw [storeVersion_of_none versioned] at stored
    cases stored
    exact refl before
  | some c =>
    rw [storeVersion_of_column versioned] at stored
    exact of_writeField (allowed c versioned) stored

end SameApart

theorem version_written (asked : .nextVersion ∈ (w.plan t d).sources) (versioned : t.versionColumn? = some c) :
    c ∈ w.writes t := by
  have listed : c ∈ t.versionColumn?.toList := Option.mem_toList.mpr versioned
  cases w with
  | insert => exact List.mem_append_right _ listed
  | update accepts => exact listed
  | delete => exact absurd asked Table.nextVersion_not_mem_keyTerms

theorem generated_written (generated : (Plan.insert t d).generated = some c) : c ∈ Write.insert.writes t := by
  replace generated : t.columns.find? (fun c => !c.isTransient && c.autoIncrement) = some c := generated
  have marked := List.find?_some generated
  exact List.mem_append_left _ (List.mem_filter.mpr ⟨List.mem_of_find?_eq_some generated, marked⟩)

theorem Touched.sameApart {version : Int64} (touched : R.Touched t (w.plan t d).sources version before after) :
    R.SameApart (w.writes t) before after := by
  unfold Touched at touched
  split at touched
  · rename_i asked
    exact .of_storeVersion (fun _ => version_written asked.2) touched
  · rw [touched]
    exact .refl before

theorem writeBack_sameApart {bound : Bound} {reply : w.Reply} {answer : Except Error Unit}
    (run : Script.Runs ctx (R.writeBack ctx t (w.plan t d) bound w reply before) log (.ok (answer, after))) :
    R.SameApart (w.writes t) before after := by
  cases w with
  | insert =>
    replace run : Script.Runs ctx (R.writeBack ctx t (Plan.insert t d) bound .insert reply before) log
      (.ok (answer, after)) := run
    cases generated : (Plan.insert t d).generated with
    | none =>
      simp only [writeBack, generated] at run
      cases run.2
      exact .refl before
    | some c =>
      cases reply with
      | none =>
        simp only [writeBack, generated] at run
        cases run.2
        exact .refl before
      | some key =>
        simp only [writeBack, generated, Step.bind_apply, Step.ofExcept_apply, Script.bind] at run
        cases converted : ctx.converter.fromDb c key with
        | error e =>
          rw [converted] at run
          cases run.2
          exact .refl before
        | ok id =>
          rw [converted] at run
          exact .of_writeField (generated_written generated) (Except.ok.inj run.2).symm
  | update accepts =>
    rw [writeBack_update] at run
    by_cases greatest : bound.version = Int64.maxValue
    · rw [Step.bind_of_fault (nextVersion_overflows greatest before)] at run
      cases run.2
    · rw [Step.bind_of_done (nextVersion_next greatest before)] at run
      refine .of_storeVersion (fun c versioned => ?_) (Except.ok.inj run.2).symm
      exact Option.mem_toList.mpr versioned
  | delete =>
    cases run.2
    exact .refl before

theorem Unbound.sameApart {e : Error} (unbound : R.Unbound ctx.converter t (w.plan t d) before e after) :
    R.SameApart (w.writes t) before after := by
  rcases unbound.touched with same | ⟨_, touched⟩
  · rw [same]
    exact .refl before
  · exact touched.sameApart

theorem Prepared.sameApart {early : List Exchange} {bound : Bound} (p : R.Prepared ctx w before t early mid bound after)
    (noPreHook : R.hooks w.preHook ctx = pure ()) : R.SameApart (w.writes t) before after := by
  obtain ⟨_, rfl⟩ := p.unhooked noPreHook
  exact p.binds.touched.sameApart

theorem Halted.sameApart {α : Type} {answer : Except Error α} (registered : ctx.table? R.typeName = some t)
    (noPreHook : R.hooks w.preHook ctx = pure ()) (halted : R.Halted ctx w t before log (.ok (answer, after))) :
    R.SameApart (w.writes t) before after := by
  cases halted with
  | withoutKeys => exact .refl before
  | inPreHook _ hook stops =>
    rw [noPreHook] at hook
    cases hook.2
    cases stops
  | inBinding _ hook composing stops =>
    rw [noPreHook] at hook
    cases hook.2
    obtain ⟨_, _ | unbound | _⟩ := compose_run registered composing
    all_goals cases stops
    exact unbound.sameApart
  | @inStatement _ _ _ _ _ stop _ prepared _ stops =>
    have kept := prepared.sameApart noPreHook
    cases stop with
    | error reason => cases stops
    | ok answer =>
      cases stops
      exact kept
  | inWriteBack prepared _ writing stops =>
    have kept := prepared.sameApart noPreHook
    cases stops
    exact kept.trans (writeBack_sameApart writing)

/-- Without hooks, a write leaves all fields but those that it is there to change, however it ends. -/
theorem Staged.sameApart {count : w.Result} {answer : Except Error w.Result}
    (registered : ctx.table? R.typeName = some t) (noPreHook : R.hooks w.preHook ctx = pure ())
    (noPostHook : R.hooks w.postHook ctx = pure ())
    (staged : R.Staged ctx w t count before log (.ok (answer, after))) : R.SameApart (w.writes t) before after := by
  generalize ended : (.ok (answer, after) : Except Fault (Except Error w.Result × R.Values)) = outcome at staged
  cases staged with
  | halted why =>
    subst ended
    exact why.sameApart registered noPreHook
  | tooMany => cases ended
  | postHook effected _ hook =>
    rw [noPostHook] at hook
    cases hook.2
    cases ended
    obtain ⟨prepared, _, written⟩ := effected
    exact (prepared.sameApart noPreHook).trans (writeBack_sameApart written)

theorem KeyWritten.generated_field {x : Exchange} (written : R.KeyWritten ctx (some c) x before after) :
    ∃ key?, ctx.dialect.keyReport.Reports x key? ∧
      match key? with
      | none => after = before
      | some key => ∃ id, ctx.converter.fromDb c key = .ok id ∧ R.Shows c.path id after := by
  obtain ⟨_ | key, reports, ended⟩ := written
  · exact ⟨none, reports, ended⟩
  · obtain ⟨id, converted, wrote⟩ := ended
    exact ⟨some key, reports, id, converted, shows_write wrote⟩

/-- Binding an insertion leaves the field of the generated key, as the version that it writes has a field of its own. -/
theorem Binds.generated_kept {bound : Bound} (maps : R.Maps t) (undotted : R.fields.Undotted)
    (stored : c ∈ t.storedColumns) (auto : c.autoIncrement = true)
    (binds : R.Binds ctx.converter t (Plan.insert t d) before bound after) {l : Leaf R.fields}
    (bears : l.path = c.path) : l.get after = l.get before := by
  have touched := binds.touched
  unfold Touched at touched
  split at touched
  · rename_i asked
    have asks := asked.2
    rw [Plan.insert_sources] at asks
    obtain ⟨⟨v, _⟩, term, rfl⟩ := List.mem_map.mp asks
    obtain ⟨i, here, kept, manual, next⟩ := Table.mem_boundTerms.mp term
    have versioned := Table.versionColumn?_of_storedSource here next
    have apart : R.SameApart [v] before after := by
      refine .of_storeVersion (fun k same => ?_) touched
      cases versioned.symm.trans same
      exact List.mem_singleton_self v
    refine apart.leaves l fun k member same => ?_
    rw [List.mem_singleton] at member
    subst member
    have keptVersion : k ∈ t.storedColumns := Table.mem_storedColumns_of_version versioned kept
    have equal := maps.sound.storedColumns_inj undotted stored keptVersion (bears.symm.trans same)
    rw [← equal, auto] at manual
    cases manual
  · rw [touched]

/-- Without hooks, a write changes no field but the generated key and the version for an insertion, the version for an
update, and none for a deletion, however it ends. After an insertion that succeeded, the generated key shows what the
converter makes of the key that the database reported for the statement, or is as it was if none was reported. -/
theorem written_fields (registered : ctx.table? R.typeName = some t) (maps : R.Maps t)
    (undotted : R.fields.Undotted) :
    (∀ (w : Write) (count : w.Result) {before log answer after}, R.hooks w.preHook ctx = pure () →
      R.hooks w.postHook ctx = pure () → Script.Runs ctx (R.perform ctx w count before) log (.ok (answer, after)) →
      R.SameApart (w.writes t) before after) ∧
    ∀ {c : Column} {before log after}, c ∈ t.storedColumns → c.autoIncrement = true →
      R.hooks .preInsert ctx = pure () → R.hooks .postInsert ctx = pure () →
      Script.Runs ctx (R.insert ctx before) log (.ok (.ok (), after)) →
      ∃ x key?, log = [x] ∧ x.sql = (Plan.insert t ctx.dialect).sql ∧ ctx.dialect.keyReport.Reports x key? ∧
        match key? with
        | none => ∀ l : Leaf R.fields, l.path = c.path → l.get after = l.get before
        | some key => ∃ id, ctx.converter.fromDb c key = .ok id ∧ R.Shows c.path id after := by
  constructor
  · intro w count before log answer after noPreHook noPostHook run
    exact (perform_staged registered run).sameApart registered noPreHook noPostHook
  · intro c before log after stored auto noPreHook noPostHook run
    obtain ⟨x, bound, mid, rfl, sent, _, binds, written⟩ := insert_ok registered noPreHook noPostHook run
    rw [generated_eq maps stored auto] at written
    obtain ⟨key?, reports, ended⟩ := written.generated_field
    refine ⟨x, key?, rfl, sent.1.trans binds.sql, reports, ?_⟩
    cases key? with
    | none =>
      intro l bears
      rw [ended]
      exact binds.generated_kept maps undotted stored auto bears
    | some key => exact ended

end RecordType

def countedContext : Context := { dialect := .sqlite "" false, converter := {}, tables := [countedEvents] }

def countedEvent (id version : Int64) : eventType.Values :=
  (⟨id.toInt, id.le_toInt, id.toInt_le⟩, ⟨0⟩, ⟨version.toInt, version.le_toInt, version.toInt_le⟩, ())

def countedInsertion : Exchange :=
  .exec (Plan.insert countedEvents countedContext.dialect).sql [.timestamp 0, .bigInt 1]
    (.ok { rowsAffected := 1, lastInsertId := some 7 })

/-- A new event comes out of its insertion with the reported key and the first version, at the same moment. -/
theorem counted_event_written :
    Script.Runs countedContext (eventType.insert countedContext (countedEvent 0 0)) [countedInsertion]
      (.ok (.ok (), countedEvent 7 1)) ∧
    eventType.SameApart (Write.insert.writes countedEvents) (countedEvent 0 0) (countedEvent 7 1) ∧
    ∃ x key?, [countedInsertion] = [x] ∧ x.sql = (Plan.insert countedEvents countedContext.dialect).sql ∧
      countedContext.dialect.keyReport.Reports x key? ∧
      match key? with
      | none => ∀ l : Leaf eventType.fields, l.path = "id" → l.get (countedEvent 7 1) = l.get (countedEvent 0 0)
      | some key => ∃ id, countedContext.converter.fromDb (countedEvents.columns.head (by decide)) key = .ok id ∧
          eventType.Shows "id" id (countedEvent 7 1) := by
  have run : Script.Runs countedContext (eventType.insert countedContext (countedEvent 0 0)) [countedInsertion]
      (.ok (.ok (), countedEvent 7 1)) := ⟨_, [], rfl, rfl, rfl⟩
  have registered : countedContext.table? eventType.typeName = some countedEvents := rfl
  have written := RecordType.written_fields registered countedEvents_maps eventType_undotted
  have stored : countedEvents.columns.head (by decide) ∈ countedEvents.storedColumns := by decide +kernel
  exact ⟨run, written.1 .insert () rfl rfl run, written.2 stored rfl rfl rfl run⟩

end RowMapper
