import RowMapper.Proofs.Crud.Update

/-!
# Updates with nothing to set

An update whose plan is empty is not sent, and counts as one that hit no row. So without a version nothing happens. A
version that is a key or transient is still checked and written, although no row was asked for it.
-/

namespace RowMapper

def Bound.unsent (keys : List Value) (version : Int64) : Bound := { sql := "", args := [], keys, version }

namespace Plan

variable {t : Table} {d : Dialect} {accepts : Option (Column → Bool)}

theorem updateTerms_of_empty (empty : ((Write.update accepts).plan t d).sql = "") :
    t.updateTerms (accepts.getD fun _ => true) = [] := by
  by_contra some
  exact update_sql_ne_empty some empty

theorem sources_of_empty (empty : ((Write.update accepts).plan t d).sql = "") :
    ((Write.update accepts).plan t d).sources = [] := by
  simp [Write.plan, Plan.update, updateTerms_of_empty empty]

end Plan

namespace RecordType

variable {R : RecordType} {ctx : Context} {t : Table} {c : Column} {accepts : Option (Column → Bool)} {count : Nat}
  {version : Int64} {keys : List Value} {before : R.Values} {log : List Exchange}

/-- What a record shows of its row: its version, and its keys as the database holds them. -/
def rowOf (R : RecordType) (conv : Converter) (t : Table) (v : R.Values) : Except Error (Int64 × List Value) := do
  let version ← R.localVersion t v
  let keys ← t.keyColumns.mapM (R.supplied conv · v)
  return (version, keys)

/-- Binding a plan without arguments only reads the version and the keys. -/
theorem bind_of_no_sources {conv : Converter} {plan : Plan} (none : plan.sources = []) :
    R.bind conv t plan before = .done ((R.rowOf conv t before).map fun (version, keys) =>
      { sql := plan.sql, args := [], keys, version }, before) := by
  unfold bind rowOf
  rw [none]
  have read : (liftM (R.loadedVersion t) : Step R.Values Int64) before = _ := loadedVersion_step
  cases shown : R.localVersion t before with
  | error e =>
    rw [shown] at read
    exact Step.bind_of_failed read
  | ok version =>
    rw [shown] at read
    have noArgs : (([] : List Source).mapM (R.argument conv t version) : Step R.Values (List Value)) before =
        .done (.ok [], before) := rfl
    rw [Step.bind_of_done read, Step.bind_of_done noArgs]
    have keys : (t.keyColumns.mapM (R.storedField conv) : Step R.Values (List Value)) before = _ :=
      storedFields_apply conv t.keyColumns
    cases found : t.keyColumns.mapM (R.supplied conv · before) with
    | error e => exact Step.bind_of_failed (keys.trans (by rw [found]))
    | ok xs => exact Step.bind_of_done (keys.trans (by rw [found]))

/-- An update with an empty plan goes on as one that was sent to no row. -/
theorem update_unsent (registered : ctx.table? R.typeName = some t) (keyed : t.keys ≠ [])
    (empty : ((Write.update accepts).plan t ctx.dialect).sql = "") (noPreHook : R.hooks .preUpdate ctx = pure ())
    {outcome : Except Fault (Except Error Nat × R.Values)}
    (run : Script.Runs ctx (R.update ctx accepts count before) log outcome) :
    match R.rowOf ctx.converter t before with
    | .error e => log = [] ∧ outcome = .ok (.error e, before)
    | .ok (version, keys) => R.UpdateRun ctx t accepts (.unsent keys version) count before log outcome := by
  have announced : R.announce ctx (.update accepts) before = .done (.ok t, before) :=
    announce_of_no_hook registered (fun _ => keyed) noPreHook
  have bound : R.bind ctx.converter t _ before = _ := bind_of_no_sources (Plan.sources_of_empty empty)
  cases shown : R.rowOf ctx.converter t before with
  | error e =>
    rw [shown] at bound
    have composing {stop : Except Fault (Except Error (Plan × Bound) × R.Values)} {sent : List Exchange}
        (run : Script.Runs ctx (R.compose ctx t (.update accepts) before) sent stop) :
        sent = [] ∧ stop = .ok (.error e, before) := by
      rw [compose_runs registered, Step.bind_of_failed bound] at run
      exact run
    unfold update at run
    rw [Step.bind_of_done announced] at run
    rcases Step.runs_bind.mp run with ⟨reason, first, _⟩ | ⟨_, _, first, rfl⟩ | ⟨_, _, _, _, first, _, _⟩
    · cases (composing first).2
    · obtain ⟨rfl, same⟩ := composing first
      cases same
      exact ⟨rfl, rfl⟩
    · cases (composing first).2
  | ok row =>
    obtain ⟨version, keys⟩ := row
    rw [shown, empty] at bound
    have prepared : R.Prepared ctx (.update accepts) before t [] before (.unsent keys version) before := by
      refine ⟨by rw [announced]; exact ⟨rfl, rfl⟩, (compose_runs registered).mpr ?_⟩
      rw [Step.bind_of_done bound]
      exact ⟨rfl, rfl⟩
    exact prepared.update_run run

theorem version_unset (versioned : t.versionColumn? = some c)
    (empty : ((Write.update accepts).plan t ctx.dialect).sql = "") : c.isTransient = true ∨ c.primaryKey = true := by
  by_contra settable
  rw [not_or, Bool.not_eq_true, Bool.not_eq_true] at settable
  have stored : t.StoresVersion c := ⟨versioned, settable.2, settable.1⟩
  exact List.ne_nil_of_mem stored.mem_updateTerms (Plan.updateTerms_of_empty empty)

theorem sent_of_unsent {sent : List Exchange} {rows : Nat} (answered : (Bound.unsent keys version).Sent sent rows) :
    sent = [] ∧ rows = 0 := by
  cases answered with
  | empty => exact ⟨rfl, rfl⟩
  | answered result some => exact absurd rfl some

namespace UpdateRun

variable {outcome : Except Fault (Except Error Nat × R.Values)}

theorem unsent_conflict (found : isConflict t (.unsent keys version) 0 = true)
    (run : R.UpdateRun ctx t accepts (.unsent keys version) count before log outcome) :
    ∃ lookup, log = [.query (Plan.get t ctx.dialect).sql keys lookup] ∧
      outcome = (t.refusal (.unsent keys version) lookup).map fun e => (.error e, before) := by
  have impossible {sent : List Exchange} {rows : Nat} (answered : (Bound.unsent keys version).Sent sent rows)
      (settled : isConflict t (.unsent keys version) rows = false) : False := by
    rw [(sent_of_unsent answered).2, found] at settled
    cases settled
  cases run with
  | refused e some => exact absurd rfl some
  | conflict lookup answered =>
    obtain ⟨rfl, rfl⟩ := sent_of_unsent answered
    exact ⟨lookup, rfl, rfl⟩
  | noNextVersion answered settled | unstored answered settled | tooMany answered settled | stored answered settled =>
    exact (impossible answered settled).elim

theorem unsent_settled (settled : isConflict t (.unsent keys version) 0 = false) (hasNext : version ≠ Int64.maxValue)
    (few : count < UInt64.size) (noPostHook : R.hooks .postUpdate ctx = pure ())
    (run : R.UpdateRun ctx t accepts (.unsent keys version) count before log outcome) :
    log = [] ∧ outcome = .ok (
      match R.storeVersion t (version + 1) before with
      | (.ok (), after) => (.ok count, after)
      | (.error e, _) => (.error e, before)) := by
  cases run with
  | refused e some => exact absurd rfl some
  | conflict lookup answered found =>
    rw [(sent_of_unsent answered).2, settled] at found
    cases found
  | noNextVersion _ _ greatest => exact absurd greatest hasNext
  | unstored answered _ _ failed =>
    replace failed : R.storeVersion t (version + 1) before = _ := failed
    rw [failed]
    exact ⟨(sent_of_unsent answered).1, rfl⟩
  | tooMany answered _ _ _ many =>
    rw [(sent_of_unsent answered).2] at many
    exact absurd few (Nat.not_lt_of_le many)
  | stored answered _ _ wrote _ hook =>
    obtain ⟨rfl, rfl⟩ := sent_of_unsent answered
    replace hook : Script.Runs ctx ((R.hooks .postUpdate ctx >>= fun _ => (return count : Step R.Values Nat)) _) _ _ :=
      hook
    rw [noPostHook] at hook
    obtain ⟨rfl, rfl⟩ := hook
    replace wrote : R.storeVersion t (version + 1) before = _ := wrote
    rw [wrote]
    exact ⟨rfl, rfl⟩

end UpdateRun

/-- Without a version, an update with nothing to set does nothing. With one, which then is a key or transient, a
positive version is a conflict with a row that no statement asked for, and any other is written as the next one. -/
theorem nothing_set (registered : ctx.table? R.typeName = some t) (keyed : t.keys ≠ [])
    (empty : ((Write.update accepts).plan t ctx.dialect).sql = "") (noPreHook : R.hooks .preUpdate ctx = pure ())
    (noPostHook : R.hooks .postUpdate ctx = pure ()) (few : count < UInt64.size)
    {outcome : Except Fault (Except Error Nat × R.Values)}
    (run : Script.Runs ctx (R.update ctx accepts count before) log outcome) :
    (∀ e, R.rowOf ctx.converter t before = .error e → log = [] ∧ outcome = .ok (.error e, before)) ∧
    ∀ version keys, R.rowOf ctx.converter t before = .ok (version, keys) →
      (t.versionColumn? = none → log = [] ∧ outcome = .ok (.ok count, before)) ∧
      ∀ c, t.versionColumn? = some c →
        (c.isTransient = true ∨ c.primaryKey = true) ∧
        (0 < version → ∃ lookup, log = [.query (Plan.get t ctx.dialect).sql keys lookup] ∧
          outcome = (t.refusal (.unsent keys version) lookup).map fun e => (.error e, before)) ∧
        (¬0 < version → log = [] ∧ outcome = .ok (
          match R.write c.path (.bigInt (version + 1)) before with
          | .ok after => (.ok count, after)
          | .error e => (.error e, before))) := by
  have goesOn := update_unsent registered keyed empty noPreHook run
  refine ⟨fun e unread => ?_, fun version keys shown => ⟨fun versionless => ?_, fun c versioned => ?_⟩⟩
  · rw [unread] at goesOn
    exact goesOn
  · rw [shown] at goesOn
    have zero : version = 0 := by
      obtain ⟨v, read, rest⟩ := except_bind_ok shown
      obtain ⟨_, _, same⟩ := except_bind_ok rest
      cases same
      unfold localVersion at read
      rw [versionless] at read
      exact (Except.ok.inj read).symm
    subst zero
    have settled : isConflict t (.unsent keys 0) 0 = false := by
      simp [isConflict, Bound.unsent]
    have ended := goesOn.unsent_settled settled (by decide) few noPostHook
    rwa [storeVersion_of_none versionless] at ended
  · rw [shown] at goesOn
    refine ⟨version_unset versioned empty, fun positive => ?_, fun unchecked => ?_⟩
    · exact goesOn.unsent_conflict (isConflict_iff.mpr ⟨rfl, Table.version_isSome versioned, positive⟩)
    · have settled : isConflict t (.unsent keys version) 0 = false :=
        Bool.eq_false_iff.mpr fun found => unchecked (isConflict_iff.mp found).2.2
      have hasNext : version ≠ Int64.maxValue := by
        rintro rfl
        exact unchecked (by decide)
      have ended := goesOn.unsent_settled settled hasNext few noPostHook
      rw [storeVersion_of_column versioned, writeField] at ended
      cases wrote : R.write c.path (.bigInt (version + 1)) before with
      | ok after =>
        rw [wrote] at ended
        exact ended
      | error e =>
        rw [wrote] at ended
        exact ended

end RecordType

/-- Links that have nothing but keys, one of which is the version. -/
def linkType : RecordType where
  typeName := "Link"
  recordName := "Link"
  tableName := "links"
  fields := .column "id" none (.int .i64) (.column "version" none (.int .i64) .nil)

def links : Table :=
  ((Table.ofFields "Link" "links" none linkType.fields).setKeys false ["id", "version"]).toOption.getD
    (.ofFields "Link" "links" none linkType.fields)

def linkContext : Context := { dialect := .sqlite "" false, converter := {}, tables := [links] }

def link (id version : Int64) : linkType.Values :=
  (⟨id.toInt, id.le_toInt, id.toInt_le⟩, ⟨version.toInt, version.le_toInt, version.toInt_le⟩, ())

def linkLookup : Exchange :=
  .query (Plan.get links linkContext.dialect).sql [.bigInt 5, .bigInt 1]
    (.ok [{ columns := ["id", "version"], values := [.bigInt 5, .bigInt 1] }])

def linkConflict : Error :=
  .optimisticLock { tableName := "links", keys := [.bigInt 5, .bigInt 1], rowExists := true, localVersion := 1 }

theorem link_update : Script.Runs linkContext (linkType.update linkContext none 0 (link 5 1)) [linkLookup]
    (.ok (.error linkConflict, link 5 1)) :=
  Script.runs_query.mpr ⟨_, [], rfl, rfl, rfl⟩

/-- A link with version 1 shows it as a key, and its update looks the row up. -/
theorem link_nothing_set :
    linkType.rowOf {} links (link 5 1) = .ok (1, [.bigInt 5, .bigInt 1]) ∧
    ∃ lookup, [linkLookup] = [.query (Plan.get links linkContext.dialect).sql [.bigInt 5, .bigInt 1] lookup] ∧
      (.ok (.error linkConflict, link 5 1) : Except Fault (Except Error Nat × linkType.Values)) =
        (links.refusal (.unsent [.bigInt 5, .bigInt 1] 1) lookup).map fun e => (.error e, link 5 1) := by
  have shown : linkType.rowOf {} links (link 5 1) = .ok (1, [.bigInt 5, .bigInt 1]) := rfl
  have nothing := RecordType.nothing_set (t := links) rfl (by decide) rfl rfl rfl (by decide) link_update
  obtain ⟨_, conflict, _⟩ := (nothing.2 1 _ shown).2 _ rfl
  exact ⟨shown, conflict (by decide)⟩

/-- An update of a link sends no update. One with version 1 is refused, although its row has that version; one without a
version comes out with another key. -/
theorem link_update_not_skipped :
    ((Write.update none).plan links linkContext.dialect).sql = "" ∧
    Script.Runs linkContext (linkType.update linkContext none 0 (link 5 1)) [linkLookup]
      (.ok (.error linkConflict, link 5 1)) ∧
    Script.Runs linkContext (linkType.update linkContext none 0 (link 5 0)) [] (.ok (.ok 0, link 5 1)) ∧
    linkType.read "version" (link 5 0) = .ok (.bigInt 0) ∧ linkType.read "version" (link 5 1) = .ok (.bigInt 1) :=
  ⟨rfl, link_update, ⟨rfl, rfl⟩, rfl, rfl⟩

end RowMapper
