import Mathlib.Data.List.Induction
import RowMapper.Backend.Scripted
import RowMapper.Proofs.History
import RowMapper.Proofs.Table.Configuration

/-!
# Registration

A registry is what its log of calls says. Each registered type has one table, in the order of first registration. The
table is what the calls on it since then made of the fields, under the name that was registered last; calls on other
types do nothing to it, and every lookup of the type finds it.
-/

namespace RowMapper

theorem eraseDups_concat (names : List String) (name : String) :
    (names ++ [name]).eraseDups = if name ∈ names then names.eraseDups else names.eraseDups ++ [name] := by
  rw [List.eraseDups_append]
  by_cases known : name ∈ names
  · rw [if_pos known]
    simp [List.removeAll, known]
  · rw [if_neg known]
    simp [List.removeAll, List.eraseDups_cons, known]

theorem nodup_eraseDups (names : List String) : names.eraseDups.Nodup := by
  induction names using List.reverseRecOn with
  | nil => exact List.nodup_nil
  | append_singleton names name ih =>
    rw [eraseDups_concat]
    split
    · exact ih
    · rename_i fresh
      rw [← List.concat_eq_append]
      exact ih.concat (mt List.mem_eraseDups.mp fresh)

/-- The call that a step of a configuration makes, unless it leaves the table as it is. -/
def TableStep.call? : TableStep → Option TableCall
  | change c => some (.change c)
  | forgetPlans | column _ | index _ | definition _ => none

namespace RegisteredTable

variable {r after : RegisteredTable} {d : Dialect}

theorem step_calls {s : TableStep} {answer : TableAnswer} (done : r.step d s = .ok (answer, after)) :
    r.table.calls s.call?.toList = .ok after.table := by
  cases s with
  | change c =>
    obtain ⟨⟨changed, next⟩, made, same⟩ := except_map_ok done
    obtain ⟨result, changes, sameResult⟩ := except_map_ok made
    cases same
    have called : r.table.call (.change c) = .ok after.table := by
      rw [Table.call, changes]
      cases c <;> cases sameResult <;> rfl
    show r.table.calls [.change c] = _
    rw [Table.calls, List.foldlM_cons, called]
    rfl
  | forgetPlans | index name =>
    cases done
    rfl
  | column name | definition guarded =>
    obtain ⟨_, _, same⟩ := except_map_ok done
    cases same
    rfl

theorem steps_calls {steps : List TableStep} {answers : List TableAnswer}
    (done : r.steps d steps = .ok (answers, after)) :
    r.table.calls (steps.filterMap TableStep.call?) = .ok after.table := by
  induction steps generalizing r answers with
  | nil =>
    cases done
    rfl
  | cons first rest ih =>
    obtain ⟨⟨answer, mid⟩, stepped, done⟩ := except_bind_ok done
    obtain ⟨⟨others, last⟩, went, done⟩ := except_bind_ok done
    cases done
    have split : (first :: rest).filterMap TableStep.call? = first.call?.toList ++ rest.filterMap TableStep.call? := by
      rw [List.filterMap_cons]
      cases first.call? <;> rfl
    rw [split, Table.calls_append, step_calls stepped]
    exact ih went

end RegisteredTable

/-- A registration of a record type, under its default name if it gives none. -/
structure Registration where
  type : RecordType
  schema : Option String
  name : Option String

def Registration.tableName (g : Registration) : String := g.name.getD g.type.tableName

inductive RegistryCall where
  | register (g : Registration)
  | configure (typeName : String) (steps : List TableStep)
  | dropIndex (typeName index : String)

namespace RegistryCall

def typeName : RegistryCall → String
  | register g => g.type.typeName
  | configure typeName _ | dropIndex typeName _ => typeName

def registration? : RegistryCall → Option Registration
  | register g => some g
  | configure _ _ | dropIndex _ _ => none

def configures (typeName : String) : RegistryCall → List TableCall
  | register _ => []
  | configure other steps => if other = typeName then steps.filterMap TableStep.call? else []
  | dropIndex other index => if other = typeName then [.removeIndex index] else []

theorem typeName_of_registration? {call : RegistryCall} {g : Registration} (registers : call.registration? = some g) :
    call.typeName = g.type.typeName := by
  cases call <;> cases registers
  rfl

theorem configures_other {typeName : String} {call : RegistryCall} (apart : call.typeName ≠ typeName) :
    call.configures typeName = [] := by
  cases call with
  | register g => rfl
  | configure other steps | dropIndex other index => exact if_neg apart

theorem isRename_of_mem_configures {typeName : String} {call : RegistryCall} :
    ∀ c ∈ call.configures typeName, c.isRename = false := by
  intro c member
  cases call with
  | register g => cases member
  | configure other steps =>
    simp only [configures] at member
    split at member
    · obtain ⟨step, _, isCall⟩ := List.mem_filterMap.mp member
      cases step <;> cases isCall
      rfl
    · cases member
  | dropIndex other index =>
    simp only [configures] at member
    split at member
    · cases List.mem_singleton.mp member
      rfl
    · cases member

end RegistryCall

def registrations (log : List RegistryCall) : List Registration := log.filterMap RegistryCall.registration?

def registeredNames (log : List RegistryCall) : List String := (registrations log).map (·.type.typeName)

def registrationsOf (typeName : String) (log : List RegistryCall) : List Registration :=
  (registrations log).filter (·.type.typeName = typeName)

/-- The configuration of the table of a type in a log, registrations aside. -/
def configurationOf (typeName : String) (log : List RegistryCall) : List TableCall :=
  log.flatMap (RegistryCall.configures typeName)

theorem configurationOf_concat (typeName : String) (log : List RegistryCall) (call : RegistryCall) :
    configurationOf typeName (log ++ [call]) = configurationOf typeName log ++ call.configures typeName := by
  rw [configurationOf, List.flatMap_append, List.flatMap_singleton]
  rfl

/-- A table of a type as a log has it: what the configuration since the first registration of the type made of the
fields that were registered then, under the name and in the schema that were registered last. -/
def MadeBy (log : List RegistryCall) (typeName : String) (t : Table) : Prop :=
  ∃ before first after plain, log = before ++ .register first :: after ∧ first.type.typeName = typeName ∧
    (∀ g ∈ registrations before, g.type.typeName ≠ typeName) ∧
    first.type.Configured first.tableName first.schema (configurationOf typeName after) plain ∧
    let last := (registrationsOf typeName after).getLastD first
    t = plain.renamed last.schema last.tableName

namespace MadeBy

variable {log : List RegistryCall} {typeName : String} {t next : Table} {g : Registration}

theorem first (new : ∀ h ∈ registrations log, h.type.typeName ≠ g.type.typeName) :
    MadeBy (log ++ [.register g]) g.type.typeName (.ofFields g.type.typeName g.tableName g.schema g.type.fields) :=
  ⟨log, g, [], .ofFields g.type.typeName g.tableName g.schema g.type.fields, rfl, rfl, new, rfl, rfl⟩

theorem sameType (made : MadeBy log typeName t) : t.typeName = typeName := by
  obtain ⟨_, _, _, plain, _, isType, _, configured, rfl⟩ := made
  exact (Table.calls_typeName configured).trans isType

/-- A type that is registered again keeps its table, under the new name. -/
theorem again (made : MadeBy log typeName t) (same : g.type.typeName = typeName) :
    MadeBy (log ++ [.register g]) typeName (t.renamed g.schema g.tableName) := by
  obtain ⟨before, first, after, plain, rfl, isType, new, configured, rfl⟩ := made
  refine ⟨before, first, after ++ [.register g], plain, ?_, isType, new, ?_, ?_⟩
  · rw [List.append_assoc, List.cons_append]
  · rw [configurationOf_concat, RegistryCall.configures, List.append_nil]
    exact configured
  · have last : registrationsOf typeName (after ++ [.register g]) = registrationsOf typeName after ++ [g] := by
      simp [registrationsOf, registrations, RegistryCall.registration?, same]
    rw [last, List.getLastD_concat]
    rfl

/-- A call that does not register the type does to its table what it configures of it. -/
theorem called {call : RegistryCall} (made : MadeBy log typeName t)
    (other : ∀ g, call.registration? = some g → g.type.typeName ≠ typeName)
    (done : t.calls (call.configures typeName) = .ok next) : MadeBy (log ++ [call]) typeName next := by
  obtain ⟨before, first, after, plain, rfl, isType, new, configured, rfl⟩ := made
  -- The call is made on the table under its last name, the log collects the calls under the first one.
  obtain ⟨configuredNext, calls, rfl⟩ := Table.calls_of_renamed done RegistryCall.isRename_of_mem_configures
  refine ⟨before, first, after ++ [call], configuredNext, ?_, isType, new, ?_, ?_⟩
  · rw [List.append_assoc, List.cons_append]
  · rw [RecordType.Configured, configurationOf_concat, Table.calls_append, configured]
    exact calls
  · have last : registrationsOf typeName (after ++ [call]) = registrationsOf typeName after := by
      unfold registrationsOf registrations
      rw [List.filterMap_append, List.filter_append, List.append_right_eq_self]
      cases isRegistration : call.registration? with
      | none => simp [isRegistration]
      | some g => simp [isRegistration, other g isRegistration]
    rw [last]

theorem frame {call : RegistryCall} (made : MadeBy log typeName t) (apart : call.typeName ≠ typeName) :
    MadeBy (log ++ [call]) typeName t := by
  apply made.called
  · intro g registers
    rw [← RegistryCall.typeName_of_registration? registers]
    exact apart
  · rw [RegistryCall.configures_other apart]
    rfl

end MadeBy

namespace Registry

variable {r : Registry} {typeName : String}

theorem find?_eq_none_iff : r.find? typeName = none ↔ typeName ∉ r.tables.map (·.typeName) := by
  unfold find? tables
  rw [List.find?_eq_none, List.map_map, List.mem_map]
  simp

theorem place_unique {i j : Nat} {entry other : RegisteredTable} (once : (r.tables.map (·.typeName)).Nodup)
    (here : r.entries[i]? = some entry) (there : r.entries[j]? = some other)
    (same : other.table.typeName = entry.table.typeName) : j = i := by
  have nameAt (k : Nat) : (r.tables.map (·.typeName))[k]? = r.entries[k]?.map (·.table.typeName) := by
    rw [tables, List.map_map, List.getElem?_map]
    rfl
  have inRange : j < (r.tables.map (·.typeName)).length := by
    rw [List.length_map, tables, List.length_map]
    exact (List.getElem?_eq_some_iff.mp there).1
  apply (List.getElem?_inj inRange once).mp
  rw [nameAt, nameAt, here, there, Option.map_some, Option.map_some, same]

theorem put_eq_set {i : Nat} {entry new : RegisteredTable} (once : (r.tables.map (·.typeName)).Nodup)
    (here : r.entries[i]? = some entry) (same : new.table.typeName = entry.table.typeName) :
    r.put new = { entries := r.entries.set i new } := by
  unfold put
  congr 1
  apply List.ext_getElem?
  intro j
  rw [List.getElem?_map, List.getElem?_set]
  by_cases isPlace : i = j
  · subst isPlace
    rw [if_pos rfl, if_pos (List.getElem?_eq_some_iff.mp here).1, here, Option.map_some, if_pos same.symm]
  · rw [if_neg isPlace]
    cases there : r.entries[j]? with
    | none => rfl
    | some other =>
      have apart : other.table.typeName ≠ new.table.typeName := by
        rw [same]
        exact fun sameType => isPlace (place_unique once here there sameType).symm
      rw [Option.map_some, if_neg apart]

end Registry

/-- Tables as a log has them: one for each type that is registered, in the order of first registration. -/
structure Follows (tables : List Table) (log : List RegistryCall) : Prop where
  names : tables.map (·.typeName) = (registeredNames log).eraseDups
  made : ∀ t ∈ tables, MadeBy log t.typeName t

theorem registeredNames_concat (log : List RegistryCall) (call : RegistryCall) :
    registeredNames (log ++ [call]) =
      registeredNames log ++ (call.registration?.map (·.type.typeName)).toList := by
  unfold registeredNames registrations
  rw [List.filterMap_append, List.map_append]
  cases registers : call.registration? <;> simp [registers]

namespace Follows

variable {tables : List Table} {r after : Registry} {log : List RegistryCall} {d : Dialect} {typeName : String}

theorem mem_names (follows : Follows tables log) :
    typeName ∈ tables.map (·.typeName) ↔ typeName ∈ registeredNames log := by
  rw [follows.names, List.mem_eraseDups]

/-- A call that replaces the table of its type. -/
theorem replaced {call : RegistryCall} {t : Table} (follows : Follows tables log) (about : call.typeName = t.typeName)
    (known : t.typeName ∈ tables.map (·.typeName)) (made : MadeBy (log ++ [call]) t.typeName t) :
    Follows (tables.map fun s => if s.typeName = t.typeName then t else s) (log ++ [call]) where
  names := by
    have sameNames : (tables.map fun s => if s.typeName = t.typeName then t else s).map (·.typeName) =
        tables.map (·.typeName) := by
      rw [List.map_map]
      apply List.map_congr_left
      intro s _
      rw [Function.comp_apply]
      split
      · rename_i same
        exact same.symm
      · rfl
    rw [sameNames, follows.names, registeredNames_concat]
    cases registers : call.registration? with
    | none => rw [Option.map_none, Option.toList_none, List.append_nil]
    | some g =>
      have sameType : g.type.typeName = t.typeName := by
        rw [← about, RegistryCall.typeName_of_registration? registers]
      rw [Option.map_some, Option.toList_some, sameType, eraseDups_concat, if_pos (follows.mem_names.mp known)]
  made := by
    intro s member
    obtain ⟨old, there, rfl⟩ := List.mem_map.mp member
    split
    · exact made
    · rename_i apart
      apply (follows.made old there).frame
      rw [about]
      exact Ne.symm apart

/-- Only the entry of the type has to be made by the call. -/
theorem put (call : RegistryCall) {entry new : RegisteredTable} (follows : Follows r.tables log)
    (found : r.find? typeName = some entry) (about : call.typeName = typeName)
    (made : MadeBy log typeName entry.table → MadeBy (log ++ [call]) typeName new.table) :
    Follows (r.put new).tables (log ++ [call]) := by
  obtain ⟨member, isType⟩ := Registry.mem_of_find? found
  have listed : entry.table ∈ r.tables := List.mem_map_of_mem member
  have madeNew := made (isType ▸ follows.made entry.table listed)
  have sameType : new.table.typeName = typeName := madeNew.sameType
  have tables :
      (r.put new).tables = r.tables.map fun s => if s.typeName = new.table.typeName then new.table else s := by
    unfold Registry.tables Registry.put
    rw [List.map_map, List.map_map]
    apply List.map_congr_left
    intro e _
    simp only [Function.comp_apply]
    split <;> rfl
  rw [tables]
  rw [← sameType] at madeNew about isType
  exact follows.replaced about (isType ▸ List.mem_map_of_mem listed) madeNew

theorem register (follows : Follows r.tables log) (g : Registration) :
    Follows (r.register g.type.typeName g.type.fields g.schema g.tableName).tables (log ++ [.register g]) := by
  unfold Registry.register
  split
  · rename_i entry found
    exact follows.put (.register g) found rfl fun made => made.again rfl
  · rename_i absent
    have unlisted := Registry.find?_eq_none_iff.mp absent
    have new := mt follows.mem_names.mpr unlisted
    refine ⟨?_, fun t member => ?_⟩
    · rw [Registry.tables, List.map_append, List.map_append, registeredNames_concat]
      show r.tables.map (·.typeName) ++ [g.type.typeName] = (registeredNames log ++ [g.type.typeName]).eraseDups
      rw [eraseDups_concat, if_neg new, follows.names]
    · rw [Registry.tables, List.map_append] at member
      rcases List.mem_append.mp member with old | isNew
      · refine (follows.made t old).frame fun same => unlisted ?_
        rw [show g.type.typeName = t.typeName from same]
        exact List.mem_map_of_mem old
      · cases List.mem_singleton.mp isNew
        refine MadeBy.first fun h registered same => new ?_
        exact same ▸ List.mem_map_of_mem registered

theorem configure (follows : Follows r.tables log) {steps : List TableStep} {answers : List TableAnswer}
    (done : r.configure d typeName steps = .ok (answers, after)) :
    Follows after.tables (log ++ [.configure typeName steps]) := by
  obtain ⟨entry, found, done⟩ := except_bind_ok done
  obtain ⟨⟨_, changed⟩, went, done⟩ := except_bind_ok done
  cases done
  refine follows.put (.configure typeName steps) (Registry.find_ok found) rfl fun made => made.called nofun ?_
  rw [RegistryCall.configures, if_pos rfl]
  exact RegisteredTable.steps_calls went

theorem removeIndex (follows : Follows r.tables log) {index : String}
    (done : r.removeIndex typeName index = .ok after) : Follows after.tables (log ++ [.dropIndex typeName index]) := by
  obtain ⟨entry, found, rfl⟩ := except_map_ok done
  refine follows.put (.dropIndex typeName index) (Registry.find_ok found) rfl fun made => made.called nofun ?_
  rw [RegistryCall.configures, if_pos rfl]
  rfl

end Follows

/-- What a mapper does between calls on its tables. -/
inductive Mapper.Between {B : Backend} (m : Mapper B) : Mapper B → Prop where
  | ran {α : Type} (via : Executor B) (s : Script α) : Between m (m.run via s).2
  | started : Between m m.start.2
  | committed (t : Transaction B) : Between m (m.commit t).2.2
  | rolledBack (t : Transaction B) : Between m (m.rollback t).2.2
  | left (t : Transaction B) : Between m (m.leave t)
  | changed (converter : Converter) (tracing : Option String) (trace : List String) (connection : B.State) :
    Between m { m with converter, tracing, trace, connection }
  /-- An index is not dropped after all. -/
  | indexKept {typeName index : String} {answer : Except Fault (Except Error Unit)} {after : Mapper B}
    (done : m.dropIndex typeName index = (answer, after)) (failed : answer ≠ .ok (.ok ())) : Between m after

namespace Mapper

variable {B : Backend} {m after : Mapper B} {log : List RegistryCall}

/-- The mappers that come of a new one, with the calls on their tables in order. -/
inductive ReachedBy : List RegistryCall → Mapper B → Prop where
  | fresh (d : Dialect) (connection : B.State) : ReachedBy [] { dialect := d, connection }
  | registered {log : List RegistryCall} {m : Mapper B} (g : Registration) (reached : ReachedBy log m) :
    ReachedBy (log ++ [.register g]) (m.register g.type g.schema g.name)
  | configured {log : List RegistryCall} {m after : Mapper B} {typeName : String} {steps : List TableStep}
    {answers : List TableAnswer} (reached : ReachedBy log m)
    (done : m.configure typeName steps = .ok (answers, after)) : ReachedBy (log ++ [.configure typeName steps]) after
  | indexDropped {log : List RegistryCall} {m after : Mapper B} {typeName index : String} (reached : ReachedBy log m)
    (done : m.dropIndex typeName index = (.ok (.ok ()), after)) : ReachedBy (log ++ [.dropIndex typeName index]) after
  | between {log : List RegistryCall} {m after : Mapper B} (reached : ReachedBy log m) (step : m.Between after) :
    ReachedBy log after

theorem Between.reached (step : m.Between after) (reached : m.Reached) : after.Reached := by
  cases step with
  | ran via s => exact reached.ran via s
  | started => exact reached.started
  | committed t => exact reached.committed t
  | rolledBack t => exact reached.rolledBack t
  | left t => exact reached.left t
  | changed converter tracing trace connection => exact reached.changed converter tracing trace connection
  | indexKept done failed =>
    obtain rfl := congrArg Prod.snd done
    exact reached.indexDropped _ _

theorem ReachedBy.reached (reached : ReachedBy log m) : m.Reached := by
  induction reached with
  | fresh d connection => exact .fresh d connection
  | registered g _ before => exact before.registered g.type g.schema g.name
  | configured _ done before => exact before.configured done
  | indexDropped _ done before =>
    obtain rfl := congrArg Prod.snd done
    exact before.indexDropped _ _
  | between _ step before => exact step.reached before

theorem ReachedBy.reconfigured (reached : ReachedBy log m) (typeName : String) (steps : List TableStep)
    (succeeds : (m.configure typeName steps).isOk = true) :
    ReachedBy (log ++ [.configure typeName steps]) (m.reconfigured typeName steps) := by
  unfold Mapper.reconfigured
  cases done : m.configure typeName steps with
  | ok result => exact reached.configured done
  | error reason =>
    rw [done] at succeeds
    cases succeeds

/-- Dropping an index runs a statement, and then forgets the index if that succeeds. -/
theorem dropIndex_tables (coherent : m.registry.Coherent m.dialect) {typeName index : String}
    {answer : Except Fault (Except Error Unit)} (done : m.dropIndex typeName index = (answer, after)) :
    (answer = .ok (.ok ()) ∧ ∃ registry : Registry, registry.tables = m.registry.tables ∧
      registry.removeIndex typeName index = .ok after.registry) ∨
    (answer ≠ .ok (.ok ()) ∧ after.registry.tables = m.registry.tables) := by
  have planned : RunsAsPlanned .mapper m (m.context.dropIndex typeName index) := runsAsPlanned coherent _
  have kept : (m.run .mapper (m.context.dropIndex typeName index)).2.registry.tables = m.registry.tables :=
    congrArg Context.tables planned.context
  unfold dropIndex at done
  -- Only a statement that neither faults nor fails lets the index be forgotten.
  rcases ran : m.run .mapper (m.context.dropIndex typeName index) with ⟨_ | _ | _, later⟩
  all_goals
    rw [ran] at kept done
    dsimp only at kept done
  · cases done
    exact .inr ⟨nofun, kept⟩
  · cases done
    exact .inr ⟨nofun, kept⟩
  · split at done
    · rename_i registry removed
      cases done
      exact .inl ⟨rfl, _, kept, removed⟩
    · cases done
      exact .inr ⟨nofun, kept⟩

theorem Between.tables (step : m.Between after) (coherent : m.registry.Coherent m.dialect) :
    after.registry.tables = m.registry.tables := by
  cases step with
  | ran via s =>
    have planned : RunsAsPlanned via m s := runsAsPlanned coherent s
    exact congrArg Context.tables planned.context
  | started => exact congrArg Registry.tables (start_same m).1
  | committed t | rolledBack t => exact congrArg Registry.tables (conclude_same m t _ _).1
  | left t => exact congrArg Registry.tables (leave_same m t).1
  | changed => rfl
  | indexKept done failed =>
    rcases dropIndex_tables coherent done with ⟨succeeds, _⟩ | ⟨_, same⟩
    · exact absurd succeeds failed
    · exact same

/-- Each call on the tables of a mapper does to them what it does to its log, and nothing else does anything to them. -/
theorem ReachedBy.follows (reached : ReachedBy log m) : Follows m.registry.tables log := by
  induction reached with
  | fresh => exact ⟨rfl, List.forall_mem_nil _⟩
  | registered g _ follows => exact follows.register g
  | configured _ done follows =>
    obtain ⟨_, made, same⟩ := except_map_ok done
    cases same
    exact follows.configure made
  | indexDropped before done follows =>
    rcases dropIndex_tables before.reached.coherent done with ⟨_, registry, same, removed⟩ | ⟨failed, _⟩
    · rw [← same] at follows
      exact follows.removeIndex removed
    · exact absurd rfl failed
  | between before step follows =>
    rw [step.tables before.reached.coherent]
    exact follows

/-- Every lookup of a type finds the entry at a place, which is the only one of the type. -/
structure FindsAt (m : Mapper B) (R : RecordType) (i : Nat) (entry : RegisteredTable) : Prop where
  here : m.registry.entries[i]? = some entry
  isType : entry.table.typeName = R.typeName
  alone : ∀ (j : Nat) (other : RegisteredTable), m.registry.entries[j]? = some other →
    other.table.typeName = R.typeName → j = i
  table? : m.context.table? R.typeName = some entry.table
  ofType : R.tableOfType m.context = return entry.table
  ofRecord : R.tableOfRecord m.context = return entry.table
  /-- What is configured is this entry, and nothing else. -/
  configure : ∀ steps, m.configure R.typeName steps = (entry.steps m.dialect steps).map fun (answers, changed) =>
    (answers, { m with registry := { entries := m.registry.entries.set i changed } })

structure Lacks (m : Mapper B) (R : RecordType) : Prop where
  table? : m.context.table? R.typeName = none
  ofType : R.tableOfType m.context = Attempt.fault (.unregistered R.typeName)
  ofRecord : R.tableOfRecord m.context = Attempt.fault (.unregistered R.recordName)
  configure : ∀ steps, m.configure R.typeName steps = .error (.unregistered R.typeName)

theorem lacks_of_absent {R : RecordType} (absent : m.registry.find? R.typeName = none) : m.Lacks R := by
  have noTable : m.context.table? R.typeName = none := by
    rw [Context.table?, context, Registry.find?_tables, absent, Option.map_none]
  refine ⟨noTable, ?_, ?_, fun steps => ?_⟩
  · rw [RecordType.tableOfType, noTable]
  · rw [RecordType.tableOfRecord, noTable]
  · rw [configure, Registry.configure, Registry.find, absent]
    rfl

theorem findsAt_of_found {R : RecordType} {entry : RegisteredTable}
    (once : (m.registry.tables.map (·.typeName)).Nodup) (found : m.registry.find? R.typeName = some entry) :
    ∃ i, m.FindsAt R i entry := by
  obtain ⟨member, isType⟩ := Registry.mem_of_find? found
  obtain ⟨i, here⟩ := List.mem_iff_getElem?.mp member
  have table : m.context.table? R.typeName = some entry.table := by
    rw [Context.table?, context, Registry.find?_tables, found, Option.map_some]
  refine ⟨i, here, isType, fun j other there same => ?_, table, ?_, ?_, fun steps => ?_⟩
  · exact Registry.place_unique once here there (same.trans isType.symm)
  · rw [RecordType.tableOfType, table]
  · rw [RecordType.tableOfRecord, table]
  · unfold configure Registry.configure Registry.find
    rw [found]
    cases went : entry.steps m.dialect steps with
    | error reason => simp [went, bind, Except.bind, Except.map]
    | ok result =>
      have same := Table.calls_typeName (RegisteredTable.steps_calls went)
      simp [went, bind, Except.bind, Except.map, pure, Except.pure, Registry.put_eq_set once here same]

/-- The tables of a mapper are those of its log: each registered type has one, in the order of first registration, with
the name and the schema that were registered last and all else as the calls on it since the first registration made it.
All lookups of a type find this table, and none finds anything of other types. -/
theorem ReachedBy.registry_law (reached : ReachedBy log m) :
    (m.context.tables.map (·.typeName)).Nodup ∧
    m.context.tables.map (·.typeName) = (registeredNames log).eraseDups ∧
    (∀ t ∈ m.context.tables, MadeBy log t.typeName t) ∧
    ∀ R : RecordType, (R.typeName ∈ registeredNames log → ∃ i entry, m.FindsAt R i entry) ∧
      (R.typeName ∉ registeredNames log → m.Lacks R) := by
  have follows := reached.follows
  have once : (m.registry.tables.map (·.typeName)).Nodup := by
    rw [follows.names]
    exact nodup_eraseDups _
  refine ⟨once, follows.names, follows.made, fun R => ⟨fun registered => ?_, fun unregistered => ?_⟩⟩
  · cases found : m.registry.find? R.typeName with
    | none => exact absurd (follows.mem_names.mpr registered) (Registry.find?_eq_none_iff.mp found)
    | some entry =>
      obtain ⟨i, finds⟩ := findsAt_of_found once found
      exact ⟨i, entry, finds⟩
  · exact lacks_of_absent (Registry.find?_eq_none_iff.mpr (mt follows.mem_names.mp unregistered))

end Mapper

open Mapper

def eventSteps : List TableStep := [.change (.keys false ["id"]), .change (.index "by_at" "" ["at"] true)]

def shipmentSteps : List TableStep := [.change (.keys true ["number"])]

def laterEventSteps : List TableStep := [.column "at", .change (.uniqueTogether ["at", "version"])]

def twoTypesLog : List RegistryCall :=
  [.register ⟨eventType, none, none⟩, .configure "Event" eventSteps, .register ⟨shipmentType, none, some "boxes"⟩,
    .configure "Shipment" shipmentSteps, .register ⟨eventType, some "main", some "moments"⟩,
    .configure "Event" laterEventSteps, .dropIndex "Event" "by_at"]

def twoTypesMapper : Mapper Backend.scripted :=
  let new : Mapper Backend.scripted := { dialect := eventContext.dialect, connection := {} }
  let events := (new.register eventType none none).reconfigured "Event" eventSteps
  let both := (events.register shipmentType none (some "boxes")).reconfigured "Shipment" shipmentSteps
  let again := (both.register eventType (some "main") (some "moments")).reconfigured "Event" laterEventSteps
  (again.dropIndex "Event" "by_at").2

theorem twoTypesMapper_reachedBy : ReachedBy twoTypesLog twoTypesMapper := by
  have new := ReachedBy.fresh (B := Backend.scripted) eventContext.dialect {}
  have events := (new.registered ⟨eventType, none, none⟩).reconfigured "Event" eventSteps rfl
  have both := (events.registered ⟨shipmentType, none, some "boxes"⟩).reconfigured "Shipment" shipmentSteps rfl
  have again := (both.registered ⟨eventType, some "main", some "moments"⟩).reconfigured "Event" laterEventSteps rfl
  exact again.indexDropped rfl

/-- The events come first, under their second name; the shipments do not know of them. -/
theorem two_types_law :
    ReachedBy twoTypesLog twoTypesMapper ∧
      twoTypesMapper.context.tables.map (fun t => (t.typeName, t.schema, t.name)) =
        [("Event", some "main", "moments"), ("Shipment", none, "boxes")] ∧
      twoTypesMapper.context.tables.map (fun t => (t.keys, t.uniqueTogether, t.indexes)) =
        [([0], [["at", "version"]], []), ([3], [], [])] ∧
      (registeredNames twoTypesLog).eraseDups = ["Event", "Shipment"] ∧
      (∀ t ∈ twoTypesMapper.context.tables, MadeBy twoTypesLog t.typeName t) ∧
      (∃ entry, twoTypesMapper.FindsAt shipmentType 1 entry) ∧
      twoTypesMapper.Lacks { shipmentType with typeName := "Parcel" } := by
  obtain ⟨_, names, made, lookups⟩ := twoTypesMapper_reachedBy.registry_law
  refine ⟨twoTypesMapper_reachedBy, rfl, rfl, ?_, made, ?_, (lookups _).2 (by decide)⟩
  · rw [← names]
    rfl
  · obtain ⟨i, entry, finds⟩ := (lookups shipmentType).1 (by decide)
    cases finds.alone 1 _ rfl rfl
    exact ⟨entry, finds⟩

end RowMapper
