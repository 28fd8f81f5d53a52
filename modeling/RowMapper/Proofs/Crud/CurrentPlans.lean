import RowMapper.Backend.Scripted
import RowMapper.Proofs.Crud.Get
import RowMapper.Proofs.Crud.Refusal
import RowMapper.Proofs.History

/-!
# Calls use current plans

Whatever came before a call, its statements and the layout of their arguments are those of plans that are built from the
table as it is at the call.
-/

namespace RowMapper

namespace RecordType

variable {R : RecordType} {ctx : Context} {w : Write} {t : Table} {bound : Bound} {before mid after : R.Values}
  {early late : List Exchange}

/-- After a write that hit no row of a record with a version, only the lookup of its row follows. -/
theorem Prepared.looks_up (p : R.Prepared ctx w before t early mid bound after) (some : bound.sql ≠ "") {x : w.Result}
    {first : Exchange} {outcome : Except Fault (Except Error w.Result × R.Values)}
    (run : Script.Runs ctx (R.perform ctx w x before) (early ++ first :: late) outcome) (picks : w.picksRow = true)
    (answered : first.refusal? = none) (untouched : first.touched = 0) (versioned : t.version.isSome = true)
    (positive : 0 < bound.version) :
    ∃ lookup, late = [.query (Plan.get t ctx.dialect).sql bound.keys lookup] := by
  cases w with
  | insert => cases picks
  | update accepts =>
    obtain ⟨lookup, rfl, _⟩ := (p.update_run run).missed some versioned positive untouched answered
    exact ⟨lookup, rfl⟩
  | delete =>
    obtain ⟨answer, rest, split, goesOn⟩ := Step.runs_exec.mp (p.rest_run run)
    cases split
    cases answer with
    | error e => cases answered
    | ok result =>
      have found : isConflict t bound result.rowsAffected = true := isConflict_iff.mpr ⟨untouched, versioned, positive⟩
      obtain ⟨lookup, rfl, _⟩ := conflict_run p.registered found goesOn
      exact ⟨lookup, rfl⟩

end RecordType

namespace Mapper

variable {B : Backend} {m : Mapper B} {R : RecordType} {t : Table} {α : Type}

/-- The statements that a script sends when a mapper runs it, with their answers. The backend gave these if it was
reached. -/
def Logs (via : Executor B) (m : Mapper B) (s : Script α) (log : List Exchange) : Prop :=
  Script.Runs m.context s log (m.run via s).1 ∧
    ∀ handle?, m.Reaches handle? via → B.Serves handle? m.connection log (m.run via s).2.connection

theorem Reached.logs (reached : Reached m) (via : Executor B) (s : Script α) : ∃ log, Logs via m s log := by
  obtain ⟨log, runs, served⟩ := run_runs reached.coherent (rfl : m.run via s = _)
  exact ⟨log, runs, fun handle? reaches => (served.reached handle? reaches).1⟩

/-- Whatever was done with a mapper before, a script runs on it as if it had kept no plan. The statement of a write has
the text and the layout of arguments that the table asks for now, and so have its lookup after a conflict and a load by
key. -/
theorem Reached.current_plans (reached : Reached m) (registered : m.context.table? R.typeName = some t)
    (via : Executor B) :
    (∀ {α : Type} (s : Script α), RunsAsPlanned via m s) ∧
    (∀ (w : Write) (x : w.Result) (before : R.Values), ∃ log, Logs via m (R.perform m.context w x before) log ∧
      ∀ {early mid first late}, Script.Runs m.context (R.hooks w.preHook m.context before) early (.ok (.ok (), mid)) →
        log = early ++ first :: late → (w.plan t m.dialect).sql ≠ "" →
        ∃ bound after, R.Binds m.converter t (w.plan t m.dialect) mid bound after ∧ bound.IsSentBy first ∧
          (w.picksRow = true → first.refusal? = none → first.touched = 0 → t.version.isSome = true →
            0 < bound.version → ∃ lookup, late = [.query (Plan.get t m.dialect).sql bound.keys lookup])) ∧
    ∀ keys, t.keys ≠ [] → ∃ answer late,
      Logs via m (R.get m.context keys) (.query (Plan.get t m.dialect).sql keys answer :: late) := by
  refine ⟨fun s => runsAsPlanned reached.coherent s, fun w x before => ?_, fun keys keyed => ?_⟩
  · obtain ⟨log, runs, served⟩ := reached.logs via (R.perform m.context w x before)
    refine ⟨log, ⟨runs, served⟩, ?_⟩
    rintro early mid first late hook rfl sends
    obtain ⟨bound, after, p, sent⟩ := RecordType.prepared_of_sent registered sends hook runs
    exact ⟨bound, after, p.binds, sent, p.looks_up (p.binds.sql ▸ sends) runs⟩
  · obtain ⟨log, runs, served⟩ := reached.logs via (R.get m.context keys)
    obtain ⟨answer, late, rfl, _⟩ := (RecordType.runs_get registered keyed).mp runs
    exact ⟨answer, late, runs, served⟩

end Mapper

open Mapper

/-- A mapper of events that has loaded one, and keeps the plan for that. -/
def readEventMapper : Mapper Backend.scripted :=
  let new : Mapper Backend.scripted := { dialect := eventContext.dialect, connection := {} }
  let m := (new.register eventType none none).reconfigured "Event" [.change (.keys false ["id"])]
  (m.run .mapper (eventType.get m.context [.bigInt 5])).2

def movedEventMapper : Mapper Backend.scripted :=
  readEventMapper.reconfigured "Event" [.change (.column "at" [.rename "moment"])]

def movedEvents : Table :=
  ((events.setColumn "at" [.rename "moment"]).map ChangedTable.table).toOption.getD events

theorem movedEventMapper_reached : movedEventMapper.Reached :=
  have new := Reached.fresh (B := Backend.scripted) eventContext.dialect {}
  (((new.registered eventType none none).reconfigured "Event" _).ran .mapper _).reconfigured "Event" _

/-- The plan of the load that came before the change is kept, and is not used. -/
theorem moved_event_current_plans :
    movedEventMapper.Reached ∧ movedEventMapper.context.table? "Event" = some movedEvents ∧
      readEventMapper.registry.entries.map (·.plans .get) = [some (Plan.get events eventContext.dialect)] ∧
      RunsAsPlanned .mapper movedEventMapper (eventType.get movedEventMapper.context [.bigInt 5]) ∧
      (∃ answer late, Logs .mapper movedEventMapper (eventType.get movedEventMapper.context [.bigInt 5])
        (.query "select \"id\",\"moment\",\"version\" from \"events\" where \"id\"=?;" [.bigInt 5] answer :: late)) ∧
      ∃ first late bound after, Logs .mapper movedEventMapper
          (eventType.perform movedEventMapper.context (.update none) (0 : Nat) (event 0 1)) (first :: late) ∧
        eventType.Binds {} movedEvents (Plan.update movedEvents eventContext.dialect fun _ => true) (event 0 1) bound
          after ∧
        first.sql = "update \"events\" set \"moment\"=?, \"version\"=? where \"id\"=? and \"version\"=?;" ∧
        first.args = [.timestamp 0, .bigInt 2, .bigInt 5, .bigInt 1] ∧
        (first.refusal? = none → first.touched = 0 → ∃ lookup, late =
          [.query "select \"id\",\"moment\",\"version\" from \"events\" where \"id\"=?;" bound.keys lookup]) := by
  obtain ⟨planned, writes, loads⟩ :=
    movedEventMapper_reached.current_plans (R := eventType) (t := movedEvents) rfl .mapper
  have getText : (Plan.get movedEvents eventContext.dialect).sql =
      "select \"id\",\"moment\",\"version\" from \"events\" where \"id\"=?;" := by decide +kernel
  have updateText : (Plan.update movedEvents eventContext.dialect fun _ => true).sql =
      "update \"events\" set \"moment\"=?, \"version\"=? where \"id\"=? and \"version\"=?;" := by decide +kernel
  refine ⟨movedEventMapper_reached, rfl, rfl, planned _, getText ▸ loads _ (by decide), ?_⟩
  obtain ⟨log, logs, current⟩ := writes (.update none) (0 : Nat) (event 0 1)
  obtain ⟨first, late, rfl, args⟩ : ∃ first late, log = first :: late ∧
      first.args = [.timestamp 0, .bigInt 2, .bigInt 5, .bigInt 1] := by
    obtain ⟨answer, late, sent, _⟩ := logs.1
    exact ⟨_, late, sent, rfl⟩
  have hook : Script.Runs movedEventMapper.context
      (eventType.hooks (Write.update none).preHook movedEventMapper.context (event 0 1)) []
      (.ok (.ok (), event 0 1)) := ⟨rfl, rfl⟩
  have sends : (Plan.update movedEvents eventContext.dialect fun _ => true).sql ≠ "" :=
    Plan.update_sql_ne_empty (by decide)
  obtain ⟨bound, after, binds, sent, lookup⟩ := @current [] (event 0 1) first late hook rfl sends
  have positive : 0 < bound.version := by
    have shown : eventType.localVersion movedEvents (event 0 1) = .ok 1 := rfl
    rw [show bound.version = 1 from Except.ok.inj (binds.version.symm.trans shown)]
    decide
  exact ⟨first, late, bound, after, logs, binds, sent.1.trans (binds.sql.trans updateText), args,
    fun answered untouched => getText ▸ lookup rfl answered untouched rfl positive⟩

end RowMapper
