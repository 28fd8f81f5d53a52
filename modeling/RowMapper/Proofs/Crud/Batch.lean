import RowMapper.Backend.Scripted
import RowMapper.Proofs.Crud.Records
import RowMapper.Proofs.Crud.Stages
import RowMapper.Proofs.Script.Dialogue

/-!
# Batches

A batch is a write of several records. Two batches one after the other are one batch of the records of both, apart from
the count of rows, which goes on from the first to the second.
-/

namespace RowMapper

def Write.start : (w : Write) → w.Result
  | insert => ()
  | update _ | delete => Nat.zero

theorem Write.plus_start {w : Write} (count : w.Result) : w.plus count w.start = count := by
  cases w <;> rfl

namespace Context

variable (ctx : Context)

def write : (w : Write) → List Record → Script (Except Error w.Result × List Record)
  | .insert => ctx.insert
  | .update none => ctx.update
  | .update (some accepts) => ctx.updateColumns accepts
  | .delete => ctx.delete

def writeFrom (w : Write) (count : w.Result) : List Record → Script (Except Error w.Result × List Record) :=
  Record.runAll (fun R => R.perform ctx w) count

theorem write_eq (w : Write) (records : List Record) : ctx.write w records = ctx.writeFrom w w.start records := by
  cases w with
  | insert | delete => rfl
  | update accepts => cases accepts <;> rfl

end Context

namespace Mapper

variable {B : Backend} {via : Executor B} {m left : Mapper B} {ctx : Context} {w : Write} {log : List Exchange}

def onTop {β : Type} (count : w.Result) (outcome : Except Fault (Except Error w.Result × β)) :
    Except Fault (Except Error w.Result × β) :=
  outcome.map fun done => (done.1.map (w.plus count), done.2)

theorem Plays.map {α β : Type} {s : Script α} {outcome : Except Fault α} (f : α → β)
    (played : m.Plays via s log outcome left) :
    m.Plays via (s.bind fun a => .done (f a)) log (outcome.map f) left := by
  cases outcome with
  | error reason => exact played.bind_fault
  | ok a =>
    rw [← List.append_nil log]
    exact played.bind (plays_done.mpr ⟨rfl, rfl, rfl⟩)

/-- A write of one record whose rows, on top of those before, do not fit in 64 bits. -/
inductive TooMany (ctx : Context) (w : Write) (via : Executor B) (n a : w.Result) (R : RecordType) (v : R.Values)
    (m : Mapper B) : List Exchange → Mapper B → Prop where
  | counted {log reply stored last} (effect : m.Plays via (R.effect ctx w v) log (.ok (.ok reply, stored)) last)
      (many : UInt64.size ≤ w.rows (w.plus n (w.plus a (w.own reply)))) : TooMany ctx w via n a R v m log last

theorem TooMany.overflows {n a : w.Result} {R : RecordType} {v : R.Values} {last : Mapper B}
    (tooMany : TooMany ctx w via n a R v m log last) :
    m.Plays via (R.perform ctx w (w.plus n a) v) log (.error .overflow) last := by
  obtain ⟨effect, many⟩ := tooMany
  rw [RecordType.perform_apply, ← List.append_nil log]
  refine effect.bind ?_
  dsimp only
  rw [Write.plus_assoc, if_pos many]
  exact ⟨rfl, rfl⟩

/-- A larger count before a write changes its count and nothing else, unless the sum does not fit. -/
theorem perform_onTop {R : RecordType} {v : R.Values} {n a : w.Result}
    {outcome : Except Fault (Except Error w.Result × R.Values)}
    (played : m.Plays via (R.perform ctx w a v) log outcome left) :
    m.Plays via (R.perform ctx w (w.plus n a) v) log (onTop n outcome) left ∨
      ∃ early last, TooMany ctx w via n a R v m early last := by
  rw [RecordType.perform_apply] at played ⊢
  rcases plays_bind.mp played with
    ⟨reason, faulted, rfl⟩ | ⟨⟨e | reply, u⟩, early, late, mid, first, rest, rfl⟩
  · exact .inl faulted.bind_fault
  · obtain ⟨rfl, rfl, rfl⟩ := plays_done.mp rest
    exact .inl (first.bind (plays_done.mpr ⟨rfl, rfl, rfl⟩))
  · dsimp only at rest
    by_cases many : UInt64.size ≤ w.rows (w.plus n (w.plus a (w.own reply)))
    · exact .inr ⟨early, mid, .counted first many⟩
    · have few : ¬UInt64.size ≤ w.rows (w.plus a (w.own reply)) := by
        rw [Write.rows_plus] at many
        omega
      rw [if_neg few] at rest
      refine .inl (first.bind ?_)
      dsimp only
      rw [Write.plus_assoc, if_neg many]
      -- The hook runs as before, and what it returns has only the other count.
      have later := rest.map fun done => (done.1.map (w.plus n), done.2)
      rw [Script.bind_assoc] at later
      convert later using 3 with done
      · obtain ⟨answer, u⟩ := done
        cases answer <;> rfl
      · rfl

/-- A batch whose rows do not fit on top of those before, up to the record that is too many. -/
inductive Overflows (ctx : Context) (w : Write) (via : Executor B) (n a : w.Result) (m : Mapper B) :
    List Record → List Exchange → Mapper B → Prop where
  | inBatch (front : List Record) {y back total changed early late mid last}
      (before : m.Plays via (ctx.writeFrom w a front) early (.ok (.ok total, changed)) mid)
      (tooMany : TooMany ctx w via n total y.type y.values mid late last) :
    Overflows ctx w via n a m (front ++ y :: back) (early ++ late) last

theorem TooMany.first {n a : w.Result} {r : Record} {rest : List Record} {last : Mapper B}
    (tooMany : TooMany ctx w via n a r.type r.values m log last) : Overflows ctx w via n a m (r :: rest) log last :=
  .inBatch [] (plays_done.mpr ⟨rfl, rfl, rfl⟩) tooMany

theorem Overflows.cons {n a b : w.Result} {r : Record} {rest : List Record} {v : r.type.Values}
    {early late : List Exchange} {mid last : Mapper B}
    (first : m.Plays via (r.type.perform ctx w a r.values) early (.ok (.ok b, v)) mid)
    (overflows : Overflows ctx w via n b mid rest late last) :
    Overflows ctx w via n a m (r :: rest) (early ++ late) last := by
  cases overflows with
  | inBatch front before tooMany =>
    rename_i y back total changed sent last mid
    rw [← List.append_assoc, ← List.cons_append]
    have whole : m.Plays via (ctx.writeFrom w a (r :: front)) (early ++ sent)
        (.ok (.ok total, { r with values := v } :: changed)) mid := by
      unfold Context.writeFrom
      rw [Record.runAll_cons]
      exact first.bind (before.map _)
    exact .inBatch (r :: front) whole tooMany

/-- A batch goes on from a larger count as it would go on from a smaller one, unless the sum does not fit. -/
theorem writeFrom_onTop {records : List Record} {n a : w.Result}
    {outcome : Except Fault (Except Error w.Result × List Record)}
    (played : m.Plays via (ctx.writeFrom w a records) log outcome left) :
    m.Plays via (ctx.writeFrom w (w.plus n a) records) log (onTop n outcome) left ∨
      ∃ sent last, Overflows ctx w via n a m records sent last ∧
        m.Plays via (ctx.writeFrom w (w.plus n a) records) sent (.error .overflow) last := by
  induction records generalizing a m log outcome with
  | nil =>
    obtain ⟨rfl, rfl, rfl⟩ := plays_done.mp played
    exact .inl (plays_done.mpr ⟨rfl, rfl, rfl⟩)
  | cons r rest ih =>
    unfold Context.writeFrom at played ih ⊢
    rw [Record.runAll_cons] at played ⊢
    -- Unless the first record is too many, it leaves the rest its own count, with `n` on the left of it as before.
    by_cases overflows : ∃ sent last, TooMany ctx w via n a r.type r.values m sent last
    · obtain ⟨sent, last, tooMany⟩ := overflows
      exact .inr ⟨sent, last, tooMany.first, tooMany.overflows.bind_fault⟩
    have shifted {log outcome left} (first : m.Plays via (r.type.perform ctx w a r.values) log outcome left) :=
      (perform_onTop (n := n) first).resolve_right overflows
    rcases plays_bind.mp played with
      ⟨reason, faulted, rfl⟩ | ⟨⟨e | b, v⟩, early, late, mid, first, later, rfl⟩
    · exact .inl (shifted faulted).bind_fault
    · obtain ⟨rfl, rfl, rfl⟩ := plays_done.mp later
      exact .inl ((shifted first).bind (plays_done.mpr ⟨rfl, rfl, rfl⟩))
    rcases plays_bind.mp later with ⟨reason, faulted, rfl⟩ | ⟨done, others, none, last, wrote, ended, rfl⟩
    · rcases ih faulted with goesOn | ⟨sent, last, overflows, faults⟩
      · exact .inl ((shifted first).bind goesOn.bind_fault)
      · exact .inr ⟨_, last, overflows.cons first, (shifted first).bind faults.bind_fault⟩
    · obtain ⟨rfl, rfl, rfl⟩ := plays_done.mp ended
      rw [List.append_nil]
      rcases ih wrote with goesOn | ⟨sent, last, overflows, faults⟩
      · exact .inl ((shifted first).bind (goesOn.map _))
      · exact .inr ⟨_, last, overflows.cons first, (shifted first).bind faults.bind_fault⟩

/-- A batch ends with its first failure, which leaves the records after it alone. If there is none, its records and more
are one batch, with the same statements and the sum of the counts. Each record goes through the stages of a write. -/
theorem Reached.batches (reached : m.Reached) (via : Executor B) (w : Write) :
    (∀ {xs ys : List Record} {log : List Exchange} {outcome} {left : Mapper B},
      m.Plays via (m.context.write w xs) log outcome left →
      left.Reached ∧ left.context = m.context ∧
        match outcome with
        | .error reason => m.Plays via (m.context.write w (xs ++ ys)) log (.error reason) left
        | .ok (.error e, done) => m.Plays via (m.context.write w (xs ++ ys)) log (.ok (.error e, done ++ ys)) left
        | .ok (.ok count, done) => ∀ {late others last}, left.Plays via (left.context.write w ys) late others last →
          m.Plays via (m.context.write w (xs ++ ys)) (log ++ late)
              (onTop count (others.map fun more => (more.1, done ++ more.2))) last ∨
            ∃ sent last, Overflows m.context w via count w.start left ys sent last ∧
              m.Plays via (m.context.write w (xs ++ ys)) (log ++ sent) (.error .overflow) last) ∧
    ∀ {r : Record} {t : Table} {log : List Exchange} {outcome} {left : Mapper B},
      m.context.table? r.type.typeName = some t → m.Plays via (m.context.write w [r]) log outcome left →
      ∃ ended, r.type.Staged m.context w t w.start r.values log ended ∧
        outcome = ended.map fun done => (done.1, [{ r with values := done.2 }]) := by
  constructor
  · -- The records after the first ones start from their count, which `writeFrom_onTop` puts in front.
    intro xs ys log outcome left first
    have context : left.context = m.context := (first.runs reached.coherent).2
    refine ⟨?_, context, ?_⟩
    · obtain ⟨_, ended⟩ := first
      have ran := reached.ran via (m.context.write w xs)
      rwa [ended] at ran
    simp only [Context.write_eq] at first ⊢
    unfold Context.writeFrom at first ⊢
    rw [Record.runAll_append]
    rcases outcome with reason | ⟨e | count, done⟩
    · exact first.bind_fault
    · rw [← List.append_nil log]
      exact first.bind (plays_done.mpr ⟨rfl, rfl, rfl⟩)
    · intro late others last second
      rw [context] at second
      have onTopOf : w.plus count w.start = count := Write.plus_start count
      rcases writeFrom_onTop (n := count) second with goesOn | ⟨sent, last, overflows, faults⟩
      · rw [onTopOf] at goesOn
        refine .inl (first.bind ?_)
        have joined := goesOn.map fun more => (more.1, done ++ more.2)
        have swapped : (onTop count others).map (fun more => (more.1, done ++ more.2)) =
            onTop count (others.map fun more => (more.1, done ++ more.2)) := by
          cases others <;> rfl
        rwa [swapped] at joined
      · rw [onTopOf] at faults
        exact .inr ⟨sent, last, overflows, first.bind faults.bind_fault⟩
  · intro r t log outcome left registered played
    have runs := (played.runs reached.coherent).1
    rw [Context.write_eq] at runs
    obtain ⟨ended, run, same⟩ := Record.runs_runAll_single.mp runs
    exact ⟨ended, RecordType.perform_staged registered run, same⟩

end Mapper

open Mapper

/-- A mapper of events whose connection answers two statements and fails the next. -/
def failingEventMapper : Mapper Backend.scripted :=
  let queue := [.answer { rowsAffected := 1 } [], .answer { rowsAffected := 1 } [], .failure "down"]
  let new : Mapper Backend.scripted := { dialect := eventContext.dialect, connection := { queue } }
  (new.register eventType none none).reconfigured "Event" [.change (.keys false ["id"])]

theorem failingEventMapper_reached : failingEventMapper.Reached :=
  have new := Reached.fresh (B := Backend.scripted) eventContext.dialect _
  (new.registered eventType none none).reconfigured "Event" [.change (.keys false ["id"])]

def eventRecord (version : Int64) : Record := { type := eventType, values := event 0 version }

def eventUpdated (version : Int64) (answer : Except Error ExecResult) : Exchange :=
  .exec (eventUpdate version).sql (eventUpdate version).args answer

def updatedEventMapper : Mapper Backend.scripted :=
  (failingEventMapper.run .mapper (eventContext.write (.update none) [eventRecord 1])).2

theorem failingEventMapper_first :
    failingEventMapper.Plays .mapper (eventContext.write (.update none) [eventRecord 1])
      [eventUpdated 1 (.ok { rowsAffected := 1 })] (.ok (.ok (1 : Nat), [eventRecord 2])) updatedEventMapper :=
  ⟨rfl, Prod.ext rfl rfl⟩

theorem updatedEventMapper_next :
    ∃ last, updatedEventMapper.Plays .mapper (eventContext.write (.update none) [eventRecord 2, eventRecord 3])
      [eventUpdated 2 (.ok { rowsAffected := 1 }), eventUpdated 3 (.error (.driver "down"))]
      (.ok (.error (.driver "down"), [eventRecord 3, eventRecord 3])) last :=
  ⟨_, rfl, Prod.ext rfl rfl⟩

/-- Of three updates the last is refused. They are the update of the first event and then, on its count, of the
others. -/
theorem event_batches :
    (∃ last, failingEventMapper.Plays .mapper (eventContext.update [eventRecord 1, eventRecord 2, eventRecord 3])
      [eventUpdated 1 (.ok { rowsAffected := 1 }), eventUpdated 2 (.ok { rowsAffected := 1 }),
        eventUpdated 3 (.error (.driver "down"))]
      (.ok (.error (.driver "down"), [eventRecord 2, eventRecord 3, eventRecord 3])) last) ∧
    ∃ ended, eventType.Staged eventContext (.update none) events (0 : Nat) (event 0 1)
      [eventUpdated 1 (.ok { rowsAffected := 1 })] ended := by
  obtain ⟨together, stages⟩ := failingEventMapper_reached.batches .mapper (.update none)
  have first := failingEventMapper_first
  obtain ⟨last, second⟩ := updatedEventMapper_next
  obtain ⟨_, _, goOn⟩ := @together _ [eventRecord 2, eventRecord 3] _ _ _ first
  obtain ⟨ended, staged, _⟩ := stages (t := events) rfl first
  refine ⟨?_, ended, staged⟩
  rcases goOn second with whole | ⟨_, _, _, faults⟩
  · exact ⟨last, whole⟩
  · cases faults.2

/-- The first event has no version, and its update is refused. It is left with version 1, so that it is written to
before its statement was answered. -/
theorem refused_batch_stores_first_version :
    Script.Runs eventContext (eventContext.update [eventRecord 0, eventRecord 4])
      [eventUpdated 0 (.error (.driver "down"))] (.ok (.error (.driver "down"), [eventRecord 1, eventRecord 4])) ∧
    eventType.hooks .preUpdate = (fun _ => pure ()) ∧ eventType.localVersion events (event 0 0) = .ok 0 ∧
    eventType.localVersion events (event 0 1) = .ok 1 :=
  ⟨⟨_, [], rfl, rfl, rfl⟩, rfl, rfl, rfl⟩

end RowMapper
