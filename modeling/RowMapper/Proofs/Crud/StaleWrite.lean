import RowMapper.Proofs.Crud.LockedWrite
import RowMapper.Proofs.Crud.Stages
import RowMapper.Proofs.Field.RoundTrip

/-!
# Stale writes

A write of a record with a version finds that it hit no row only if the version shows as a positive integer.
-/

namespace RowMapper

open Number

/-- Whether a version is checked for conflicts: it has to show as a positive integer of 64 bits with a sign. -/
def NativeType.Checked : (type : NativeType) → type.Carrier → Prop
  | bool, b => b = true
  | int _, n => 0 < n.val ∧ n.val ≤ Int64.maxValue.toInt
  | text, s => ∃ n, integer? (Text.trimBlank s.toList) = some n ∧ 0 < n ∧ n ≤ Int64.maxValue.toInt
  | instant, moment => 1000 ≤ moment.nanos
  | option type, some x => type.Checked x
  | _, _ => False

theorem Int64.ofInt_pos_iff {n : Int} (least : Int64.minValue.toInt ≤ n) (greatest : n ≤ Int64.maxValue.toInt) :
    0 < Int64.ofInt n ↔ 0 < n := by
  rw [Int64.lt_iff_toInt_lt, Int64.toInt_ofInt_of_le least (Int.lt_of_le_of_lt greatest (by decide))]
  exact Iff.rfl

namespace IntKind

theorem store_pos_iff {k : IntKind} (n : k.Num) :
    0 < (Int64.ofInt n.val) ↔ 0 < n.val ∧ n.val ≤ Int64.maxValue.toInt := by
  constructor
  · intro positive
    have whole : k.widen (Int64.ofInt n.val) = n.val := widen_ofInt n
    have shown : 0 < (Int64.ofInt n.val).toInt := Int64.lt_iff_toInt_lt.mp positive
    have greatest := (Int64.ofInt n.val).toInt_le
    have same : k.widen (Int64.ofInt n.val) = (Int64.ofInt n.val).toInt := by
      cases k with
      | u64 =>
        refine Int.emod_eq_of_lt (Int.le_of_lt shown) (Int.lt_of_le_of_lt greatest ?_)
        decide
      | i8 | i16 | i32 | i64 | u8 | u16 | u32 => rfl
    rw [← whole, same]
    exact ⟨shown, greatest⟩
  · rintro ⟨positive, greatest⟩
    exact (Int64.ofInt_pos_iff (Int.le_trans (by decide) (Int.le_of_lt positive)) greatest).mpr positive

end IntKind

namespace Value

theorem parseInt64?_pos_iff (s : String) :
    0 < (parseInt64? s).getD 0 ↔
      ∃ n, Number.integer? (Text.trimBlank s.toList) = some n ∧ 0 < n ∧ n ≤ Int64.maxValue.toInt := by
  unfold parseInt64?
  cases spelled : Number.integer? (Text.trimBlank s.toList) with
  | none => simp
  | some n =>
    dsimp only
    split
    · rename_i fits
      rw [Option.getD_some, Int64.ofInt_pos_iff fits.1 fits.2]
      constructor
      · intro positive
        exact ⟨n, rfl, positive, fits.2⟩
      · rintro ⟨_, same, positive, _⟩
        cases same
        exact positive
    · rename_i unfit
      constructor
      · intro impossible
        cases impossible
      · rintro ⟨_, same, positive, greatest⟩
        cases same
        exact (unfit ⟨Int.le_trans (by decide) (Int.le_of_lt positive), greatest⟩).elim

end Value

theorem Instant.toMicros?_pos_iff {moment : Instant} {n : Int64} (stored : moment.toMicros? = some n) :
    0 < n ↔ 1000 ≤ moment.nanos := by
  unfold Instant.toMicros? at stored
  dsimp only at stored
  split at stored
  · rename_i fits
    cases stored
    have size : UInt64.size = 2 ^ 64 := rfl
    have least : Int64.minValue.toInt = -2 ^ 63 := by decide
    have greatest : Int64.maxValue.toInt = 2 ^ 63 - 1 := by decide
    rw [Int64.ofInt_pos_iff (by omega) (by omega)]
    constructor
    · intro positive
      have nonnegative : 0 ≤ moment.nanos := by
        by_contra negative
        have cut : 0 ≤ (-moment.nanos).tdiv 1000 := Int.tdiv_nonneg (by omega) (by decide)
        rw [Int.neg_tdiv] at cut
        omega
      rw [Int.tdiv_eq_ediv_of_nonneg nonnegative] at positive
      omega
    · intro late
      rw [Int.tdiv_eq_ediv_of_nonneg (by omega)]
      omega
  · cases stored

/-- A version is positive as an integer exactly if it is one that is checked. -/
theorem NativeType.checked_iff {type : NativeType} {x : type.Carrier} {v : Value} (encoded : type.encode x = .ok v) :
    0 < v.asInt?.getD 0 ↔ type.Checked x := by
  induction type generalizing v with
  | bool =>
    cases encoded
    cases x with
    | false => exact iff_of_false (by decide) Bool.false_ne_true
    | true => exact iff_of_true (by decide) rfl
  | int k =>
    cases encoded
    rw [Value.asInt?_of_integer? (IntKind.integer?_store x), Option.getD_some]
    exact IntKind.store_pos_iff x
  | text =>
    cases encoded
    exact Value.parseInt64?_pos_iff x
  | instant =>
    unfold encode at encoded
    split at encoded
    · rename_i n stored
      cases encoded
      exact Instant.toMicros?_pos_iff stored
    · cases encoded
  | option type ih =>
    cases x with
    | none =>
      cases encoded
      exact iff_of_false (by decide) id
    | some x => exact ih encoded
  | single | double | bytes | document | textList | intList | intMap =>
    cases encoded
    exact iff_of_false (by decide : ¬(0 : Int64) < 0) id

namespace Write

def Hitless (w : Write) (reply : w.Reply) : Prop := w.picksRow = true ∧ w.rows (w.own reply) = 0

end Write

namespace RecordType

variable {R : RecordType} {ctx : Context} {w : Write} {t : Table} {bound : Bound} {before mid after : R.Values}
  {early late : List Exchange} {α : Type}

theorem report_goes_on (registered : ctx.table? R.typeName = some t) {rows : Nat} {goOn : Nat → Step R.Values α}
    {outcome : Except Fault (Except Error α × R.Values)}
    (run : Script.Runs ctx
      ((liftM (R.refuseConflict t bound rows >>= fun _ => pure rows : Attempt Nat) >>= goOn : Step R.Values α) after)
      late outcome) :
    (isConflict t bound rows = true ∧ ∃ lookup, late = [.query (Plan.get t ctx.dialect).sql bound.keys lookup] ∧
      outcome = (t.refusal bound lookup).map fun e => (.error e, after)) ∨
    isConflict t bound rows = false ∧ Script.Runs ctx (goOn rows after) late outcome := by
  rw [Step.attempt_bind, bind_assoc] at run
  cases found : isConflict t bound rows with
  | true => exact .inl ⟨rfl, conflict_run registered found run⟩
  | false =>
    rw [bind_refuseConflict_of_not found] at run
    exact .inr ⟨rfl, run⟩

/-- After its statement hit no row, a write looks its row up and ends, or goes on as if it had hit one. -/
theorem send_missed (registered : ctx.table? R.typeName = some t) (picks : w.picksRow = true) (some : bound.sql ≠ "")
    {plan : Plan} {goOn : w.Reply → Step R.Values α} {first : Exchange}
    {outcome : Except Fault (Except Error α × R.Values)}
    (run : Script.Runs ctx ((liftM (R.send ctx t plan bound w) >>= goOn : Step R.Values α) after) (first :: late)
      outcome)
    (answered : first.refusal? = none) (untouched : first.touched = 0) :
    (isConflict t bound 0 = true ∧ ∃ lookup, late = [.query (Plan.get t ctx.dialect).sql bound.keys lookup] ∧
      outcome = (t.refusal bound lookup).map fun e => (.error e, after)) ∨
    isConflict t bound 0 = false ∧ ∃ reply, w.Hitless reply ∧ Script.Runs ctx (goOn reply after) late outcome := by
  cases w with
  | insert => cases picks
  | update accepts =>
    simp only [send] at run
    rw [Step.attempt_bind, bind_assoc] at run
    rcases Step.runs_bind.mp run with
      ⟨_, sending, rfl⟩ | ⟨_, _, sending, rfl⟩ | ⟨rows, _, sent, rest, sending, reporting, same⟩
    all_goals
      obtain ⟨answer, attempted, ended⟩ := Step.runs_attempt.mp sending
      rcases sendUpdate_runs.mp attempted with ⟨e, _, sentAlone, rfl⟩ | ⟨_, hit, rfl⟩
      all_goals cases ended
    · cases sentAlone
      cases answered
    · obtain ⟨touched, rfl, _⟩ := touched_of_sent hit some same
      cases untouched.symm.trans touched
      rcases report_goes_on registered reporting with conflict | ⟨settled, goesOn⟩
      · exact .inl conflict
      · exact .inr ⟨settled, Nat.zero, ⟨rfl, rfl⟩, goesOn⟩
  | delete =>
    simp only [send] at run
    rw [Step.attempt_bind, bind_assoc] at run
    obtain ⟨answer, rest, same, goesOn⟩ := Step.runs_exec.mp run
    cases same
    cases answer with
    | error e => cases answered
    | ok result =>
      have none : result.rowsAffected = 0 := untouched
      dsimp only at goesOn
      rw [none] at goesOn
      rcases report_goes_on registered goesOn with conflict | ⟨settled, goesOn⟩
      · exact .inl conflict
      · exact .inr ⟨settled, Nat.zero, ⟨rfl, rfl⟩, goesOn⟩

/-- A write whose statement hit no row fails exactly if the version of its record is one that is checked. A record with
any other version is written as if its row had been hit. -/
theorem stale_write (registered : ctx.table? R.typeName = some t) (picks : w.picksRow = true) {c : Column}
    (versioned : t.versionColumn? = some c) (sends : (w.plan t ctx.dialect).sql ≠ "")
    (hook : Script.Runs ctx (R.hooks w.preHook ctx before) early (.ok (.ok (), mid))) {count : w.Result}
    {first : Exchange} {outcome : Except Fault (Except Error w.Result × R.Values)}
    (run : Script.Runs ctx (R.perform ctx w count before) (early ++ first :: late) outcome)
    (answered : first.refusal? = none) (untouched : first.touched = 0) :
    ∃ bound after p, R.Prepared ctx w before t early mid bound after ∧ bound.IsSentBy first ∧
      R.place c.path = .ok p ∧
      (p.leaf.type.Checked (p.leaf.get mid) → ∃ lookup,
        late = [.query (Plan.get t ctx.dialect).sql bound.keys lookup] ∧
          outcome = (t.refusal bound lookup).map fun e => (.error e, after)) ∧
      (¬p.leaf.type.Checked (p.leaf.get mid) → ∃ reply, w.Hitless reply ∧
        Script.Runs ctx
          ((do
            R.writeBack ctx t (w.plan t ctx.dialect) bound w reply
            let count ← w.tally count reply
            R.hooks w.postHook ctx
            return count : Step R.Values w.Result) after) late outcome) := by
  obtain ⟨bound, after, p, sent⟩ := prepared_of_sent registered sends hook run
  have shown := p.binds.version
  rw [localVersion_of_column versioned] at shown
  obtain ⟨x, read, same⟩ := except_map_ok shown
  obtain ⟨place, found, encoded⟩ := read_eq_ok.mp read
  -- The bound version is the one that `mid` holds, also where binding then stores the first version.
  have checked : isConflict t bound 0 = true ↔ place.leaf.type.Checked (place.leaf.get mid) := by
    rw [isConflict_iff, ← NativeType.checked_iff encoded, same]
    exact ⟨fun found => found.2.2, fun positive => ⟨rfl, Table.version_isSome versioned, positive⟩⟩
  rw [perform_eq] at run
  unfold effect at run
  simp only [bind_assoc, pure_bind] at run
  have some : bound.sql ≠ "" := p.binds.sql ▸ sends
  refine ⟨bound, after, place, p, sent, found, ?_, ?_⟩
  · intro isChecked
    rcases send_missed registered picks some (p.rest_run run) answered untouched with ⟨_, conflict⟩ | ⟨settled, _⟩
    · exact conflict
    · rw [checked.mpr isChecked] at settled
      cases settled
  · intro isUnchecked
    rcases send_missed registered picks some (p.rest_run run) answered untouched with ⟨conflict, _⟩ | ⟨_, goesOn⟩
    · exact absurd (checked.mp conflict) isUnchecked
    · exact goesOn

end RecordType

/-- An update of an event with version 1 finds that its row is gone. A deletion of one with version -1 goes on. -/
theorem event_stale_write :
    (∃ bound : Bound, bound.IsSentBy (.exec (eventUpdate 1).sql (eventUpdate 1).args (.ok {})) ∧
      bound.keys = [.bigInt 5] ∧ events.refusal bound (.ok []) = .ok (.optimisticLock
        { tableName := "events", keys := [.bigInt 5], rowExists := false, localVersion := 1 })) ∧
    ∃ bound after reply, Write.Hitless .delete reply ∧ Script.Runs eventContext
      ((do
        eventType.writeBack eventContext events (Plan.delete events eventContext.dialect) bound .delete reply
        let count ← Write.delete.tally (0 : Nat) reply
        eventType.hooks Write.delete.postHook eventContext
        return count : Step eventType.Values Nat) after) [] (.ok (.ok 0, event 0 (-1))) := by
  have updated : Script.Runs eventContext (eventType.perform eventContext (.update none) (0 : Nat) (event 0 1))
      ([] ++ .exec (eventUpdate 1).sql (eventUpdate 1).args (.ok {}) ::
        [.query (Plan.get events eventContext.dialect).sql [.bigInt 5] (.ok [])])
      (.ok (.error (.optimisticLock
        { tableName := "events", keys := [.bigInt 5], rowExists := false, localVersion := 1 }), event 0 1)) :=
    ⟨.ok {}, _, rfl, Script.runs_query.mpr ⟨.ok [], [], rfl, rfl, rfl⟩⟩
  have deleted : Script.Runs eventContext (eventType.perform eventContext .delete (0 : Nat) (event 0 (-1)))
      ([] ++ .exec (eventDeletion (-1)).sql (eventDeletion (-1)).args (.ok {}) :: [])
      (.ok (.ok (0 : Nat), event 0 (-1))) := ⟨.ok {}, [], rfl, rfl, rfl⟩
  have quiet (w : Write) (version : Int64) : Script.Runs eventContext
      (eventType.hooks w.preHook eventContext (event 0 version)) [] (.ok (.ok (), event 0 version)) := ⟨rfl, rfl⟩
  have updates : ((Write.update none).plan events eventContext.dialect).sql ≠ "" := Plan.update_sql_ne_empty (by decide)
  have deletes : (Write.delete.plan events eventContext.dialect).sql ≠ "" := Plan.delete_sql_ne_empty
  have found : eventType.place eventVersion.path = .ok ⟨_, _⟩ := rfl
  constructor
  · obtain ⟨bound, after, p, _, sent, place, fails, _⟩ := RecordType.stale_write (t := events) rfl rfl
      events_versionColumn updates (quiet _ 1) updated rfl rfl
    cases found.symm.trans place
    obtain ⟨lookup, same, ended⟩ := fails ⟨by decide, by decide⟩
    obtain ⟨_, keys, rfl⟩ := Exchange.query.inj (List.cons.inj same).1
    refine ⟨bound, sent, keys.symm, ?_⟩
    cases refused : events.refusal bound (.ok []) with
    | error reason =>
      rw [refused] at ended
      cases ended
    | ok e =>
      rw [refused] at ended
      cases ended
      rfl
  · obtain ⟨bound, after, p, _, sent, place, _, goesOn⟩ := RecordType.stale_write (t := events) rfl rfl
      events_versionColumn deletes (quiet _ (-1)) deleted rfl rfl
    cases found.symm.trans place
    obtain ⟨reply, hitless, ended⟩ := goesOn fun checked => absurd checked.1 (by decide)
    exact ⟨bound, after, reply, hitless, ended⟩

/-- An update and a deletion of an event with version -1 hit no row and return no error. -/
theorem negative_version_unnoticed :
    eventType.localVersion events (event 0 (-1)) = .ok (-1) ∧
    Script.Runs eventContext (eventType.update eventContext none 0 (event 0 (-1)))
      [.exec (eventUpdate (-1)).sql (eventUpdate (-1)).args (.ok {})] (.ok (.ok 0, event 0 0)) ∧
    Script.Runs eventContext (eventType.delete eventContext 0 (event 0 (-1)))
      [.exec (eventDeletion (-1)).sql (eventDeletion (-1)).args (.ok {})] (.ok (.ok 0, event 0 (-1))) :=
  ⟨rfl, ⟨.ok {}, [], rfl, rfl, rfl⟩, ⟨.ok {}, [], rfl, rfl, rfl⟩⟩

end RowMapper
