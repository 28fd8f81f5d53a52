import RowMapper.Proofs.Crud.Refusal

/-!
# Stages of writes

A write of one record goes through stages: its table has keys, the hook before it runs, its plan is bound, the statement
is sent, the record takes what the database made, the rows are counted, and the hook after it runs. The first stage that
fails ends the write.
-/

namespace RowMapper

variable {α β ρ : Type} {ctx : Context}

namespace Write

/-- What the statement of a write comes to: the key that an insertion generated, or a count of rows. -/
abbrev Reply : Write → Type
  | insert => Option Value
  | update _ | delete => Nat

def tally : (w : Write) → w.Result → w.Reply → Attempt w.Result
  | insert, _, _ => return ()
  | update _, count, rows | delete, count, rows => RecordType.addCount count rows

def rows : (w : Write) → w.Result → Nat
  | insert, _ => 0
  | update _, count | delete, count => count

def own : (w : Write) → w.Reply → w.Result
  | insert, _ => ()
  | update _, rows | delete, rows => rows

def plus : (w : Write) → w.Result → w.Result → w.Result
  | insert, _, _ => ()
  | update _, n, k | delete, n, k => Nat.add n k

theorem plus_assoc {w : Write} (n k i : w.Result) : w.plus (w.plus n k) i = w.plus n (w.plus k i) := by
  cases w with
  | insert => rfl
  | update accepts | delete => exact Nat.add_assoc n k i

theorem rows_plus {w : Write} (n k : w.Result) : w.rows (w.plus n k) = w.rows n + w.rows k := by
  cases w <;> rfl

theorem tally_eq {w : Write} (count : w.Result) (reply : w.Reply) :
    w.tally count reply =
      if UInt64.size ≤ w.rows (w.plus count (w.own reply)) then Attempt.fault .overflow
      else return w.plus count (w.own reply) := by
  cases w with
  | insert => exact (if_neg (show ¬UInt64.size ≤ 0 by decide)).symm
  | update accepts | delete => rfl

end Write

namespace Attempt

theorem runs_bind {x : Attempt α} {f : α → Attempt β} {log : List Exchange} {outcome : Except Fault (Except Error β)} :
    Script.Runs ctx (x >>= f : Attempt β) log outcome ↔
      (∃ reason, Script.Runs ctx x log (.error reason) ∧ outcome = .error reason) ∨
      (∃ e, Script.Runs ctx x log (.ok (.error e)) ∧ outcome = .ok (.error e)) ∨
      ∃ a early late, Script.Runs ctx x early (.ok (.ok a)) ∧ Script.Runs ctx (f a) late outcome ∧
        log = early ++ late := by
  rw [bind_apply, Script.runs_bind]
  constructor
  · rintro (faulted | ⟨e | a, early, late, first, second, rfl⟩)
    · exact .inl faulted
    · obtain ⟨rfl, rfl⟩ := second
      exact .inr (.inl ⟨e, by simpa only [List.append_nil] using first, rfl⟩)
    · exact .inr (.inr ⟨a, early, late, first, second, rfl⟩)
  · rintro (faulted | ⟨e, first, rfl⟩ | ⟨a, early, late, first, second, rfl⟩)
    · exact .inl faulted
    · exact .inr ⟨_, log, [], first, ⟨rfl, rfl⟩, (List.append_nil _).symm⟩
    · exact .inr ⟨_, early, late, first, second, rfl⟩

end Attempt

namespace Step

theorem attempt_bind (x : Attempt α) (f : α → Attempt β) :
    (liftM (x >>= f) : Step ρ β) = liftM x >>= fun a => liftM (f a) := by
  funext v
  rw [bind_apply, attempt_apply, attempt_apply, Attempt.bind_apply, Script.bind_assoc, Script.bind_assoc]
  congr 1
  funext answer
  cases answer <;> rfl

theorem attempt_pure (a : α) : (liftM (pure a : Attempt α) : Step ρ α) = pure a := rfl

/-- A part that ends early ends the whole: its fault, or its error and the record that it left, are those of the
whole. -/
inductive Stops : Except Fault (Except Error α × ρ) → Except Fault (Except Error β × ρ) → Prop where
  | fault (reason : Fault) : Stops (.error reason) (.error reason)
  | failed (e : Error) (v : ρ) : Stops (.ok (.error e, v)) (.ok (.error e, v))

theorem Stops.not_done {stop : Except Fault (Except Error α × ρ)} {b : β} {v : ρ}
    (stops : Stops stop (.ok (.ok b, v))) : False := by
  cases stops

theorem Stops.trans {γ : Type} {first : Except Fault (Except Error α × ρ)} {second : Except Fault (Except Error β × ρ)}
    {third : Except Fault (Except Error γ × ρ)} (one : Stops first second) (two : Stops second third) :
    Stops first third := by
  cases one with
  | fault reason =>
    cases two
    exact .fault reason
  | failed e v =>
    cases two
    exact .failed e v

theorem runs_bind_stops {x : Step ρ α} {f : α → Step ρ β} {v : ρ} {log : List Exchange}
    {outcome : Except Fault (Except Error β × ρ)} (run : Script.Runs ctx ((x >>= f) v) log outcome) :
    (∃ stop, Script.Runs ctx (x v) log stop ∧ Stops stop outcome) ∨
      ∃ a mid early late, Script.Runs ctx (x v) early (.ok (.ok a, mid)) ∧
        Script.Runs ctx (f a mid) late outcome ∧ log = early ++ late := by
  rcases runs_bind.mp run with ⟨reason, first, rfl⟩ | ⟨e, mid, first, rfl⟩ | goesOn
  · exact .inl ⟨_, first, .fault reason⟩
  · exact .inl ⟨_, first, .failed e mid⟩
  · exact .inr goesOn

end Step

/-- How a bound statement is sent: once, unless it is empty. If it hit no row, one lookup can follow. -/
inductive Bound.SentOnce (bound : Bound) (t : Table) (d : Dialect) :
    List Exchange → Except Fault (Except Error α) → Prop where
  | empty (nothing : bound.sql = "") (reply : α) : SentOnce bound t d [] (.ok (.ok reply))
  | refused {x e} (sent : bound.IsSentBy x) (refused : x.refusal? = some e) : SentOnce bound t d [x] (.ok (.error e))
  | unreadable {x} (reason : Fault) (sent : bound.IsSentBy x) (answered : x.refusal? = none) :
    SentOnce bound t d [x] (.error reason)
  | answered {x} (reply : α) (sent : bound.IsSentBy x) (answered : x.refusal? = none) :
    SentOnce bound t d [x] (.ok (.ok reply))
  | conflict (sent : List Exchange) (lookup : Except Error (List Row)) (once : sent.length ≤ 1)
      (missed : ∀ x ∈ sent, bound.IsSentBy x ∧ x.refusal? = none ∧ x.touched = 0) :
    SentOnce bound t d (sent ++ [.query (Plan.get t d).sql bound.keys lookup]) ((t.refusal bound lookup).map .error)

namespace RecordType

section Parts

variable (R : RecordType) (ctx : Context) (t : Table) (plan : Plan) (bound : Bound)

def send : (w : Write) → Attempt w.Reply
  | .insert =>
    match plan.generated with
    | none => do
      let _ ← Attempt.exec bound.sql bound.args
      return none
    | some _ => insertForKey ctx bound
  | .update _ => do
    let rows ← sendUpdate bound
    R.refuseConflict t bound rows
    return rows
  | .delete => do
    let rows := (← Attempt.exec bound.sql bound.args).rowsAffected
    R.refuseConflict t bound rows
    return rows

/-- What a record takes from the database after its statement: a generated key or the next version. -/
def writeBack : (w : Write) → w.Reply → Step R.Values Unit
  | .insert, key =>
    match plan.generated, key with
    | some c, some key => do R.writeField c.path (← ofExcept (ctx.converter.fromDb c key))
    | _, _ => return
  | .update _, _ => do R.storeVersion t (← nextVersion bound.version)
  | .delete, _ => return

/-- A write without the count of its rows and without the hook after it. -/
def effect (w : Write) : Step R.Values w.Reply := do
  let table ← R.announce ctx w
  let (plan, bound) ← R.compose ctx table w
  let reply ← (R.send ctx table plan bound w : Attempt w.Reply)
  R.writeBack ctx table plan bound w reply
  return reply

end Parts

variable {R : RecordType} {w : Write} {t : Table} {bound : Bound} {log : List Exchange}

theorem perform_eq (w : Write) (count : w.Result) :
    R.perform ctx w count = (do
      let reply ← R.effect ctx w
      let count ← w.tally count reply
      R.hooks w.postHook ctx
      return count : Step R.Values w.Result) := by
  simp only [effect, bind_assoc]
  cases w with
  | insert =>
    simp only [perform, insert]
    refine bind_congr fun table => bind_congr fun ⟨plan, bound⟩ => ?_
    have hook : (R.hooks Write.insert.postHook ctx >>= fun _ => pure () : Step R.Values Unit) =
        R.hooks Write.insert.postHook ctx := bind_pure_unit
    simp only [sendInsert, send, writeBack, Write.tally, Step.attempt_pure, pure_bind, hook]
    cases plan.generated with
    | none => simp only [Step.attempt_bind, Step.attempt_pure, bind_assoc, pure_bind]
    | some c =>
      simp only [bind_assoc]
      congr 1
      funext key
      cases key <;> rfl
  | update accepts =>
    simp only [perform, update]
    refine bind_congr fun table => bind_congr fun ⟨plan, bound⟩ => ?_
    simp only [send, writeBack, Write.tally, Step.attempt_bind, Step.attempt_pure, bind_assoc, pure_bind]
  | delete =>
    simp only [perform, delete]
    refine bind_congr fun table => bind_congr fun ⟨plan, bound⟩ => ?_
    simp only [send, writeBack, Write.tally, Step.attempt_bind, Step.attempt_pure, bind_assoc, pure_bind]

theorem perform_apply (w : Write) (count : w.Result) (v : R.Values) :
    R.perform ctx w count v = Script.bind (R.effect ctx w v) fun
      | (.error e, v) => .done (.error e, v)
      | (.ok reply, v) =>
        if UInt64.size ≤ w.rows (w.plus count (w.own reply)) then .fault .overflow
        else Script.bind (R.hooks w.postHook ctx v) fun
          | (.error e, v) => .done (.error e, v)
          | (.ok (), v) => .done (.ok (w.plus count (w.own reply)), v) := by
  rw [perform_eq, Step.bind_apply]
  congr 1
  funext ⟨answer, v⟩
  cases answer with
  | error e => rfl
  | ok reply =>
    dsimp only
    rw [Step.bind_apply, Step.attempt_apply, Write.tally_eq]
    split
    · rfl
    · show (R.hooks w.postHook ctx >>= fun _ => (return w.plus count (w.own reply) : Step R.Values w.Result)) v = _
      rw [Step.bind_apply]
      congr 1
      funext ⟨answer, v⟩
      cases answer <;> rfl

theorem runs_report (registered : ctx.table? R.typeName = some t) {rows : Nat}
    {outcome : Except Fault (Except Error Nat)}
    (run : Script.Runs ctx (R.refuseConflict t bound rows >>= fun _ => pure rows : Attempt Nat) log outcome) :
    (isConflict t bound rows = false ∧ log = [] ∧ outcome = .ok (.ok rows)) ∨
      isConflict t bound rows = true ∧ ∃ lookup, log = [.query (Plan.get t ctx.dialect).sql bound.keys lookup] ∧
        outcome = (t.refusal bound lookup).map .error := by
  cases found : isConflict t bound rows with
  | false =>
    rw [Attempt.bind_apply, refuseConflict_of_not found] at run
    exact .inl ⟨rfl, run⟩
  | true =>
    refine .inr ⟨rfl, ?_⟩
    rcases Attempt.runs_bind.mp run with
      ⟨reason, refusing, rfl⟩ | ⟨e, refusing, rfl⟩ | ⟨_, _, _, refusing, _, _⟩
    all_goals
      obtain ⟨lookup, rfl, ended⟩ := (refuseConflict_runs registered found).mp refusing
      rcases refused : t.refusal bound lookup with reason | e
      all_goals
        rw [refused] at ended
        cases ended
    · exact ⟨lookup, rfl, by rw [refused]; rfl⟩
    · exact ⟨lookup, rfl, by rw [refused]; rfl⟩

theorem report_once (registered : ctx.table? R.typeName = some t) {sent : List Exchange} {rows : Nat}
    (settled : bound.SentOnce t ctx.dialect sent (.ok (.ok rows))) (once : sent.length ≤ 1)
    (hit : ∀ x ∈ sent, bound.IsSentBy x ∧ x.refusal? = none ∧ x.touched = rows)
    {outcome : Except Fault (Except Error Nat)}
    (run : Script.Runs ctx (R.refuseConflict t bound rows >>= fun _ => pure rows : Attempt Nat) log outcome) :
    bound.SentOnce t ctx.dialect (sent ++ log) outcome := by
  rcases runs_report registered run with ⟨_, rfl, rfl⟩ | ⟨found, lookup, rfl, rfl⟩
  · rw [List.append_nil]
    exact settled
  · cases (isConflict_iff.mp found).1
    exact .conflict sent lookup once hit

theorem report_answered (registered : ctx.table? R.typeName = some t) {result : ExecResult}
    {outcome : Except Fault (Except Error Nat)}
    (run : Script.Runs ctx
      (R.refuseConflict t bound result.rowsAffected >>= fun _ => pure result.rowsAffected : Attempt Nat) log outcome) :
    bound.SentOnce t ctx.dialect (.exec bound.sql bound.args (.ok result) :: log) outcome := by
  have answered : bound.SentOnce t ctx.dialect [.exec bound.sql bound.args (.ok result)]
      (.ok (.ok result.rowsAffected)) := .answered result.rowsAffected ⟨rfl, rfl⟩ rfl
  exact report_once registered answered (Nat.le_refl 1) (List.forall_mem_singleton.mpr ⟨⟨rfl, rfl⟩, rfl, rfl⟩) run

theorem send_once (registered : ctx.table? R.typeName = some t) {plan : Plan}
    {outcome : Except Fault (Except Error w.Reply)} (run : Script.Runs ctx (R.send ctx t plan bound w) log outcome) :
    bound.SentOnce t ctx.dialect log outcome := by
  cases w with
  | insert =>
    unfold send at run
    cases generated : plan.generated with
    | none =>
      simp only [generated] at run
      obtain ⟨answer, late, rfl, rest⟩ := Attempt.runs_exec.mp run
      cases answer with
      | error e =>
        obtain ⟨rfl, rfl⟩ := rest
        exact .refused ⟨rfl, rfl⟩ rfl
      | ok result =>
        obtain ⟨rfl, rfl⟩ := rest
        exact .answered none ⟨rfl, rfl⟩ rfl
    | some c =>
      simp only [generated] at run
      obtain ⟨x, rfl, sent, ⟨e, refused, rfl⟩ | ⟨answered, reason, rfl⟩ | ⟨answered, key?, _, rfl⟩⟩ :=
        insertForKey_run run
      · exact .refused sent refused
      · exact .unreadable reason sent answered
      · exact .answered key? sent answered
  | update accepts =>
    rcases Attempt.runs_bind.mp run with
      ⟨reason, sending, rfl⟩ | ⟨e, sending, rfl⟩ | ⟨rows, sent, late, sending, reporting, rfl⟩
    all_goals rcases sendUpdate_runs.mp sending with ⟨e, some, rfl, ended⟩ | ⟨rows, answered, ended⟩
    all_goals cases ended
    · exact .refused ⟨rfl, rfl⟩ rfl
    · cases answered with
      | empty nothing => exact report_once registered (.empty nothing 0) (Nat.zero_le 1) nofun reporting
      | answered result => exact report_answered registered reporting
  | delete =>
    obtain ⟨answer, late, rfl, rest⟩ := Attempt.runs_exec.mp run
    cases answer with
    | error e =>
      obtain ⟨rfl, rfl⟩ := rest
      exact .refused ⟨rfl, rfl⟩ rfl
    | ok result => exact report_answered registered rest

theorem writeBack_update {plan : Plan} {accepts : Option (Column → Bool)} {rows : Nat} :
    R.writeBack ctx t plan bound (.update accepts) rows =
      (do R.storeVersion t (← nextVersion bound.version) : Step R.Values Unit) :=
  rfl

theorem writeBack_quiet {plan : Plan} {reply : w.Reply} {v : R.Values}
    {outcome : Except Fault (Except Error Unit × R.Values)}
    (run : Script.Runs ctx (R.writeBack ctx t plan bound w reply v) log outcome) : log = [] := by
  cases w with
  | insert =>
    cases generated : plan.generated with
    | none =>
      simp only [writeBack, generated] at run
      exact run.1
    | some c =>
      simp only [writeBack, generated] at run
      cases reply with
      | none => exact run.1
      | some key =>
        simp only [Step.bind_apply, Step.ofExcept_apply, Script.bind] at run
        cases converted : ctx.converter.fromDb c key with
        | error e =>
          rw [converted] at run
          exact run.1
        | ok x =>
          rw [converted] at run
          exact run.1
  | update accepts =>
    rw [writeBack_update] at run
    by_cases greatest : bound.version = Int64.maxValue
    · rw [Step.bind_of_fault (nextVersion_overflows greatest v)] at run
      exact run.1
    · rw [Step.bind_of_done (nextVersion_next greatest v)] at run
      exact run.1
  | delete => exact run.1

/-- A write that ends at its check for keys, in the hook before it, in binding, at its statement, or when the record
takes what the database made. These stages follow in this order, and each follows only where the ones before it
succeed. -/
inductive Halted (R : RecordType) (ctx : Context) (w : Write) (t : Table) (before : R.Values) :
    List Exchange → Except Fault (Except Error α × R.Values) → Prop where
  | withoutKeys (picks : w.picksRow = true) (keyless : t.keys = []) :
    Halted R ctx w t before [] (.ok (.error (.noKeys t.name), before))
  | inPreHook {log stop outcome} (keyed : w.picksRow = true → t.keys ≠ [])
      (hook : Script.Runs ctx (R.hooks w.preHook ctx before) log stop) (stops : Step.Stops stop outcome) :
    Halted R ctx w t before log outcome
  | inBinding {early mid stop outcome} (keyed : w.picksRow = true → t.keys ≠ [])
      (hook : Script.Runs ctx (R.hooks w.preHook ctx before) early (.ok (.ok (), mid)))
      (composing : Script.Runs ctx (R.compose ctx t w mid) [] stop) (stops : Step.Stops stop outcome) :
    Halted R ctx w t before early outcome
  | inStatement {early mid bound after late} {stop : Except Fault (Except Error w.Reply)} {outcome}
      (prepared : R.Prepared ctx w before t early mid bound after) (sent : bound.SentOnce t ctx.dialect late stop)
      (stops : Step.Stops (stop.map fun answer => (answer, after)) outcome) :
    Halted R ctx w t before (early ++ late) outcome
  | inWriteBack {early mid bound after late} {reply : w.Reply} {stop outcome}
      (prepared : R.Prepared ctx w before t early mid bound after)
      (sent : bound.SentOnce t ctx.dialect late (.ok (.ok reply)))
      (writing : Script.Runs ctx (R.writeBack ctx t (w.plan t ctx.dialect) bound w reply after) [] stop)
      (stops : Step.Stops stop outcome) :
    Halted R ctx w t before (early ++ late) outcome

/-- A write whose statement was answered and whose record took what the database made. -/
inductive Effected (R : RecordType) (ctx : Context) (w : Write) (t : Table) (before : R.Values) :
    List Exchange → w.Reply → R.Values → Prop where
  | stages {early mid bound after late reply stored} (prepared : R.Prepared ctx w before t early mid bound after)
      (sent : bound.SentOnce t ctx.dialect late (.ok (.ok reply)))
      (written : Script.Runs ctx (R.writeBack ctx t (w.plan t ctx.dialect) bound w reply after) []
        (.ok (.ok (), stored))) :
    Effected R ctx w t before (early ++ late) reply stored

/-- The stages of a write. Its rows are counted and the hook after it runs only once it has had its effect. -/
inductive Staged (R : RecordType) (ctx : Context) (w : Write) (t : Table) (count : w.Result) (before : R.Values) :
    List Exchange → Except Fault (Except Error w.Result × R.Values) → Prop where
  | halted {log outcome} (why : R.Halted ctx w t before log outcome) : Staged R ctx w t count before log outcome
  | tooMany {log reply stored} (effected : R.Effected ctx w t before log reply stored)
      (many : UInt64.size ≤ w.rows (w.plus count (w.own reply))) :
    Staged R ctx w t count before log (.error .overflow)
  | postHook {log reply stored last answer} (effected : R.Effected ctx w t before log reply stored)
      (few : w.rows (w.plus count (w.own reply)) < UInt64.size)
      (hook : Script.Runs ctx (R.hooks w.postHook ctx stored) last answer) :
    Staged R ctx w t count before (log ++ last)
      (answer.map fun done => (done.1.map fun _ => w.plus count (w.own reply), done.2))

variable {before : R.Values}

theorem Halted.not_done {a : α} {v : R.Values} (halted : R.Halted ctx w t before log (.ok (.ok a, v))) : False := by
  cases halted with
  | inPreHook _ _ stops | inBinding _ _ _ stops | inStatement _ _ stops | inWriteBack _ _ _ stops =>
    exact stops.not_done

theorem Halted.stops {stop : Except Fault (Except Error α × R.Values)}
    {outcome : Except Fault (Except Error β × R.Values)} (halted : R.Halted ctx w t before log stop)
    (stops : Step.Stops stop outcome) : R.Halted ctx w t before log outcome := by
  cases halted with
  | withoutKeys picks keyless =>
    cases stops
    exact .withoutKeys picks keyless
  | inPreHook keyed hook first => exact .inPreHook keyed hook (first.trans stops)
  | inBinding keyed hook composing first => exact .inBinding keyed hook composing (first.trans stops)
  | inStatement prepared sent first => exact .inStatement prepared sent (first.trans stops)
  | inWriteBack prepared sent writing first => exact .inWriteBack prepared sent writing (first.trans stops)

theorem announce_halts (registered : ctx.table? R.typeName = some t)
    {stop : Except Fault (Except Error Table × R.Values)} {outcome : Except Fault (Except Error α × R.Values)}
    (run : Script.Runs ctx (R.announce ctx w before) log stop) (stops : Step.Stops stop outcome) :
    R.Halted ctx w t before log outcome := by
  by_cases keyed : w.picksRow = true → t.keys ≠ []
  · rw [announce_eq_hook registered keyed] at run
    rcases Step.runs_bind_stops run with ⟨first, hook, halts⟩ | ⟨_, mid, early, late, hook, ⟨rfl, rfl⟩, _⟩
    · exact .inPreHook keyed hook (halts.trans stops)
    · cases stops
  · obtain ⟨picks, keyless⟩ := Classical.not_imp.mp keyed
    have keyless := Classical.not_not.mp keyless
    rw [announce_without_keys registered picks keyless] at run
    obtain ⟨rfl, rfl⟩ := run
    cases stops
    exact .withoutKeys picks keyless

theorem effect_run (registered : ctx.table? R.typeName = some t)
    {outcome : Except Fault (Except Error w.Reply × R.Values)}
    (run : Script.Runs ctx (R.effect ctx w before) log outcome) :
    R.Halted ctx w t before log outcome ∨
      ∃ reply stored, R.Effected ctx w t before log reply stored ∧ outcome = .ok (.ok reply, stored) := by
  unfold effect at run
  -- Stage by stage: it ends the write there, or what it left is where the next one starts.
  rcases Step.runs_bind_stops run with ⟨stop, announcing, stops⟩ | ⟨found, mid, early, rest, announced, composing, rfl⟩
  · exact .inl (announce_halts registered announcing stops)
  obtain ⟨same, keyed, hook⟩ := announce_run announced
  cases registered.symm.trans same
  rcases Step.runs_bind_stops composing with
    ⟨stop, binding, stops⟩ | ⟨⟨plan, bound⟩, after, none, rest, composed, sending, rfl⟩
  · obtain ⟨rfl, _⟩ := compose_run registered binding
    rw [List.append_nil]
    exact .inl (.inBinding keyed hook binding stops)
  obtain ⟨rfl, _ | _ | ⟨samePlan, _⟩⟩ := compose_run registered composed
  dsimp only at samePlan sending
  subst samePlan
  have prepared : R.Prepared ctx w before t early mid bound after := ⟨announced, composed⟩
  rcases Step.runs_bind_stops sending with ⟨stop, first, stops⟩ | ⟨reply, same, late, rest, first, writing, rfl⟩
  · obtain ⟨answer, sent, rfl⟩ := Step.runs_attempt.mp first
    exact .inl (.inStatement prepared (send_once registered sent) stops)
  obtain ⟨answer, sent, ended⟩ := Step.runs_attempt.mp first
  rcases answer with reason | answer
  · cases ended
  cases ended
  have once := send_once registered sent
  rcases Step.runs_bind_stops writing with ⟨stop, write, stops⟩ | ⟨_, stored, none, rest, written, ⟨rfl, rfl⟩, rfl⟩
  · cases writeBack_quiet write
    rw [List.append_nil]
    exact .inl (.inWriteBack prepared once write stops)
  · cases writeBack_quiet written
    rw [List.nil_append, List.append_nil, List.append_nil]
    exact .inr ⟨reply, stored, .stages prepared once written, rfl⟩

theorem perform_staged (registered : ctx.table? R.typeName = some t) {count : w.Result}
    {outcome : Except Fault (Except Error w.Result × R.Values)}
    (run : Script.Runs ctx (R.perform ctx w count before) log outcome) :
    R.Staged ctx w t count before log outcome := by
  rw [perform_eq] at run
  rcases Step.runs_bind_stops run with ⟨stop, first, stops⟩ | ⟨reply, stored, early, rest, first, counting, rfl⟩
  · rcases effect_run registered first with halted | ⟨_, _, _, rfl⟩
    · exact .halted (halted.stops stops)
    · cases stops
  rcases effect_run registered first with halted | ⟨_, _, effected, ended⟩
  · exact halted.not_done.elim
  cases ended
  by_cases many : UInt64.size ≤ w.rows (w.plus count (w.own reply))
  · have overflows : (liftM (w.tally count reply) : Step R.Values w.Result) stored = .fault .overflow := by
      rw [Write.tally_eq, if_pos many]
      rfl
    rw [Step.bind_of_fault overflows] at counting
    obtain ⟨rfl, rfl⟩ := counting
    rw [List.append_nil]
    exact .tooMany effected many
  have counted : (liftM (w.tally count reply) : Step R.Values w.Result) stored =
      .done (.ok (w.plus count (w.own reply)), stored) := by
    rw [Write.tally_eq, if_neg many]
    rfl
  rw [Step.bind_of_done counted] at counting
  have few := Nat.lt_of_not_le many
  rcases Step.runs_bind.mp counting with
    ⟨reason, hook, rfl⟩ | ⟨e, left, hook, rfl⟩ | ⟨_, left, last, _, hook, ⟨rfl, rfl⟩, rfl⟩
  · exact .postHook effected few hook
  · exact .postHook effected few hook
  · rw [List.append_nil]
    exact .postHook effected few hook

end RecordType

end RowMapper
