import RowMapper.Proofs.Plan
import RowMapper.Proofs.Record.Binding
import RowMapper.Proofs.Script.Sends

/-!
# Clients of one row

Clients load a row by its key, edit their copies and update the row with them. Their statements run on one database in
any order. What a backend does with the statements for the row is what their terms say.
-/

namespace RowMapper

/-- How a database keeps a row: what it shows of the row, what a column keeps of a value that is put into it, and
whether it takes a value as equal to what the column shows. -/
structure RowView (B : Backend) where
  cell : B.State → Column → Value
  keeps : Column → Value → Value
  same : Column → Value → Value → Bool

namespace RowView

variable {B : Backend} (view : RowView B)

def meets (database : B.State) (required : List (Column × Value)) : Bool :=
  required.all fun term => view.same term.1 (view.cell database term.1) term.2

def setCells (cells : Column → Value) (assigned : List (Column × Value)) (c : Column) : Value :=
  ((assigned.lookup c).map (view.keeps c)).getD (cells c)

/-- A backend runs each statement on the row as it is written, with the arguments that records give: an update that
finds the row sets its values and reports one row, and any other update reports none. A load returns the row if it has
the keys, and never anything else. Versions are kept and compared as the numbers that they are. -/
structure Honest (R : RecordType) (t : Table) (c : Column) (d : Dialect) : Prop where
  keeps_version : ∀ n : Int64, view.keeps c (.bigInt n) = .bigInt n
  same_version : ∀ m n : Int64, view.same c (.bigInt m) (.bigInt n) = true ↔ m = n
  update : ∀ accepts args database, List.Forall₂ R.Bindable (Plan.update t d accepts).sources args →
    ∃ result after, B.execute none (Plan.update t d accepts).sql args database = (.ok result, after) ∧
      if view.meets database (t.required accepts args) = true then
        result.rowsAffected = 1 ∧ view.cell after = view.setCells (view.cell database) (t.assigned accepts args)
      else result.rowsAffected = 0 ∧ view.cell after = view.cell database
  get : ∀ keys database answer after, keys.length = t.keyColumns.length →
    B.query none (Plan.get t d).sql keys database = (answer, after) →
      view.cell after = view.cell database ∧
        ∀ rows, answer = .ok rows → ∀ row ∈ rows, row.values = t.storedColumns.map (view.cell database)
  finds : ∀ keys database, List.Forall₂ (fun k => R.Bindable (.field k)) t.keyColumns keys →
    view.meets database (t.keyColumns.zip keys) = true →
      ∃ row after, B.query none (Plan.get t d).sql keys database = (.ok [row], after) ∧ row.isAligned = true

end RowView

/-- An update that has returned, and the record as it was when the update was called. -/
structure Returned (R : RecordType) where
  copy : R.Values
  outcome : Except Fault (Except Error Nat × R.Values)

namespace Returned

variable {R : RecordType}

def won (r : Returned R) : Bool :=
  match r.outcome with
  | .ok (.ok rows, _) => decide (1 ≤ rows)
  | _ => false

/-- The record that the caller has afterwards. A fault leaves none. -/
def left (r : Returned R) : List R.Values :=
  match r.outcome with
  | .ok (_, after) => [after]
  | .error _ => []

end Returned

/-- The copies that a client holds, and the update that it waits for: the copy and what is left of the script. -/
structure Client (R : RecordType) where
  copies : List R.Values := []
  pending : Option (R.Values × Script (Except Error Nat × R.Values)) := none

structure World (ι : Type) (B : Backend) (R : RecordType) where
  database : B.State
  client : ι → Client R := fun _ => {}
  /-- The updates that have returned so far, in order. -/
  returned : List (Returned R) := []

namespace World

variable {ι : Type} [DecidableEq ι] {B : Backend} {R : RecordType}

/-- What becomes of a script before its next answer: it waits to send a statement, or its call returns. -/
inductive Comes (ctx : Context) (copy : R.Values) (script : Script (Except Error Nat × R.Values)) :
    Option (R.Values × Script (Except Error Nat × R.Values)) → List (Returned R) → Prop where
  | waits {x rest} (sends : script.Sends ctx x rest) : Comes ctx copy script (some (copy, script)) []
  | returns {outcome} (ended : script.Runs ctx [] outcome) : Comes ctx copy script none [⟨copy, outcome⟩]

def goOn (w : World ι B R) (i : ι) (database : B.State)
    (pending : Option (R.Values × Script (Except Error Nat × R.Values))) (returned : List (Returned R)) :
    World ι B R where
  database
  client := Function.update w.client i { copies := returned.flatMap Returned.left ++ (w.client i).copies, pending }
  returned := w.returned ++ returned

def hold (w : World ι B R) (i : ι) (database : B.State) (copies : List R.Values) : World ι B R where
  database
  client := Function.update w.client i { w.client i with copies := copies ++ (w.client i).copies }
  returned := w.returned

def loaded : Except Fault (Except Error (Option R.Values)) → List R.Values
  | .ok (.ok (some copy)) => [copy]
  | _ => []

structure SameIdentity (R : RecordType) (t : Table) (before after : R.Values) : Prop where
  version : R.localVersion t after = R.localVersion t before
  keys : ∀ k ∈ t.keyColumns, R.read k.path after = R.read k.path before

/-- One step of a client. Every step sends one statement at most, and what follows the answer belongs to it. -/
inductive Step (ctx : Context) (t : Table) (w : World ι B R) : World ι B R → Prop where
  | get (i : ι) {keys x outcome database} (idle : (w.client i).pending = none)
    (counted : keys.length = t.keyColumns.length) (run : Script.Runs ctx (R.get ctx keys) [x] outcome)
    (served : B.Answers none w.database x database) :
    Step ctx t w (w.hold i database (loaded outcome))
  | edit (i : ι) {copy changed} (held : copy ∈ (w.client i).copies) (same : SameIdentity R t copy changed) :
    Step ctx t w (w.hold i w.database [changed])
  | update (i : ι) (accepts : Option (Column → Bool)) {copy pending returned} (idle : (w.client i).pending = none)
      (held : copy ∈ (w.client i).copies) (below : R.localVersion t copy ≠ .ok Int64.maxValue)
      (comes : Comes ctx copy (R.update ctx accepts 0 copy) pending returned) :
    Step ctx t w (w.goOn i w.database pending returned)
  | send (i : ι) {copy script x rest database pending returned} (waiting : (w.client i).pending = some (copy, script))
      (sends : script.Sends ctx x rest) (served : B.Answers none w.database x database)
      (comes : Comes ctx copy rest pending returned) :
    Step ctx t w (w.goOn i database pending returned)

/-- What clients can come to from a database that no client has looked at. -/
inductive Reachable (ctx : Context) (t : Table) (database : B.State) : World ι B R → Prop where
  | start : Reachable ctx t database { database }
  | step {w next} (reached : Reachable ctx t database w) (step : Step ctx t w next) : Reachable ctx t database next

variable {ctx : Context} {t : Table} {database after : B.State} {w : World ι B R} {i : ι} {copy : R.Values}
  {log : List Exchange} {outcome : Except Fault (Except Error Nat × R.Values)}

theorem goOn_goOn {mid : B.State} {pending last : Option (R.Values × Script (Except Error Nat × R.Values))}
    {returned : List (Returned R)} :
    (w.goOn i mid pending []).goOn i after last returned = w.goOn i after last returned := by
  simp [goOn]

theorem goOn_pending {pending : Option (R.Values × Script (Except Error Nat × R.Values))}
    {returned : List (Returned R)} :
    ((w.goOn i after pending returned).client i).pending = pending := by
  simp [goOn]

/-- No other client has to come in between. -/
theorem Reachable.finish {script : Script (Except Error Nat × R.Values)} {x : Exchange}
    (reached : Reachable ctx t database w) (waiting : (w.client i).pending = some (copy, script))
    (run : script.Runs ctx (x :: log) outcome) (served : B.Serves none w.database (x :: log) after) :
    Reachable ctx t database (w.goOn i after none [⟨copy, outcome⟩]) := by
  -- Each exchange is one step, after which the rest of the log is a run of the rest of the script.
  induction log generalizing w script x with
  | nil =>
    obtain ⟨rest, sends, ended⟩ := Script.runs_cons.mp run
    obtain ⟨_, answers, rfl⟩ := served
    exact reached.step (.send i waiting sends answers (.returns ended))
  | cons y log ih =>
    obtain ⟨rest, sends, run⟩ := Script.runs_cons.mp run
    obtain ⟨mid, answers, served⟩ := served
    obtain ⟨_, sendsNext, _⟩ := Script.runs_cons.mp run
    have waits := reached.step (.send i waiting sends answers (.waits sendsNext))
    have done := ih waits goOn_pending run served
    rwa [goOn_goOn] at done

theorem Reachable.update_alone {accepts : Option (Column → Bool)} (reached : Reachable ctx t database w)
    (idle : (w.client i).pending = none) (held : copy ∈ (w.client i).copies)
    (below : R.localVersion t copy ≠ .ok Int64.maxValue)
    (run : Script.Runs ctx (R.update ctx accepts 0 copy) log outcome) (served : B.Serves none w.database log after) :
    Reachable ctx t database (w.goOn i after none [⟨copy, outcome⟩]) := by
  cases log with
  | nil =>
    cases served
    exact reached.step (.update i accepts idle held below (.returns run))
  | cons x log =>
    obtain ⟨rest, sends, _⟩ := Script.runs_cons.mp run
    have waits := reached.step (.update i accepts idle held below (.waits sends))
    have done := waits.finish goOn_pending run served
    rwa [goOn_goOn] at done

end World

end RowMapper
