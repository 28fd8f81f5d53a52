import RowMapper.Backend.Scripted
import RowMapper.Proofs.Requests

/-!
# Transactions

An open transaction sends statements until it is concluded, by the first commit or rollback that it is asked for or by
the rollback when it is left. Nothing is sent in it after that.
-/

namespace RowMapper

variable {B : Backend}

inductive Conclusion where
  | commit
  | rollback
deriving DecidableEq

namespace Conclusion

def request {η : Type} : Conclusion → η → Request η
  | commit => .commit
  | rollback => .rollback

def conclude : Conclusion → Mapper B → Transaction B → Except Error Unit × Transaction B × Mapper B
  | commit, m, t => m.commit t
  | rollback, m, t => m.rollback t

end Conclusion

inductive TransactionCall : Type 1 where
  | run {α : Type} (script : Context → Script α)
  | conclude (c : Conclusion)

namespace TransactionCall

def step : Transaction B × Mapper B → TransactionCall → Transaction B × Mapper B
  | (t, m), run script => (t, (m.run (.transaction t) (script m.context)).2)
  | (t, m), conclude c => (c.conclude m t).2

def conclusion? : TransactionCall → Option Conclusion
  | run _ => none
  | conclude c => some c

/-- What a call asks of the backend, with the errors that it gets. -/
def asked (t : Transaction B.watched) (m : Mapper B.watched) (call : TransactionCall) : List (Asked B.Handle) :=
  match t.handle?, call with
  | none, _ => []
  | some h, run script => (m.dialogue (.transaction t) (script m.context)).map (Exchange.asked (some h))
  | some h, conclude c => [⟨c.request h, failure? (c.conclude m t).1⟩]

end TransactionCall

namespace Mapper

variable {m : Mapper B} {t : Transaction B} {h : B.Handle}

theorem conclude_closed (closed : t.handle? = none) (m : Mapper B) (c : Conclusion) :
    c.conclude m t = (.error .transactionFinished, t, m) := by
  cases c <;> simp only [Conclusion.conclude, commit, rollback, Mapper.conclude, closed]

theorem leave_closed (closed : t.handle? = none) (m : Mapper B) : m.leave t = m := by
  unfold leave
  simp only [closed]

/-- A transaction that is over, and what it does then. -/
structure Over (m : Mapper B) (t : Transaction B) : Prop where
  finished : t.isFinished = true
  commit : m.commit t = (.error .transactionFinished, t, m)
  rollback : m.rollback t = (.error .transactionFinished, t, m)
  exec : ∀ sql args, m.run (.transaction t) (Attempt.exec sql args) = (.ok (.error .transactionFinished), m)
  query : ∀ sql args, m.run (.transaction t) (Attempt.query sql args) = (.ok (.error .transactionFinished), m)
  queryRow : ∀ sql args, m.run (.transaction t) (Attempt.queryRow sql args) = (.ok (.error .transactionFinished), m)
  /-- Whatever else is tried, nothing reaches the connection. -/
  quiet : ∀ {α : Type} (s : Script α), m.Quiet (m.run (.transaction t) s).2
  left : m.leave t = m

theorem over_of_closed (closed : t.handle? = none) (m : Mapper B) : m.Over t where
  finished := by rw [Transaction.isFinished, closed]; rfl
  commit := conclude_closed closed m .commit
  rollback := conclude_closed closed m .rollback
  exec sql args := by
    show m.run (.transaction t) (.exec sql args .done) = _
    rw [run_exec, send_closed closed]
    rfl
  query sql args := by
    have answer : checkRows (m.send (.transaction t) sql args B.query).1 = .ok (.error .transactionFinished) := by
      rw [send_closed closed]
      rfl
    show m.run (.transaction t) (.query sql args .done) = _
    rw [run_query_ok answer, send_closed closed]
    rfl
  queryRow sql args := by
    have answer : checkRows (m.send (.transaction t) sql args B.query).1 = .ok (.error .transactionFinished) := by
      rw [send_closed closed]
      rfl
    show m.run (.transaction t) (.query sql args _) = _
    rw [run_query_ok answer, send_closed closed]
    rfl
  quiet s := run_closed closed s m
  left := leave_closed closed m

end Mapper

namespace TransactionCall

variable {t : Transaction B.watched} {h : B.Handle} {m : Mapper B.watched}

theorem conclude_open (opened : t.handle? = some h) (c : Conclusion) (m : Mapper B.watched) :
    ∃ answer after, c.conclude m t = (answer, ⟨none⟩, after) ∧ m.Sends [⟨c.request h, failure? answer⟩] after := by
  cases c with
  | commit =>
    simp only [Conclusion.conclude, Mapper.commit, Mapper.conclude, opened]
    exact ⟨_, _, rfl, Mapper.sends_traced rfl⟩
  | rollback =>
    simp only [Conclusion.conclude, Mapper.rollback, Mapper.conclude, opened]
    exact ⟨_, _, rfl, Mapper.sends_traced rfl⟩

theorem step_closed (closed : t.handle? = none) (m : Mapper B.watched) (call : TransactionCall) :
    ∃ after, step (t, m) call = (t, after) ∧ m.Quiet after := by
  cases call with
  | run script => exact ⟨_, rfl, Mapper.run_closed closed (script m.context) m⟩
  | conclude c => exact ⟨m, congrArg Prod.snd (Mapper.conclude_closed closed m c), .refl m⟩

theorem step_sends (call : TransactionCall) (t : Transaction B.watched) (m : Mapper B.watched) :
    m.Sends (call.asked t m) (step (t, m) call).2 := by
  cases opened : t.handle? with
  | none =>
    obtain ⟨after, stepped, quiet⟩ := step_closed opened m call
    simp only [asked, opened, stepped]
    exact quiet.sends
  | some h =>
    cases call with
    | run script =>
      simp only [asked, opened]
      exact Mapper.run_open opened (script m.context) m
    | conclude c =>
      obtain ⟨answer, after, concluded, sends⟩ := conclude_open opened c m
      simp only [asked, opened, step, concluded]
      exact sends

theorem step_keeps (call : TransactionCall) (t : Transaction B.watched) (m : Mapper B.watched) :
    (step (t, m) call).1 = t ∨ (step (t, m) call).1.isFinished = true := by
  cases opened : t.handle? with
  | none =>
    obtain ⟨_, stepped, _⟩ := step_closed opened m call
    exact .inl (congrArg Prod.fst stepped)
  | some h =>
    cases call with
    | run script => exact .inl rfl
    | conclude c =>
      obtain ⟨_, _, concluded, _⟩ := conclude_open opened c m
      simp only [step, concluded]
      exact .inr rfl

def stepAll (start : Transaction B × Mapper B) (calls : List TransactionCall) : Transaction B × Mapper B :=
  calls.foldl step start

def firstConclusion? (calls : List TransactionCall) : Option Conclusion := calls.findSome? conclusion?

theorem stepAll_append (start : Transaction B × Mapper B) (early late : List TransactionCall) :
    stepAll start (early ++ late) = stepAll (stepAll start early) late := List.foldl_append

theorem stepAll_closed (closed : t.handle? = none) (m : Mapper B.watched) (calls : List TransactionCall) :
    ∃ after, stepAll (t, m) calls = (t, after) ∧ m.Quiet after := by
  induction calls generalizing m with
  | nil => exact ⟨m, rfl, .refl m⟩
  | cons call calls ih =>
    obtain ⟨mid, stepped, first⟩ := step_closed closed m call
    obtain ⟨after, rest, second⟩ := ih mid
    refine ⟨after, ?_, first.trans second⟩
    rw [stepAll, List.foldl_cons, stepped]
    exact rest

/-- Until it is asked for a conclusion, a transaction stays open and sends statements only. -/
theorem stepAll_open (opened : t.handle? = some h) (m : Mapper B.watched) {calls : List TransactionCall}
    (inconclusive : firstConclusion? calls = none) :
    ∃ after statements, stepAll (t, m) calls = (t, after) ∧ m.Sends statements after ∧
      ∀ x ∈ statements, x.request.IsStatement (some h) := by
  induction calls generalizing m with
  | nil => exact ⟨m, [], rfl, .refl m, nofun⟩
  | cons call calls ih =>
    cases call with
    | conclude c => cases inconclusive
    | run script =>
      have first := Mapper.run_open opened (script m.context) m
      obtain ⟨after, statements, rest, second, all⟩ := ih (m.run (.transaction t) (script m.context)).2 inconclusive
      refine ⟨after, _, rest, first.trans second, List.forall_mem_append.mpr ⟨?_, all⟩⟩
      intro x member
      obtain ⟨y, _, rfl⟩ := List.mem_map.mp member
      exact y.asked_isStatement (some h)

theorem split_of_firstConclusion {calls : List TransactionCall} {c : Conclusion}
    (found : firstConclusion? calls = some c) :
    ∃ early late, calls = early ++ conclude c :: late ∧ firstConclusion? early = none := by
  induction calls with
  | nil => cases found
  | cons call calls ih =>
    cases call with
    | conclude c' =>
      cases found
      exact ⟨[], calls, rfl, rfl⟩
    | run script =>
      obtain ⟨early, late, rfl, inconclusive⟩ := ih found
      exact ⟨run script :: early, late, rfl, inconclusive⟩

def askedAtLast (t : Transaction B.watched) (m : Mapper B.watched) : List (Asked B.Handle) :=
  match t.handle? with
  | none => []
  | some h => [⟨.rollback h, failure? (B.watched.rollback h m.connection).1⟩]

theorem leave_sends (t : Transaction B.watched) (m : Mapper B.watched) : m.Sends (askedAtLast t m) (m.leave t) := by
  unfold askedAtLast Mapper.leave
  cases t.handle? with
  | none => exact .refl m
  | some h => exact ⟨rfl, rfl, rfl⟩

end TransactionCall

open TransactionCall

/-- A transaction that was open is concluded once, whatever is called on it until it is left: the last request in it is
the first conclusion that was asked for, or a rollback if none was, and all requests before it are statements. From the
first conclusion on, even if that failed, the transaction is over. -/
theorem Transaction.concludes_once {t : Transaction B.watched} {h : B.Handle} (opened : t.handle? = some h)
    (m : Mapper B.watched) (calls : List TransactionCall) :
    let (left, after) := stepAll (t, m) calls
    (∃ statements error?, (∀ x ∈ statements, x.request.IsStatement (some h)) ∧
      (after.leave left).log =
        m.log ++ statements ++ [⟨((firstConclusion? calls).getD .rollback).request h, error?⟩]) ∧
    (firstConclusion? calls = none → left.isFinished = false) ∧
    ∀ c, firstConclusion? calls = some c → after.Over left := by
  cases first : firstConclusion? calls with
  | none =>
    obtain ⟨after, statements, reached, sends, all⟩ := stepAll_open opened m first
    have rolledBack := leave_sends t after
    simp only [askedAtLast, opened] at rolledBack
    have whole := rolledBack.log
    rw [sends.log] at whole
    rw [reached]
    refine ⟨⟨statements, _, all, whole⟩, ?_, nofun⟩
    intro _
    rw [Transaction.isFinished, opened]
    rfl
  | some c =>
    -- Open up to the conclusion, which takes the handle whatever its answer is, and closed from there.
    obtain ⟨early, late, rfl, inconclusive⟩ := split_of_firstConclusion first
    obtain ⟨mid, statements, reached, sends, all⟩ := stepAll_open opened m inconclusive
    obtain ⟨answer, ended, concluded, concludes⟩ := conclude_open opened c mid
    obtain ⟨after, stays, quiet⟩ := stepAll_closed (t := ⟨none⟩) rfl ended late
    have whole : stepAll (t, m) (early ++ conclude c :: late) = (⟨none⟩, after) := by
      have stepped : step (t, mid) (conclude c) = (⟨none⟩, ended) := congrArg Prod.snd concluded
      rw [stepAll_append, reached, stepAll, List.foldl_cons, stepped]
      exact stays
    rw [whole]
    refine ⟨⟨statements, failure? answer, all, ?_⟩, nofun, fun _ _ => Mapper.over_of_closed rfl after⟩
    rw [Mapper.leave_closed rfl, quiet.sends.log, List.append_nil, concludes.log, sends.log]
    rfl

def fragileMapper : Mapper Backend.scripted.watched where
  dialect := .sqlite "" false
  connection := { inner := { failure := some "down" } }

def openTransaction : Transaction Backend.scripted.watched := ⟨some ()⟩

def fragileCalls : List TransactionCall :=
  [.run fun _ => Attempt.exec "delete from events;" [], .conclude .commit,
    .run fun _ => Attempt.exec "delete from events;" [], .conclude .rollback]

/-- The commit fails and is the conclusion, and the rollback after it is not. -/
theorem failed_commit_concludes :
    let (left, after) := stepAll (openTransaction, fragileMapper) fragileCalls
    (∃ statements error?, (∀ x ∈ statements, x.request.IsStatement (some ())) ∧
      (after.leave left).log = fragileMapper.log ++ statements ++ [⟨.commit (), error?⟩]) ∧ after.Over left := by
  obtain ⟨concluded, _, finished⟩ := Transaction.concludes_once (t := openTransaction) rfl fragileMapper fragileCalls
  exact ⟨concluded, finished .commit rfl⟩

example : (stepAll (openTransaction, fragileMapper) fragileCalls).2.log =
    [⟨.execute (some ()) "delete from events;" [], none⟩, ⟨.commit (), some (.driver "down")⟩] := rfl

end RowMapper
