import RowMapper.Proofs.Script.Dialogue

/-!
# Requests

What reaches a backend: a watched backend answers as the one that it watches, and logs each request with the error that
answered it, if any.
-/

namespace RowMapper

variable {η α : Type}

/-- A request to a backend. A statement names the transaction that it is sent in. -/
inductive Request (η : Type) where
  | execute (handle? : Option η) (sql : String) (args : List Value)
  | query (handle? : Option η) (sql : String) (args : List Value)
  | start
  | commit (handle : η)
  | rollback (handle : η)

def Request.IsStatement (handle? : Option η) : Request η → Prop
  | execute used? _ _ | query used? _ _ => used? = handle?
  | start | commit _ | rollback _ => False

structure Asked (η : Type) where
  request : Request η
  error? : Option Error

def failure? : Except Error α → Option Error
  | .error e => some e
  | .ok _ => none

theorem failure?_map {β : Type} (answer : Except Error α) (f : α → β) : failure? (answer.map f) = failure? answer := by
  cases answer <;> rfl

def Exchange.asked (handle? : Option η) (x : Exchange) : Asked η where
  request :=
    match x with
    | exec sql args _ => .execute handle? sql args
    | query sql args _ => .query handle? sql args
  error? := x.refusal?

theorem Exchange.asked_exec {handle? : Option η} {sql : String} {args : List Value} {answer : Except Error ExecResult} :
    (exec sql args answer).asked handle? = ⟨.execute handle? sql args, failure? answer⟩ := by
  cases answer <;> rfl

theorem Exchange.asked_query {handle? : Option η} {sql : String} {args : List Value}
    {answer : Except Error (List Row)} :
    (query sql args answer).asked handle? = ⟨.query handle? sql args, failure? answer⟩ := by
  cases answer <;> rfl

theorem Exchange.asked_isStatement (handle? : Option η) (x : Exchange) :
    (x.asked handle?).request.IsStatement handle? := by
  cases x <;> rfl

namespace Backend

structure Watched (B : Backend) where
  inner : B.State
  log : List (Asked B.Handle) := []

variable {B : Backend}

def watch (request : Request B.Handle) (call : B.State → Except Error α × B.State) (s : B.Watched) :
    Except Error α × B.Watched :=
  let (answer, inner) := call s.inner
  (answer, { inner, log := s.log ++ [⟨request, failure? answer⟩] })

def watched (B : Backend) : Backend where
  State := B.Watched
  Handle := B.Handle
  execute handle? sql args := watch (.execute handle? sql args) (B.execute handle? sql args)
  query handle? sql args := watch (.query handle? sql args) (B.query handle? sql args)
  start := watch .start B.start
  commit handle := watch (.commit handle) (B.commit handle)
  rollback handle := watch (.rollback handle) (B.rollback handle)

end Backend

namespace Mapper

variable {B : Backend}

theorem traced_dialect (m : Mapper B) (sql : String) (args : List Value) : (m.traced sql args).dialect = m.dialect :=
  congrArg Context.dialect (m.traced_eq sql args).1

def log (m : Mapper B.watched) : List (Asked B.Handle) := m.connection.log

/-- A mapper that sends requests, and is set up as far as it was. -/
structure Sends (m : Mapper B.watched) (asked : List (Asked B.Handle)) (after : Mapper B.watched) : Prop where
  log : after.log = m.log ++ asked
  initialized : after.initialized = m.initialized
  dialect : after.dialect = m.dialect

variable {m mid after : Mapper B.watched} {early late : List (Asked B.Handle)} {t : Transaction B.watched}
  {h : B.Handle}

theorem Sends.refl (m : Mapper B.watched) : m.Sends [] m := ⟨(List.append_nil _).symm, rfl, rfl⟩

theorem Sends.trans (first : m.Sends early mid) (second : mid.Sends late after) : m.Sends (early ++ late) after where
  log := by rw [second.log, first.log, List.append_assoc]
  initialized := second.initialized.trans first.initialized
  dialect := second.dialect.trans first.dialect

/-- What a mapper notes of a statement that it traces is no request. -/
theorem sends_traced {sql : String} {args : List Value} {connection : B.watched.State} {asked : List (Asked B.Handle)}
    (logged : connection.log = (m.traced sql args).connection.log ++ asked) :
    m.Sends asked { m.traced sql args with connection } := by
  obtain ⟨_, _, same, initialized⟩ := m.traced_eq sql args
  refine ⟨?_, initialized, m.traced_dialect sql args⟩
  unfold log
  rw [← same]
  exact logged

/-- A call of a watched backend that logs a request for each statement. -/
def LogsAs (call : Option B.watched.Handle → String → List Value → B.watched.State → Except Error α × B.watched.State)
    (request : Option B.Handle → String → List Value → Request B.Handle) : Prop :=
  ∀ handle? sql args s, (call handle? sql args s).2.log =
    s.log ++ [⟨request handle? sql args, failure? (call handle? sql args s).1⟩]

variable {call : Option B.watched.Handle → String → List Value → B.watched.State → Except Error α × B.watched.State}
  {request : Option B.Handle → String → List Value → Request B.Handle}

theorem LogsAs.answered (logs : LogsAs call request) {handle? : Option B.watched.Handle} {sql : String}
    {args : List Value} {s connection : B.watched.State} {answer : Except Error α}
    (sent : call handle? sql args s = (answer, connection)) :
    connection.log = s.log ++ [⟨request handle? sql args, failure? answer⟩] := by
  have logged := logs handle? sql args s
  rw [sent] at logged
  exact logged

theorem execute_logs : LogsAs (B := B) B.watched.execute .execute := fun _ _ _ _ => rfl

theorem query_logs : LogsAs (B := B) B.watched.query .query := fun _ _ _ _ => rfl

theorem send_open (logs : LogsAs call request) (opened : t.handle? = some h) (sql : String) (args : List Value) :
    m.Sends [⟨request (some h) sql args, failure? (m.send (.transaction t) sql args call).1⟩]
      (m.send (.transaction t) sql args call).2 := by
  unfold send
  simp only [opened]
  exact sends_traced (logs (some h) sql args (m.traced sql args).connection)

theorem run_open (opened : t.handle? = some h) (s : Script α) (m : Mapper B.watched) :
    m.Sends ((m.dialogue (.transaction t) s).map (Exchange.asked (some h))) (m.run (.transaction t) s).2 := by
  have accounts : Accounts (.transaction t)
      fun (m : Mapper B.watched) log after => m.Sends (log.map (Exchange.asked (some h))) after := by
    refine ⟨.refl, ?_, ?_, ?_⟩
    · intro m registry log after sends
      exact ⟨sends.log, sends.initialized, sends.dialect⟩
    · intro m sql args log after sends
      rw [List.map_cons, Exchange.asked_exec]
      exact (send_open execute_logs opened sql args).trans sends
    · intro m sql args log after sends
      rw [List.map_cons, Exchange.asked_query]
      exact (send_open query_logs opened sql args).trans sends
  exact accounts.run s m

end Mapper

namespace Mapper

variable {B : Backend} {t : Transaction B}

theorem send_closed (closed : t.handle? = none) (m : Mapper B) (sql : String) (args : List Value)
    (call : Option B.Handle → String → List Value → B.State → Except Error α × B.State) :
    m.send (.transaction t) sql args call = (.error .transactionFinished, m) := by
  unfold send
  simp only [closed]

structure Quiet (m after : Mapper B) : Prop where
  connection : after.connection = m.connection
  initialized : after.initialized = m.initialized
  dialect : after.dialect = m.dialect

theorem Quiet.refl (m : Mapper B) : m.Quiet m := ⟨rfl, rfl, rfl⟩

theorem Quiet.trans {m mid after : Mapper B} (first : m.Quiet mid) (second : mid.Quiet after) : m.Quiet after where
  connection := second.connection.trans first.connection
  initialized := second.initialized.trans first.initialized
  dialect := second.dialect.trans first.dialect

theorem run_closed (closed : t.handle? = none) (s : Script α) (m : Mapper B) :
    m.Quiet (m.run (.transaction t) s).2 := by
  have accounts : Accounts (.transaction t) fun (m : Mapper B) _ after => m.Quiet after := by
    refine ⟨.refl, ?_, ?_, ?_⟩
    · intro m registry log after quiet
      exact ⟨quiet.connection, quiet.initialized, quiet.dialect⟩
    · intro m sql args log after quiet
      rwa [send_closed closed] at quiet
    · intro m sql args log after quiet
      rwa [send_closed closed] at quiet
  exact accounts.run s m

theorem Quiet.sends {m after : Mapper B.watched} (quiet : m.Quiet after) : m.Sends [] after where
  log := by
    unfold log
    rw [quiet.connection, List.append_nil]
  initialized := quiet.initialized
  dialect := quiet.dialect

end Mapper

end RowMapper
