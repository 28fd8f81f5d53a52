import RowMapper.Backend
import RowMapper.Store.Execution

/-!
# Engines as backends

An engine runs statements on cells and is either inside a transaction or not. As a backend it takes and returns values,
and it never stays inside a transaction after a commit that failed.
-/

namespace RowMapper

open Store

structure Engine where
  State : Type
  inTransaction : State → Bool
  execute : String → List Cell → State → Except String ExecResult × State
  query : String → List Cell → State → Except String (List String × List (List Cell)) × State
  start : State → Except String Unit × State
  commit : State → Except String Unit × State
  rollback : State → Except String Unit × State

namespace Engine

variable (E : Engine)

/-- A failed commit can leave the transaction open; it is then rolled back, and the answer is still the commit's. -/
def commitOrClose (s : E.State) : Except String Unit × E.State :=
  match E.commit s with
  | (.ok (), s) => (.ok (), s)
  | (.error text, s) => (.error text, if E.inTransaction s then (E.rollback s).2 else s)

def driverError {α β : Type} (f : α → β) : Except String α → Except Error β
  | .ok a => .ok (f a)
  | .error text => .error (.driver text)

def rowsOf (answer : List String × List (List Cell)) : List Row :=
  answer.2.map fun cells => { columns := answer.1, values := cells.map Cell.toValue }

def backend : Backend where
  State := E.State
  Handle := Unit
  execute _ sql args s :=
    let (answer, s) := E.execute sql (args.map Cell.ofValue) s
    (driverError id answer, s)
  query _ sql args s :=
    let (answer, s) := E.query sql (args.map Cell.ofValue) s
    (driverError rowsOf answer, s)
  start s :=
    let (answer, s) := E.start s
    (driverError id answer, s)
  commit _ s :=
    let (answer, s) := E.commitOrClose s
    (driverError id answer, s)
  rollback _ s :=
    let (answer, s) := E.rollback s
    (driverError id answer, s)

end Engine

namespace Store

def refused {α : Type} (answer : Except Refusal α × Store) : Except String α × Store :=
  (answer.1.mapError Refusal.message, answer.2)

/-- A statement that returns no rows, with the counts of the connection. -/
def execute (s : Store) (sql : String) (args : List Cell) : Except Refusal ExecResult × Store :=
  match s.run sql args with
  | (.error refusal, s) => (.error refusal, s)
  | (.ok answer, s) =>
    if answer.rows.isEmpty then (.ok { rowsAffected := s.changes, lastInsertId := some s.lastRowId }, s)
    else (.error .unexpectedRows, s)

def engine : Engine where
  State := Store
  inTransaction s := s.saved.isSome
  execute sql args s := refused (s.execute sql (args.map Cell.stored))
  query sql args s := refused ((s.run sql (args.map Cell.stored)).map (Except.map fun a => (a.columns, a.rows)) id)
  start s := refused s.start
  commit s := refused s.commit
  rollback s := refused s.rollback

end Store

end RowMapper
