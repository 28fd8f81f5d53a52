import RowMapper.Backend

/-!
# Scripted backends

A backend that answers statements from a queue of replies. A statement that finds the queue empty succeeds without
effect.
-/

namespace RowMapper

/-- The answer to one statement: an execution takes the result, a query the rows. -/
inductive Reply where
  | failure (text : String)
  | answer (result : ExecResult) (rows : List Row)

namespace Backend

structure Replies where
  queue : List Reply := []
  /-- Fails the next beginning or conclusion of a transaction. -/
  failure : Option String := none

namespace Replies

def next {α : Type} (choose : ExecResult → List Row → α) (s : Replies) : Except Error α × Replies :=
  match s.queue with
  | [] => (.ok (choose {} []), s)
  | .failure text :: rest => (.error (.driver text), { s with queue := rest })
  | .answer result rows :: rest => (.ok (choose result rows), { s with queue := rest })

def turn (s : Replies) : Except Error Unit × Replies :=
  match s.failure with
  | some text => (.error (.driver text), { s with failure := none })
  | none => (.ok (), s)

end Replies

def scripted : Backend where
  State := Replies
  Handle := Unit
  execute _ _ _ := Replies.next fun result _ => result
  query _ _ _ := Replies.next fun _ rows => rows
  start := Replies.turn
  commit _ := Replies.turn
  rollback _ := Replies.turn

end Backend

end RowMapper
