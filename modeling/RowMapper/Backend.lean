import RowMapper.Error
import RowMapper.Text.Basic

/-!
# Backends

What the library asks of a database: statements are run on a connection or in an open transaction, and a transaction is
concluded by a commit or a rollback. Any backend can be recorded, so that it also writes down every call that it gets,
in order and before it is answered.
-/

namespace RowMapper

structure Row where
  columns : List String
  values : List Value
deriving DecidableEq

namespace Row

def isAligned (r : Row) : Bool := r.columns.length == r.values.length

def get? (r : Row) (i : Nat) : Option Value := r.values[i]?

/-- The value under a label: an exact match first, then one up to ASCII case. -/
def find? (r : Row) (label : String) : Option Value :=
  ((r.columns.findIdx? (· == label)).or (r.columns.findIdx? (Text.eqIgnoreAsciiCase · label))).bind r.get?

end Row

/-- The outcome of a statement that returns no rows. -/
structure ExecResult where
  rowsAffected : Nat := 0
  lastInsertId : Option Int64 := none
deriving DecidableEq

structure Backend where
  /-- The state of a connection. -/
  State : Type
  /-- An open transaction. -/
  Handle : Type
  /-- Runs a statement, in a transaction if one is given. -/
  execute : Option Handle → String → List Value → State → Except Error ExecResult × State
  query : Option Handle → String → List Value → State → Except Error (List Row) × State
  start : State → Except Error Handle × State
  commit : Handle → State → Except Error Unit × State
  rollback : Handle → State → Except Error Unit × State

/-! ### Recorded backends -/

/-- A call of a backend; `inTransaction` tells a transaction's statements from the connection's own. -/
inductive Call where
  | execute (inTransaction : Bool) (sql : String) (args : List Value)
  | query (inTransaction : Bool) (sql : String) (args : List Value)
  | start
  | commit
  | rollback
deriving DecidableEq

namespace Backend

structure Recorded (σ : Type) where
  inner : σ
  calls : List Call := []

def record {σ α : Type} (call : Call) (answer : σ → α × σ) (s : Recorded σ) : α × Recorded σ :=
  let (result, inner) := answer s.inner
  (result, { inner, calls := s.calls ++ [call] })

def recorded (B : Backend) : Backend where
  State := Recorded B.State
  Handle := B.Handle
  execute handle? sql args := record (.execute handle?.isSome sql args) (B.execute handle? sql args)
  query handle? sql args := record (.query handle?.isSome sql args) (B.query handle? sql args)
  start := record .start B.start
  commit handle := record .commit (B.commit handle)
  rollback handle := record .rollback (B.rollback handle)

end Backend

end RowMapper
