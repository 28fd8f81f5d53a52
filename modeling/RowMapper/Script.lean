import RowMapper.Backend
import RowMapper.Plan

/-!
# Scripts

A script is a program of statements, apart from whatever runs them. It goes on from the answer to each statement, errors
included, and ends in a result or in a fault.
-/

namespace RowMapper

inductive Script (α : Type) where
  | done (result : α)
  | fault (f : Fault)
  /-- Asks for a plan of a registered type. -/
  | plan (typeName : String) (kind : PlanKind) (next : Plan → Script α)
  | exec (sql : String) (args : List Value) (next : Except Error ExecResult → Script α)
  | query (sql : String) (args : List Value) (next : Except Error (List Row) → Script α)

namespace Script

variable {α β : Type}

def bind (s : Script α) (f : α → Script β) : Script β :=
  match s with
  | done result => f result
  | fault reason => .fault reason
  | plan typeName kind next => .plan typeName kind fun answer => (next answer).bind f
  | exec sql args next => .exec sql args fun answer => (next answer).bind f
  | query sql args next => .query sql args fun answer => (next answer).bind f

instance : Monad Script where
  pure := done
  bind := bind

theorem bind_done (s : Script α) : s.bind done = s := by
  induction s with
  | done => rfl
  | fault => rfl
  | plan _ _ _ ih => simp only [bind, ih]
  | exec _ _ _ ih => simp only [bind, ih]
  | query _ _ _ ih => simp only [bind, ih]

theorem bind_assoc {γ : Type} (s : Script α) (f : α → Script β) (g : β → Script γ) :
    (s.bind f).bind g = s.bind fun x => (f x).bind g := by
  induction s with
  | done => rfl
  | fault => rfl
  | plan _ _ _ ih => simp only [bind, ih]
  | exec _ _ _ ih => simp only [bind, ih]
  | query _ _ _ ih => simp only [bind, ih]

instance : LawfulMonad Script :=
  LawfulMonad.mk' Script bind_done (fun _ _ => rfl) bind_assoc

end Script

/-- A script that can fail with an error. -/
abbrev Attempt (α : Type) := ExceptT Error Script α

namespace Attempt

def exec (sql : String) (args : List Value) : Attempt ExecResult := Script.exec sql args .done

def query (sql : String) (args : List Value) : Attempt (List Row) := Script.query sql args .done

/-- The first row of a query's result. -/
def queryRow (sql : String) (args : List Value) : Attempt (Option Row) := return (← query sql args).head?

def plan (typeName : String) (kind : PlanKind) : Attempt Plan :=
  Script.plan typeName kind fun answer => .done (.ok answer)

def fault {α : Type} (f : Fault) : Attempt α := Script.fault f

end Attempt

end RowMapper
