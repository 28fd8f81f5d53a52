import RowMapper.Record.Basic
import RowMapper.Table.Definition

/-!
# Defining the tables of a mapper

Scripts that create, empty and drop all registered tables in order, and their indexes.
-/

namespace RowMapper

namespace Attempt

def run (sql : String) : Attempt Unit := do
  let _ ← exec sql []

end Attempt

namespace Context

variable (ctx : Context)

def createTables (guarded : Bool) : Attempt Unit :=
  ctx.tables.forM fun t =>
    match t.createStatements ctx.dialect guarded with
    | .ok statements => statements.forM Attempt.run
    | .error reason => Attempt.fault reason

def dropTables (guarded : Bool) : Attempt Unit :=
  ctx.tables.forM fun t => Attempt.run (t.dropStatement ctx.dialect guarded)

/-- Drops the table of one type, which has to be registered. -/
def dropTable (typeName : String) (guarded : Bool) : Attempt Unit :=
  match ctx.table? typeName with
  | some t => Attempt.run (t.dropStatement ctx.dialect guarded)
  | none => throw (.notRegistered typeName)

def truncateTables : Attempt Unit :=
  ctx.tables.forM fun t => Attempt.run (t.truncateStatement ctx.dialect)

def createIndexes : Attempt Unit :=
  ctx.tables.forM fun t => t.indexes.forM fun index => Attempt.run (t.createIndexStatement ctx.dialect index)

/-- Drops an index that was declared on the table of a type. -/
def dropIndex (typeName name : String) : Attempt Unit :=
  match ctx.table? typeName with
  | some t =>
    if (t.index? name).isSome then Attempt.run (t.dropIndexStatement ctx.dialect name)
    else throw (.custom ("index " ++ name ++ " not found on table " ++ t.name))
  | none => Attempt.fault (.unregistered typeName)

end Context

end RowMapper
