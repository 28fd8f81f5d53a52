import RowMapper.Proofs.Script.Runs

/-!
# Scripts statement by statement

A script sends one statement after the other, so that others can send theirs in between. Its runs are what its steps
come to.
-/

namespace RowMapper

variable {α : Type}

namespace Script

/-- A script is handed its plans, sends a statement, and goes on with the answer. -/
def Sends (ctx : Context) : Script α → Exchange → Script α → Prop
  | .done _, _, _ | .fault _, _, _ => False
  | .plan typeName kind next, x, rest =>
    match ctx.planFor typeName kind with
    | .ok handed => (next handed).Sends ctx x rest
    | .error _ => False
  | .exec sql args next, x, rest => ∃ answer, x = .exec sql args answer ∧ rest = next answer
  | .query sql args next, x, rest =>
    ∃ answer, x = .query sql args answer ∧
      rest = match Mapper.checkRows answer with
        | .ok rows => next rows
        | .error reason => .fault reason

variable {ctx : Context} {s : Script α} {x : Exchange} {log : List Exchange} {outcome : Except Fault α}

theorem runs_cons : s.Runs ctx (x :: log) outcome ↔ ∃ rest, s.Sends ctx x rest ∧ rest.Runs ctx log outcome := by
  induction s with
  | done result =>
    constructor
    · rintro ⟨impossible, _⟩
      cases impossible
    · rintro ⟨_, impossible, _⟩
      exact impossible.elim
  | fault reason =>
    constructor
    · rintro ⟨impossible, _⟩
      cases impossible
    · rintro ⟨_, impossible, _⟩
      exact impossible.elim
  | plan typeName kind next ih =>
    simp only [Runs, Sends]
    cases ctx.planFor typeName kind with
    | ok handed => exact ih handed
    | error reason =>
      constructor
      · rintro ⟨impossible, _⟩
        cases impossible
      · rintro ⟨_, impossible, _⟩
        exact impossible.elim
  | exec sql args next ih =>
    constructor
    · rintro ⟨answer, late, same, run⟩
      cases same
      exact ⟨_, ⟨answer, rfl, rfl⟩, run⟩
    · rintro ⟨_, ⟨answer, rfl, rfl⟩, run⟩
      exact ⟨answer, log, rfl, run⟩
  | query sql args next ih =>
    simp only [Runs, Sends]
    constructor
    · rintro ⟨answer, late, same, run⟩
      cases same
      refine ⟨_, ⟨answer, rfl, rfl⟩, ?_⟩
      rcases checked : Mapper.checkRows answer with reason | rows
      all_goals
        rw [checked] at run
        exact run
    · rintro ⟨_, ⟨answer, rfl, rfl⟩, run⟩
      refine ⟨answer, log, rfl, ?_⟩
      rcases checked : Mapper.checkRows answer with reason | rows
      all_goals
        rw [checked] at run
        exact run

/-- Every script has a run: all its statements can fail. -/
theorem exists_run (s : Script α) : ∃ log outcome, s.Runs ctx log outcome := by
  induction s with
  | done result => exact ⟨[], _, rfl, rfl⟩
  | fault reason => exact ⟨[], _, rfl, rfl⟩
  | plan typeName kind next ih =>
    unfold Runs
    cases ctx.planFor typeName kind with
    | ok handed => exact ih handed
    | error reason => exact ⟨[], _, rfl, rfl⟩
  | exec sql args next ih =>
    obtain ⟨log, outcome, run⟩ := ih (.error .transactionFinished)
    exact ⟨_, outcome, _, log, rfl, run⟩
  | query sql args next ih =>
    obtain ⟨log, outcome, run⟩ := ih (.error .transactionFinished)
    refine ⟨.query sql args (.error .transactionFinished) :: log, outcome, ?_⟩
    unfold Runs
    exact ⟨_, log, rfl, run⟩

theorem Sends.exists_run {rest : Script α} (sends : s.Sends ctx x rest) :
    ∃ log outcome, s.Runs ctx (x :: log) outcome := by
  obtain ⟨log, outcome, run⟩ := rest.exists_run
  exact ⟨log, outcome, runs_cons.mpr ⟨rest, sends, run⟩⟩

end Script

end RowMapper
