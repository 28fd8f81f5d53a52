import RowMapper.Mapper

/-!
# Runs of scripts

A run of a script is the list of statements that it sent, each with the answer it got, and how it ended. Answers are
arbitrary: whatever a mapper does with a script, on any backend and in or outside a transaction, is one of its runs.
-/

namespace RowMapper

variable {α β ρ : Type}

inductive Exchange where
  | exec (sql : String) (args : List Value) (answer : Except Error ExecResult)
  | query (sql : String) (args : List Value) (answer : Except Error (List Row))

namespace Exchange

def sql : Exchange → String
  | exec sql _ _ | query sql _ _ => sql

def args : Exchange → List Value
  | exec _ args _ | query _ args _ => args

def refusal? : Exchange → Option Error
  | exec _ _ (.error e) | query _ _ (.error e) => some e
  | _ => none

def touched : Exchange → Nat
  | exec _ _ (.ok result) => result.rowsAffected
  | _ => 0

end Exchange

/-- The answer that a backend gives to a statement, in a transaction if one is given. -/
def Backend.Answers (B : Backend) (handle? : Option B.Handle) (before : B.State) : Exchange → B.State → Prop
  | .exec sql args answer, after => B.execute handle? sql args before = (answer, after)
  | .query sql args answer, after => B.query handle? sql args before = (answer, after)

def Backend.Serves (B : Backend) (handle? : Option B.Handle) : B.State → List Exchange → B.State → Prop
  | before, [], after => after = before
  | before, x :: rest, after => ∃ mid, B.Answers handle? before x mid ∧ B.Serves handle? mid rest after

theorem Mapper.checkRows_ok {rows : List Row} {answer : Except Error (List Row)}
    (checked : Mapper.checkRows (.ok rows) = .ok answer) : answer = .ok rows := by
  unfold Mapper.checkRows at checked
  dsimp only at checked
  split at checked
  · cases checked
  · cases checked
    rfl

theorem Mapper.checkRows_aligned {rows : List Row} (aligned : ∀ row ∈ rows, row.isAligned = true) :
    Mapper.checkRows (.ok rows) = .ok (.ok rows) := by
  have none : rows.find? (fun row => !row.isAligned) = none := by
    apply List.find?_eq_none.mpr
    intro row member
    simp [aligned row member]
  simp only [Mapper.checkRows, none]

theorem Mapper.checkRows_misaligned {row : Row} {rest : List Row} (misaligned : row.isAligned = false) :
    Mapper.checkRows (.ok (row :: rest)) = .error (.misalignedRow row.columns.length row.values.length) := by
  have first : (row :: rest).find? (fun row => !row.isAligned) = some row :=
    List.find?_cons_of_pos (by simp [misaligned])
  simp only [Mapper.checkRows, first]

def Context.planFor (ctx : Context) (typeName : String) (kind : PlanKind) : Except Fault Plan :=
  match ctx.table? typeName with
  | some t => .ok (.build t ctx.dialect kind)
  | none => .error (.unregistered typeName)

/-- A script sends the statements of a log, gets their answers and ends. -/
def Script.Runs (ctx : Context) : Script α → List Exchange → Except Fault α → Prop
  | .done result, log, outcome => log = [] ∧ outcome = .ok result
  | .fault reason, log, outcome => log = [] ∧ outcome = .error reason
  | .plan typeName kind next, log, outcome =>
    match ctx.planFor typeName kind with
    | .ok handed => (next handed).Runs ctx log outcome
    | .error reason => log = [] ∧ outcome = .error reason
  | .exec sql args next, log, outcome =>
    ∃ answer late, log = .exec sql args answer :: late ∧ (next answer).Runs ctx late outcome
  | .query sql args next, log, outcome =>
    ∃ answer late, log = .query sql args answer :: late ∧
      match Mapper.checkRows answer with
      | .ok answer => (next answer).Runs ctx late outcome
      | .error reason => late = [] ∧ outcome = .error reason

namespace Script

variable {ctx : Context} {s : Script α} {f : α → Script β} {log early late : List Exchange}

theorem runs_query {sql : String} {args : List Value} {next : Except Error (List Row) → Script α}
    {outcome : Except Fault α} :
    (query sql args next).Runs ctx log outcome ↔
      ∃ answer late, log = .query sql args answer :: late ∧
        match Mapper.checkRows answer with
        | .ok answer => (next answer).Runs ctx late outcome
        | .error reason => late = [] ∧ outcome = .error reason := by
  simp only [Runs]

theorem exists_query_cons {sql : String} {args : List Value} {answer : Except Error (List Row)}
    {goesOn : Except Error (List Row) → List Exchange → Prop} :
    (∃ answer' late', Exchange.query sql args answer :: late = .query sql args answer' :: late' ∧
      goesOn answer' late') ↔ goesOn answer late := by
  constructor
  · rintro ⟨_, _, same, rest⟩
    cases same
    exact rest
  · intro rest
    exact ⟨answer, late, rfl, rest⟩

/-- What runs before a continuation either ends in a fault or hands its result on. -/
theorem runs_bind {outcome : Except Fault β} :
    (s.bind f).Runs ctx log outcome ↔
      (∃ reason, s.Runs ctx log (.error reason) ∧ outcome = .error reason) ∨
      ∃ a early late, s.Runs ctx early (.ok a) ∧ (f a).Runs ctx late outcome ∧ log = early ++ late := by
  induction s generalizing log with
  | done result =>
    constructor
    · exact fun run => .inr ⟨result, [], log, ⟨rfl, rfl⟩, run, rfl⟩
    · rintro (⟨_, ⟨_, ended⟩, _⟩ | ⟨_, _, late, ⟨rfl, ended⟩, run, rfl⟩)
      · cases ended
      · cases ended
        exact run
  | fault reason =>
    constructor
    · rintro ⟨rfl, rfl⟩
      exact .inl ⟨reason, ⟨rfl, rfl⟩, rfl⟩
    · rintro (⟨_, ⟨rfl, ended⟩, rfl⟩ | ⟨_, _, _, ⟨_, ended⟩, _⟩)
      · cases ended
        exact ⟨rfl, rfl⟩
      · cases ended
  | plan typeName kind next ih =>
    simp only [bind, Runs]
    cases ctx.planFor typeName kind with
    | ok handed => exact ih handed
    | error reason =>
      constructor
      · rintro ⟨rfl, rfl⟩
        exact .inl ⟨reason, ⟨rfl, rfl⟩, rfl⟩
      · rintro (⟨_, ⟨rfl, ended⟩, rfl⟩ | ⟨_, _, _, ⟨_, ended⟩, _⟩)
        · cases ended
          exact ⟨rfl, rfl⟩
        · cases ended
  | exec sql args next ih =>
    simp only [bind, Runs, ih]
    constructor
    · rintro ⟨answer, late, rfl, ⟨reason, faulted, rfl⟩ | ⟨a, early, late, first, second, rfl⟩⟩
      · exact .inl ⟨reason, ⟨answer, late, rfl, faulted⟩, rfl⟩
      · exact .inr ⟨a, _, late, ⟨answer, early, rfl, first⟩, second, rfl⟩
    · rintro (⟨reason, ⟨answer, late, rfl, faulted⟩, rfl⟩ | ⟨a, _, late, ⟨answer, early, rfl, first⟩, second, rfl⟩)
      · exact ⟨answer, late, rfl, .inl ⟨reason, faulted, rfl⟩⟩
      · exact ⟨answer, _, rfl, .inr ⟨a, early, late, first, second, rfl⟩⟩
  | query sql args next ih =>
    simp only [bind, Runs]
    constructor
    · rintro ⟨answer, late, rfl, rest⟩
      cases checked : Mapper.checkRows answer with
      | error reason =>
        obtain ⟨rfl, rfl⟩ : late = [] ∧ outcome = .error reason := by simpa only [checked] using rest
        exact .inl ⟨reason, ⟨answer, [], rfl, by simp only [checked, and_self]⟩, rfl⟩
      | ok rows =>
        simp only [checked] at rest
        obtain ⟨reason, faulted, rfl⟩ | ⟨a, early, late, first, second, rfl⟩ := (ih rows).mp rest
        · exact .inl ⟨reason, ⟨answer, late, rfl, by simpa only [checked] using faulted⟩, rfl⟩
        · exact .inr ⟨a, _, late, ⟨answer, early, rfl, by simpa only [checked] using first⟩, second, rfl⟩
    · rintro (⟨reason, ⟨answer, late, rfl, rest⟩, rfl⟩ | ⟨a, _, late, ⟨answer, early, rfl, rest⟩, second, rfl⟩)
      · refine ⟨answer, late, rfl, ?_⟩
        cases checked : Mapper.checkRows answer with
        | error _ => simpa [checked] using rest
        | ok rows =>
          simp only [checked] at rest
          exact (ih rows).mpr (.inl ⟨reason, rest, rfl⟩)
      · refine ⟨answer, _, rfl, ?_⟩
        cases checked : Mapper.checkRows answer with
        | error _ => simp [checked] at rest
        | ok rows =>
          simp only [checked] at rest
          exact (ih rows).mpr (.inr ⟨a, early, late, rest, second, rfl⟩)

/-- Answers decide a run: no run goes on where another one has ended. -/
theorem Runs.unique {early' late' : List Exchange} {outcome outcome' : Except Fault α}
    (one : s.Runs ctx early outcome) (other : s.Runs ctx early' outcome')
    (same : early ++ late = early' ++ late') : early = early' ∧ outcome = outcome' := by
  -- Each statement of the two runs is the same one, and the logs agree on its answer.
  induction s generalizing early early' with
  | done result =>
    obtain ⟨⟨rfl, rfl⟩, ⟨rfl, rfl⟩⟩ := And.intro one other
    exact ⟨rfl, rfl⟩
  | fault reason =>
    obtain ⟨⟨rfl, rfl⟩, ⟨rfl, rfl⟩⟩ := And.intro one other
    exact ⟨rfl, rfl⟩
  | plan typeName kind next ih =>
    simp only [Runs] at one other
    cases answer : ctx.planFor typeName kind with
    | ok handed =>
      simp only [answer] at one other
      exact ih handed one other same
    | error reason =>
      simp only [answer] at one other
      exact ⟨one.1.trans other.1.symm, one.2.trans other.2.symm⟩
  | exec sql args next ih =>
    obtain ⟨answer, rest, rfl, one⟩ := one
    obtain ⟨answer', rest', rfl, other⟩ := other
    injection same with head tail
    injection head with _ _ answers
    subst answers
    obtain ⟨rfl, rfl⟩ := ih answer one other tail
    exact ⟨rfl, rfl⟩
  | query sql args next ih =>
    simp only [Runs] at one other
    obtain ⟨answer, rest, rfl, one⟩ := one
    obtain ⟨answer', rest', rfl, other⟩ := other
    injection same with head tail
    injection head with _ _ answers
    subst answers
    cases checked : Mapper.checkRows answer with
    | error reason =>
      simp only [checked] at one other
      exact ⟨by rw [one.1, other.1], one.2.trans other.2.symm⟩
    | ok rows =>
      simp only [checked] at one other
      obtain ⟨rfl, rfl⟩ := ih rows one other tail
      exact ⟨rfl, rfl⟩

theorem runs_bind_of_runs {a : α} {outcome : Except Fault β} (first : s.Runs ctx early (.ok a)) :
    (s.bind f).Runs ctx (early ++ late) outcome ↔ (f a).Runs ctx late outcome := by
  constructor
  · intro run
    obtain ⟨reason, faulted, _⟩ | ⟨a', early', late', first', second, same⟩ := runs_bind.mp run
    · obtain ⟨_, ended⟩ := first.unique faulted (List.append_nil _).symm
      cases ended
    · obtain ⟨rfl, ended⟩ := first.unique first' same
      cases ended
      rw [List.append_cancel_left same]
      exact second
  · intro second
    exact runs_bind.mpr (.inr ⟨a, early, late, first, second, rfl⟩)

/-- A script whose result is only changed runs as the script itself. -/
theorem runs_change {change : α → β} {outcome : Except Fault β} :
    (s.bind fun a => .done (change a)).Runs ctx log outcome ↔
      ∃ ended, s.Runs ctx log ended ∧ outcome = ended.map change := by
  rw [runs_bind]
  constructor
  · rintro (⟨reason, run, rfl⟩ | ⟨a, early, _, run, ⟨rfl, rfl⟩, rfl⟩)
    · exact ⟨_, run, rfl⟩
    · rw [List.append_nil]
      exact ⟨_, run, rfl⟩
  · rintro ⟨reason | a, run, rfl⟩
    · exact .inl ⟨reason, run, rfl⟩
    · exact .inr ⟨a, log, [], run, ⟨rfl, rfl⟩, (List.append_nil log).symm⟩

end Script

end RowMapper
