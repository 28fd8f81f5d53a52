import RowMapper.Proofs.History

/-!
# Dialogues

The dialogue of a script is what a mapper that runs it sends, statement by statement, with the answers that the script
gets. Scripts that run one after the other have their dialogues one after the other.
-/

namespace RowMapper

namespace Mapper

variable {B : Backend} {α β : Type} {via : Executor B} {m : Mapper B}

def dialogue (via : Executor B) : Script α → Mapper B → List Exchange
  | .done _, _ => []
  | .fault _, _ => []
  | .plan typeName kind next, m =>
    match m.registry.plan m.dialect typeName kind with
    | .ok (plan, registry) => dialogue via (next plan) { m with registry }
    | .error _ => []
  | .exec sql args next, m =>
    let (answer, m) := m.execute via sql args
    .exec sql args answer :: dialogue via (next answer) m
  | .query sql args next, m =>
    let (answer, m) := m.query via sql args
    .query sql args answer ::
      match checkRows answer with
      | .ok rows => dialogue via (next rows) m
      | .error _ => []

theorem run_plan_ok {typeName : String} {kind : PlanKind} {next : Plan → Script α} {plan : Plan} {registry : Registry}
    (handed : m.registry.plan m.dialect typeName kind = .ok (plan, registry)) :
    m.run via (.plan typeName kind next) = (m.withRegistry registry).run via (next plan) ∧
      m.dialogue via (.plan typeName kind next) = (m.withRegistry registry).dialogue via (next plan) := by
  simp only [run, dialogue, handed]
  exact ⟨rfl, rfl⟩

theorem run_plan_error {typeName : String} {kind : PlanKind} {next : Plan → Script α} {reason : Fault}
    (refused : m.registry.plan m.dialect typeName kind = .error reason) :
    m.run via (.plan typeName kind next) = (.error reason, m) ∧ m.dialogue via (.plan typeName kind next) = [] := by
  simp only [run, dialogue, refused, and_self]

theorem dialogue_exec {sql : String} {args : List Value} {next : Except Error ExecResult → Script α} :
    m.dialogue via (.exec sql args next) =
      .exec sql args (m.send via sql args B.execute).1 ::
        (m.send via sql args B.execute).2.dialogue via (next (m.send via sql args B.execute).1) :=
  rfl

theorem dialogue_query_ok {sql : String} {args : List Value} {next : Except Error (List Row) → Script α}
    {rows : Except Error (List Row)} (checked : checkRows (m.send via sql args B.query).1 = .ok rows) :
    m.dialogue via (.query sql args next) =
      .query sql args (m.send via sql args B.query).1 :: (m.send via sql args B.query).2.dialogue via (next rows) := by
  simp only [dialogue, query, checked]

theorem dialogue_query_error {sql : String} {args : List Value} {next : Except Error (List Row) → Script α}
    {reason : Fault} (checked : checkRows (m.send via sql args B.query).1 = .error reason) :
    m.dialogue via (.query sql args next) = [.query sql args (m.send via sql args B.query).1] := by
  simp only [dialogue, query, checked]

/-- A script goes on from the mapper that the one before it left, with the result of that one. -/
theorem run_bind (s : Script α) (f : α → Script β) :
    m.run via (s.bind f) = (match m.run via s with
      | (.ok a, mid) => mid.run via (f a)
      | (.error reason, mid) => (.error reason, mid)) := by
  induction s generalizing m with
  | done result | fault reason => rfl
  | plan typeName kind next ih =>
    rw [Script.bind]
    rcases answer : m.registry.plan m.dialect typeName kind with reason | ⟨plan, registry⟩
    · rw [(run_plan_error answer).1, (run_plan_error answer).1]
    · rw [(run_plan_ok answer).1, (run_plan_ok answer).1]
      exact ih plan
  | exec sql args next ih =>
    rw [Script.bind, run_exec, run_exec]
    exact ih _
  | query sql args next ih =>
    rw [Script.bind]
    rcases checked : checkRows (m.send via sql args B.query).1 with reason | rows
    · rw [run_query_error checked, run_query_error checked]
    · rw [run_query_ok checked, run_query_ok checked]
      exact ih rows

theorem dialogue_bind (s : Script α) (f : α → Script β) :
    m.dialogue via (s.bind f) = m.dialogue via s ++ (match m.run via s with
      | (.ok a, mid) => mid.dialogue via (f a)
      | (.error _, _) => []) := by
  induction s generalizing m with
  | done result | fault reason => rfl
  | plan typeName kind next ih =>
    rw [Script.bind]
    rcases answer : m.registry.plan m.dialect typeName kind with reason | ⟨plan, registry⟩
    · rw [(run_plan_error answer).1, (run_plan_error answer).2, (run_plan_error answer).2]
      rfl
    · rw [(run_plan_ok answer).1, (run_plan_ok answer).2, (run_plan_ok answer).2]
      exact ih plan
  | exec sql args next ih =>
    rw [Script.bind, run_exec, dialogue_exec, dialogue_exec, List.cons_append, ih]
  | query sql args next ih =>
    rw [Script.bind]
    rcases checked : checkRows (m.send via sql args B.query).1 with reason | rows
    · rw [run_query_error checked, dialogue_query_error checked, dialogue_query_error checked]
      rfl
    · rw [run_query_ok checked, dialogue_query_ok checked, dialogue_query_ok checked, List.cons_append, ih]

/-- A mapper sends a log for a script, and the script and the mapper end so. -/
def Plays (m : Mapper B) (via : Executor B) (s : Script α) (log : List Exchange) (outcome : Except Fault α)
    (left : Mapper B) : Prop :=
  m.dialogue via s = log ∧ m.run via s = (outcome, left)

theorem plays_bind {s : Script α} {f : α → Script β} {log : List Exchange} {outcome : Except Fault β}
    {left : Mapper B} :
    m.Plays via (s.bind f) log outcome left ↔
      (∃ reason, m.Plays via s log (.error reason) left ∧ outcome = .error reason) ∨
      ∃ a early late mid, m.Plays via s early (.ok a) mid ∧ mid.Plays via (f a) late outcome left ∧
        log = early ++ late := by
  unfold Plays
  rw [run_bind, dialogue_bind]
  rcases ran : m.run via s with ⟨reason | a, mid⟩
  · rw [List.append_nil]
    constructor
    · rintro ⟨sent, ended⟩
      cases ended
      exact .inl ⟨reason, ⟨sent, rfl⟩, rfl⟩
    · rintro (⟨_, ⟨sent, ended⟩, rfl⟩ | ⟨_, _, _, _, ⟨_, ended⟩, _⟩)
      · cases ended
        exact ⟨sent, rfl⟩
      · cases ended
  · constructor
    · rintro ⟨sent, ended⟩
      exact .inr ⟨a, _, _, mid, ⟨rfl, rfl⟩, ⟨rfl, ended⟩, sent.symm⟩
    · rintro (⟨_, ⟨_, ended⟩, _⟩ | ⟨_, _, _, _, ⟨rfl, ended⟩, ⟨rfl, after⟩, sent⟩)
      · cases ended
      · cases ended
        exact ⟨sent.symm, after⟩

theorem Plays.bind {s : Script α} {f : α → Script β} {a : α} {early late : List Exchange} {mid left : Mapper B}
    {outcome : Except Fault β} (first : m.Plays via s early (.ok a) mid)
    (second : mid.Plays via (f a) late outcome left) : m.Plays via (s.bind f) (early ++ late) outcome left :=
  plays_bind.mpr (.inr ⟨a, early, late, mid, first, second, rfl⟩)

theorem Plays.bind_fault {s : Script α} {f : α → Script β} {log : List Exchange} {reason : Fault} {left : Mapper B}
    (faulted : m.Plays via s log (.error reason) left) : m.Plays via (s.bind f) log (.error reason) left :=
  plays_bind.mpr (.inl ⟨reason, faulted, rfl⟩)

theorem plays_done {a : α} {log : List Exchange} {outcome : Except Fault α} {left : Mapper B} :
    m.Plays via (.done a) log outcome left ↔ log = [] ∧ outcome = .ok a ∧ left = m := by
  constructor
  · rintro ⟨sent, ended⟩
    cases ended
    exact ⟨sent.symm, rfl, rfl⟩
  · rintro ⟨rfl, rfl, rfl⟩
    exact ⟨rfl, rfl⟩

/-- A relation between a mapper, what it sends and what that makes of it, which goes from one statement to the next. -/
structure Accounts (via : Executor B) (P : Mapper B → List Exchange → Mapper B → Prop) : Prop where
  empty : ∀ m, P m [] m
  registry : ∀ {m : Mapper B} {registry log after}, P (m.withRegistry registry) log after → P m log after
  exec : ∀ {m : Mapper B} {sql args log after}, P (m.send via sql args B.execute).2 log after →
    P m (.exec sql args (m.send via sql args B.execute).1 :: log) after
  query : ∀ {m : Mapper B} {sql args log after}, P (m.send via sql args B.query).2 log after →
    P m (.query sql args (m.send via sql args B.query).1 :: log) after

theorem Accounts.run {P : Mapper B → List Exchange → Mapper B → Prop} (accounts : Accounts via P) (s : Script α)
    (m : Mapper B) : P m (m.dialogue via s) (m.run via s).2 := by
  induction s generalizing m with
  | done result | fault reason => exact accounts.empty m
  | plan typeName kind next ih =>
    rcases answer : m.registry.plan m.dialect typeName kind with reason | ⟨plan, registry⟩
    · rw [(run_plan_error answer).1, (run_plan_error answer).2]
      exact accounts.empty m
    · rw [(run_plan_ok answer).1, (run_plan_ok answer).2]
      exact accounts.registry (ih plan _)
  | exec sql args next ih =>
    rw [run_exec, dialogue_exec]
    exact accounts.exec (ih _ _)
  | query sql args next ih =>
    rcases checked : checkRows (m.send via sql args B.query).1 with reason | rows
    · rw [run_query_error checked, dialogue_query_error checked]
      exact accounts.query (accounts.empty _)
    · rw [run_query_ok checked, dialogue_query_ok checked]
      exact accounts.query (ih rows _)

theorem run_context (coherent : m.registry.Coherent m.dialect) (s : Script α) :
    (m.run via s).2.context = m.context :=
  (runsAsPlanned coherent s).context

/-- What a mapper does with a script is the run of the script that has the dialogue for its log. -/
theorem runs_dialogue (coherent : m.registry.Coherent m.dialect) (s : Script α) :
    s.Runs m.context (m.dialogue via s) (m.run via s).1 := by
  induction s generalizing m with
  | done result | fault reason => exact ⟨rfl, rfl⟩
  | plan typeName kind next ih =>
    simp only [Script.Runs, Context.planFor, m.context_table?]
    cases found : m.registry.find? typeName with
    | none =>
      have refused : m.registry.plan m.dialect typeName kind = .error (.unregistered typeName) := by
        unfold Registry.plan Registry.find
        rw [found]
        rfl
      rw [(run_plan_error refused).1, (run_plan_error refused).2]
      exact ⟨rfl, rfl⟩
    | some entry =>
      obtain ⟨registry, handed, sameTables, stillCoherent⟩ := coherent.plan_ok kind found
      have sameContext : (m.withRegistry registry).context = m.context := by
        unfold context withRegistry
        rw [sameTables]
      have rest := ih (.build entry.table m.dialect kind) (m := m.withRegistry registry) stillCoherent
      rw [sameContext] at rest
      rw [(run_plan_ok handed).1, (run_plan_ok handed).2]
      exact rest
  | exec sql args next ih =>
    have rest := ih (m.send via sql args B.execute).1 (send_coherent coherent via sql args B.execute).1
    rw [(m.send_context via sql args B.execute).1] at rest
    exact ⟨_, _, rfl, rest⟩
  | query sql args next ih =>
    rw [Script.runs_query]
    rcases checked : checkRows (m.send via sql args B.query).1 with reason | rows
    · rw [run_query_error checked, dialogue_query_error checked]
      exact ⟨_, _, rfl, by simp only [checked, and_self]⟩
    · have rest := ih rows (send_coherent coherent via sql args B.query).1
      rw [(m.send_context via sql args B.query).1] at rest
      rw [run_query_ok checked, dialogue_query_ok checked]
      exact ⟨_, _, rfl, by simpa only [checked] using rest⟩

theorem Plays.runs {s : Script α} {log : List Exchange} {outcome : Except Fault α} {left : Mapper B}
    (played : m.Plays via s log outcome left) (coherent : m.registry.Coherent m.dialect) :
    s.Runs m.context log outcome ∧ left.context = m.context := by
  obtain ⟨rfl, ended⟩ := played
  have runs : s.Runs m.context (m.dialogue via s) (m.run via s).1 := runs_dialogue coherent s
  have context : (m.run via s).2.context = m.context := run_context coherent s
  rw [ended] at runs context
  exact ⟨runs, context⟩

end Mapper

end RowMapper
