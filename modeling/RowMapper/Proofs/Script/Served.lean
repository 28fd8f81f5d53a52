import RowMapper.Proofs.Mapper
import RowMapper.Backend

/-!
# Served runs

A backend decides how a script runs: of all runs it serves one, and that is what a mapper does with the script wherever
its statements reach the backend. So a backend that serves what another one serves makes the same of every script.
-/

namespace RowMapper

namespace Backend

variable {B C : Backend} {handle? : Option B.Handle} {used? : Option C.Handle}

theorem Answers.unique {s s' s'' : B.State} {x : Exchange} (one : B.Answers handle? s x s')
    (other : B.Answers handle? s x s'') : s' = s'' := by
  cases x <;> exact congrArg Prod.snd (one.symm.trans other)

theorem Serves.unique {s s' s'' : B.State} {log : List Exchange} (one : B.Serves handle? s log s')
    (other : B.Serves handle? s log s'') : s' = s'' := by
  induction log generalizing s with
  | nil => exact one.trans other.symm
  | cons x log ih =>
    obtain ⟨mid, answered, one⟩ := one
    obtain ⟨mid', answered', other⟩ := other
    cases answered.unique answered'
    exact ih one other

theorem serves_append {s s' : B.State} {early late : List Exchange} :
    B.Serves handle? s (early ++ late) s' ↔ ∃ mid, B.Serves handle? s early mid ∧ B.Serves handle? mid late s' := by
  induction early generalizing s with
  | nil =>
    constructor
    · exact fun served => ⟨s, rfl, served⟩
    · rintro ⟨_, rfl, served⟩
      exact served
  | cons x early ih =>
    constructor
    · rintro ⟨first, answered, served⟩
      obtain ⟨mid, earlier, later⟩ := ih.mp served
      exact ⟨mid, ⟨first, answered, earlier⟩, later⟩
    · rintro ⟨mid, ⟨first, answered, earlier⟩, later⟩
      exact ⟨first, answered, ih.mpr ⟨mid, earlier, later⟩⟩

/-- Whatever is answered to statements in one place is answered to them in another. -/
def Mimics (C : Backend) (used? : Option C.Handle) (t : C.State) (B : Backend) (handle? : Option B.Handle)
    (s : B.State) : Prop :=
  ∀ log s', B.Serves handle? s log s' → ∃ t', C.Serves used? t log t'

theorem Mimics.later {s s' : B.State} {t t' : C.State} {log : List Exchange}
    (mimics : C.Mimics used? t B handle? s) (served : B.Serves handle? s log s') (mimicked : C.Serves used? t log t') :
    C.Mimics used? t' B handle? s' := by
  intro late last rest
  obtain ⟨end', whole⟩ := mimics (log ++ late) last (serves_append.mpr ⟨s', served, rest⟩)
  obtain ⟨mid, first, second⟩ := serves_append.mp whole
  cases first.unique mimicked
  exact ⟨end', second⟩

end Backend

def Exchange.call (inTransaction : Bool) : Exchange → Call
  | exec sql args _ => .execute inTransaction sql args
  | query sql args _ => .query inTransaction sql args

namespace Backend

variable {B : Backend} {handle? : Option B.Handle}

theorem answers_recorded {s s' : Recorded B.State} {x : Exchange} :
    B.recorded.Answers handle? s x s' ↔
      B.Answers handle? s.inner x s'.inner ∧ s'.calls = s.calls ++ [x.call handle?.isSome] := by
  obtain ⟨inner', calls'⟩ := s'
  cases x with
  | exec sql args answer | query sql args answer =>
    constructor
    · intro answered
      cases answered
      exact ⟨rfl, rfl⟩
    · rintro ⟨answered, rfl⟩
      exact Prod.ext (congrArg Prod.fst answered :)
        (congrArg (Recorded.mk · (s.calls ++ _)) (congrArg Prod.snd answered :))

/-- A recorded backend serves what is served underneath, and writes each statement down. -/
theorem serves_recorded {s s' : Recorded B.State} {log : List Exchange} :
    B.recorded.Serves handle? s log s' ↔
      B.Serves handle? s.inner log s'.inner ∧ s'.calls = s.calls ++ log.map (Exchange.call handle?.isSome) := by
  induction log generalizing s with
  | nil =>
    obtain ⟨inner', calls'⟩ := s'
    constructor
    · rintro rfl
      exact ⟨rfl, (List.append_nil _).symm⟩
    · rintro ⟨rfl, same⟩
      rw [List.map_nil, List.append_nil] at same
      subst same
      rfl
  | cons x log ih =>
    constructor
    · rintro ⟨mid, answered, served⟩
      obtain ⟨answered, noted⟩ := answers_recorded.mp answered
      obtain ⟨served, rest⟩ := ih.mp served
      refine ⟨⟨mid.inner, answered, served⟩, ?_⟩
      rw [rest, noted, List.append_assoc]
      rfl
    · rintro ⟨⟨inner, answered, served⟩, noted⟩
      refine ⟨⟨inner, s.calls ++ [x.call handle?.isSome]⟩, answers_recorded.mpr ⟨answered, rfl⟩, ih.mpr ⟨served, ?_⟩⟩
      rw [noted, List.append_assoc]
      rfl

theorem Mimics.recorded {B C : Backend} {handle? : Option B.Handle} {used? : Option C.Handle} {s : Recorded B.State}
    {t : Recorded C.State} (mimics : C.Mimics used? t.inner B handle? s.inner) :
    C.recorded.Mimics used? t B.recorded handle? s := by
  intro log s' served
  obtain ⟨t', mimicked⟩ := mimics log s'.inner (serves_recorded.mp served).1
  exact ⟨⟨t', t.calls ++ log.map (Exchange.call used?.isSome)⟩, serves_recorded.mpr ⟨mimicked, rfl⟩⟩

end Backend

variable {α : Type} {B : Backend}

/-- Of the runs of a script a backend serves one at most: it decides the answers. -/
theorem Script.Runs.unique_of_serves {ctx : Context} {s : Script α} {handle? : Option B.Handle}
    {start last last' : B.State} {log log' : List Exchange} {outcome outcome' : Except Fault α}
    (one : s.Runs ctx log outcome) (other : s.Runs ctx log' outcome') (served : B.Serves handle? start log last)
    (served' : B.Serves handle? start log' last') : log = log' ∧ outcome = outcome' := by
  induction s generalizing start log log' with
  | done result =>
    obtain ⟨⟨rfl, rfl⟩, ⟨rfl, rfl⟩⟩ := And.intro one other
    exact ⟨rfl, rfl⟩
  | fault reason =>
    obtain ⟨⟨rfl, rfl⟩, ⟨rfl, rfl⟩⟩ := And.intro one other
    exact ⟨rfl, rfl⟩
  | plan typeName kind next ih =>
    simp only [Runs] at one other
    cases answer : ctx.planFor typeName kind with
    | ok handed =>
      simp only [answer] at one other
      exact ih handed one other served served'
    | error reason =>
      simp only [answer] at one other
      exact ⟨one.1.trans other.1.symm, one.2.trans other.2.symm⟩
  | exec sql args next ih =>
    obtain ⟨answer, late, rfl, one⟩ := one
    obtain ⟨answer', late', rfl, other⟩ := other
    obtain ⟨mid, answered, served⟩ := served
    obtain ⟨mid', answered', served'⟩ := served'
    cases (show B.execute handle? sql args start = (answer, mid) from answered).symm.trans answered'
    obtain ⟨rfl, rfl⟩ := ih answer one other served served'
    exact ⟨rfl, rfl⟩
  | query sql args next ih =>
    simp only [Runs] at one other
    obtain ⟨answer, late, rfl, one⟩ := one
    obtain ⟨answer', late', rfl, other⟩ := other
    obtain ⟨mid, answered, served⟩ := served
    obtain ⟨mid', answered', served'⟩ := served'
    cases (show B.query handle? sql args start = (answer, mid) from answered).symm.trans answered'
    cases checked : Mapper.checkRows answer with
    | error reason =>
      simp only [checked] at one other
      exact ⟨by rw [one.1, other.1], one.2.trans other.2.symm⟩
    | ok rows =>
      simp only [checked] at one other
      obtain ⟨rfl, rfl⟩ := ih rows one other served served'
      exact ⟨rfl, rfl⟩

namespace Mapper

/-- A run that the backend serves is what a mapper does whose statements reach the backend. -/
theorem run_of_runs {m : Mapper B} {via : Executor B} {handle? : Option B.Handle} {s : Script α} {last : B.State}
    {log : List Exchange} {outcome : Except Fault α} (coherent : m.registry.Coherent m.dialect)
    (reaches : m.Reaches handle? via) (runs : s.Runs m.context log outcome)
    (served : B.Serves handle? m.connection log last) :
    (m.run via s).1 = outcome ∧ (m.run via s).2.connection = last ∧ (m.run via s).2.Reaches handle? via := by
  obtain ⟨log', runs', serving⟩ := run_runs coherent (show m.run via s = (_, _) from rfl)
  obtain ⟨served', stillReaches⟩ := serving.reached handle? reaches
  obtain ⟨rfl, same⟩ := runs'.unique_of_serves runs served' served
  exact ⟨same, served'.unique served, stillReaches⟩

end Mapper

end RowMapper
