import RowMapper.Proofs.Script.Runs

/-!
# Runs of steps

How a step on a record runs, from the runs of its parts.
-/

namespace RowMapper

variable {α β ρ : Type} {ctx : Context}

namespace Step

/-- How a step can end: by a fault, by an error or with a result. The last two leave a record. -/
inductive Ends (faults : Fault → Prop) (fails : Error → ρ → Prop) (succeeds : α → ρ → Prop) :
    Except Fault (Except Error α × ρ) → Prop where
  | fault {reason : Fault} (why : faults reason) : Ends faults fails succeeds (.error reason)
  | failed {e : Error} {v : ρ} (why : fails e v) : Ends faults fails succeeds (.ok (.error e, v))
  | done {a : α} {v : ρ} (what : succeeds a v) : Ends faults fails succeeds (.ok (.ok a, v))

theorem ofExcept_apply (x : Except Error α) (v : ρ) : (ofExcept x : Step ρ α) v = Script.done (x, v) := by
  cases x <;> rfl

theorem edit_apply (edit : Edit ρ α) (v : ρ) : (liftM edit : Step ρ α) v = Script.done (edit v) := rfl

theorem attempt_apply (script : Attempt α) (v : ρ) :
    (liftM script : Step ρ α) v = Script.bind script fun answer => .done (answer, v) := rfl

theorem bind_apply (x : Step ρ α) (f : α → Step ρ β) (v : ρ) :
    (x >>= f) v = Script.bind (x v) fun
      | (.ok a, v) => f a v
      | (.error e, v) => .done (.error e, v) := by
  show Script.bind (x v) _ = _
  congr 1
  funext ⟨answer, _⟩
  cases answer <;> rfl

variable {x : Step ρ α} {f : α → Step ρ β} {v mid : ρ} {log early late : List Exchange}

/-- A step ends with the fault or the error of its first part, or goes on with the record that this part left. -/
theorem runs_bind {outcome : Except Fault (Except Error β × ρ)} :
    Script.Runs ctx ((x >>= f) v) log outcome ↔
      (∃ reason, Script.Runs ctx (x v) log (.error reason) ∧ outcome = .error reason) ∨
      (∃ e mid, Script.Runs ctx (x v) log (.ok (.error e, mid)) ∧ outcome = .ok (.error e, mid)) ∨
      ∃ a mid early late, Script.Runs ctx (x v) early (.ok (.ok a, mid)) ∧
        Script.Runs ctx (f a mid) late outcome ∧ log = early ++ late := by
  rw [bind_apply, Script.runs_bind]
  constructor
  · rintro (faulted | ⟨⟨_ | a, mid⟩, early, late, first, second, rfl⟩)
    · exact .inl faulted
    · obtain ⟨rfl, rfl⟩ := second
      exact .inr (.inl ⟨_, mid, by simpa only [List.append_nil] using first, rfl⟩)
    · exact .inr (.inr ⟨a, mid, early, late, first, second, rfl⟩)
  · rintro (faulted | ⟨e, mid, first, rfl⟩ | ⟨a, mid, early, late, first, second, rfl⟩)
    · exact .inl faulted
    · exact .inr ⟨_, log, [], first, ⟨rfl, rfl⟩, (List.append_nil _).symm⟩
    · exact .inr ⟨_, early, late, first, second, rfl⟩

theorem runs_bind_of_ok {a : α} {outcome : Except Fault (Except Error β × ρ)}
    (first : Script.Runs ctx (x v) early (.ok (.ok a, mid))) :
    Script.Runs ctx ((x >>= f) v) (early ++ late) outcome ↔ Script.Runs ctx (f a mid) late outcome := by
  rw [bind_apply, Script.runs_bind_of_runs first]

theorem bind_of_done {a : α} (first : x v = .done (.ok a, mid)) : (x >>= f) v = f a mid := by
  rw [bind_apply, first]
  rfl

theorem bind_of_failed {e : Error} (first : x v = .done (.error e, mid)) :
    (x >>= f) v = .done (.error e, mid) := by
  rw [bind_apply, first]
  rfl

theorem bind_of_fault {reason : Fault} (first : x v = .fault reason) : (x >>= f) v = .fault reason := by
  rw [bind_apply, first]
  rfl

theorem runs_attempt {script : Attempt α} {outcome : Except Fault (Except Error α × ρ)} :
    Script.Runs ctx ((liftM script : Step ρ α) v) log outcome ↔
      ∃ answer, Script.Runs ctx script log answer ∧ outcome = answer.map fun a => (a, v) := by
  rw [attempt_apply, Script.runs_bind]
  constructor
  · rintro (⟨reason, faulted, rfl⟩ | ⟨a, early, late, first, ⟨rfl, rfl⟩, rfl⟩)
    · exact ⟨_, faulted, rfl⟩
    · exact ⟨.ok a, by simpa only [List.append_nil] using first, rfl⟩
  · rintro ⟨reason | a, first, rfl⟩
    · exact .inl ⟨reason, first, rfl⟩
    · exact .inr ⟨a, log, [], first, ⟨rfl, rfl⟩, (List.append_nil _).symm⟩

theorem runs_exec {sql : String} {args : List Value} {f : ExecResult → Step ρ β}
    {outcome : Except Fault (Except Error β × ρ)} :
    Script.Runs ctx ((liftM (Attempt.exec sql args) >>= f) v) log outcome ↔
      ∃ answer late, log = .exec sql args answer :: late ∧
        match answer with
        | .ok result => Script.Runs ctx (f result v) late outcome
        | .error e => late = [] ∧ outcome = .ok (.error e, v) := by
  rw [bind_apply, attempt_apply, Script.bind_assoc]
  refine exists_congr fun answer => exists_congr fun late => and_congr_right fun _ => ?_
  cases answer <;> exact Iff.rfl

end Step

namespace Attempt

theorem bind_apply (x : Attempt α) (f : α → Attempt β) :
    (x >>= f) = Script.bind x fun
      | .ok a => f a
      | .error e => .done (.error e) := by
  show Script.bind x _ = _
  congr 1
  funext answer
  cases answer <;> rfl

variable {sql : String} {args : List Value} {log : List Exchange} {outcome : Except Fault (Except Error α)}

theorem runs_exec {f : ExecResult → Attempt α} :
    Script.Runs ctx (exec sql args >>= f : Attempt α) log outcome ↔
      ∃ answer late, log = .exec sql args answer :: late ∧
        match answer with
        | .ok result => Script.Runs ctx (f result) late outcome
        | .error e => late = [] ∧ outcome = .ok (.error e) := by
  rw [bind_apply]
  refine exists_congr fun answer => exists_congr fun late => and_congr_right fun _ => ?_
  cases answer <;> exact Iff.rfl

theorem runs_queryRow {f : Option Row → Attempt α} :
    Script.Runs ctx (queryRow sql args >>= f : Attempt α) log outcome ↔
      ∃ answer late, log = .query sql args answer :: late ∧
        match Mapper.checkRows answer with
        | .ok (.ok rows) => Script.Runs ctx (f rows.head?) late outcome
        | .ok (.error e) => late = [] ∧ outcome = .ok (.error e)
        | .error reason => late = [] ∧ outcome = .error reason := by
  have asked : (queryRow sql args >>= f : Attempt α) = (query sql args >>= fun rows => f rows.head? : Attempt α) := by
    unfold queryRow
    simp only [bind_assoc, pure_bind]
  rw [asked, bind_apply]
  simp only [query, Script.bind, Script.Runs]
  refine exists_congr fun answer => exists_congr fun late => and_congr_right fun _ => ?_
  rcases Mapper.checkRows answer with reason | e | rows <;> exact Iff.rfl

end Attempt

end RowMapper
