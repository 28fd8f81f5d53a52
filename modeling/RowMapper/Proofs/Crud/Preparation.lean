import RowMapper.Crud.Write
import RowMapper.Proofs.Plan
import RowMapper.Proofs.Record.Binding
import RowMapper.Proofs.Table.Mapping

/-!
# Preparing writes

Before its statement is sent, a write finds its table, runs its hook and binds its plan. Only the hook sends anything.
-/

namespace RowMapper

def Bound.IsSentBy (bound : Bound) (x : Exchange) : Prop := x.sql = bound.sql ∧ x.args = bound.args

namespace RecordType

variable {R : RecordType} {ctx : Context} {w : Write} {t : Table} {before mid after : R.Values} {log : List Exchange}

/-- A write with its hook run and its plan bound. The hook made `mid` of the record, and binding made `after` of that. -/
structure Prepared (R : RecordType) (ctx : Context) (w : Write) (before : R.Values) (t : Table) (early : List Exchange)
    (mid : R.Values) (bound : Bound) (after : R.Values) : Prop where
  announced : Script.Runs ctx (R.announce ctx w before) early (.ok (.ok t, mid))
  composed : Script.Runs ctx (R.compose ctx t w mid) [] (.ok (.ok (w.plan t ctx.dialect, bound), after))

theorem tableOfRecord_of_registered (registered : ctx.table? R.typeName = some t) :
    R.tableOfRecord ctx = Script.done (.ok t) := by
  unfold tableOfRecord
  rw [registered]
  rfl

theorem announce_of_registered (registered : ctx.table? R.typeName = some t) :
    R.announce ctx w before =
      (do
        if w.picksRow then ofExcept t.requireKeys
        R.hooks w.preHook ctx
        return t : Step R.Values Table) before := by
  have found : (liftM (R.tableOfRecord ctx) : Step R.Values Table) before = .done (.ok t, before) := by
    rw [tableOfRecord_of_registered registered]
    rfl
  exact Step.bind_of_done found

theorem announce_eq_hook (registered : ctx.table? R.typeName = some t) (keyed : w.picksRow = true → t.keys ≠ []) :
    R.announce ctx w before = (R.hooks w.preHook ctx >>= fun _ => (return t : Step R.Values Table)) before := by
  rw [announce_of_registered registered]
  cases picks : w.picksRow with
  | false => rfl
  | true =>
    have allowed : (ofExcept t.requireKeys : Step R.Values Unit) before = .done (.ok (), before) := by
      rw [Step.ofExcept_apply, Table.requireKeys, if_neg]
      simpa using keyed picks
    exact Step.bind_of_done allowed

theorem announce_without_keys (registered : ctx.table? R.typeName = some t) (picks : w.picksRow = true)
    (keyless : t.keys = []) : R.announce ctx w before = .done (.error (.noKeys t.name), before) := by
  rw [announce_of_registered registered, picks]
  have refused : (ofExcept t.requireKeys : Step R.Values Unit) before = .done (.error (.noKeys t.name), before) := by
    rw [Step.ofExcept_apply, Table.requireKeys, keyless]
    rfl
  exact Step.bind_of_failed refused

theorem announce_of_no_hook (registered : ctx.table? R.typeName = some t) (keyed : w.picksRow = true → t.keys ≠ [])
    (plain : R.hooks w.preHook ctx = pure ()) : R.announce ctx w before = .done (.ok t, before) := by
  rw [announce_eq_hook registered keyed, plain]
  rfl

theorem announce_run (run : Script.Runs ctx (R.announce ctx w before) log (.ok (.ok t, mid))) :
    ctx.table? R.typeName = some t ∧ (w.picksRow = true → t.keys ≠ []) ∧
      Script.Runs ctx (R.hooks w.preHook ctx before) log (.ok (.ok (), mid)) := by
  cases registered : ctx.table? R.typeName with
  | none =>
    have missing : (liftM (R.tableOfRecord ctx) : Step R.Values Table) before = .fault (.unregistered R.recordName) := by
      unfold tableOfRecord
      rw [registered]
      rfl
    unfold announce at run
    rw [Step.bind_of_fault missing] at run
    cases run.2
  | some found =>
    by_cases keyed : w.picksRow = true → found.keys ≠ []
    · rw [announce_eq_hook registered keyed] at run
      rcases Step.runs_bind.mp run with ⟨_, _, ended⟩ | ⟨_, _, _, ended⟩ | ⟨_, _, early, late, hook, ⟨rfl, ended⟩, rfl⟩
      · cases ended
      · cases ended
      · cases ended
        rw [List.append_nil]
        exact ⟨rfl, keyed, hook⟩
    · obtain ⟨picks, keyless⟩ := Classical.not_imp.mp keyed
      rw [announce_without_keys registered picks (Classical.not_not.mp keyless)] at run
      cases run.2

theorem writePlan_of_registered (registered : ctx.table? R.typeName = some t)
    {outcome : Except Fault (Except Error Plan)} :
    Script.Runs ctx (R.writePlan ctx t w) log outcome ↔ log = [] ∧ outcome = .ok (.ok (w.plan t ctx.dialect)) := by
  have planned (kind : PlanKind) : ctx.planFor R.typeName kind = .ok (.build t ctx.dialect kind) := by
    unfold Context.planFor
    rw [registered]
  cases w with
  | insert | delete => simp only [writePlan, Attempt.plan, Script.Runs, planned]; rfl
  | update accepts =>
    cases accepts with
    | none => simp only [writePlan, Attempt.plan, Script.Runs, planned]; rfl
    | some accepts => exact Iff.rfl

theorem compose_runs (registered : ctx.table? R.typeName = some t)
    {outcome : Except Fault (Except Error (Plan × Bound) × R.Values)} :
    Script.Runs ctx (R.compose ctx t w before) log outcome ↔
      Script.Runs ctx ((R.bind ctx.converter t (w.plan t ctx.dialect) >>= fun bound =>
        (return (w.plan t ctx.dialect, bound) : Step R.Values (Plan × Bound))) before) log outcome := by
  have planned : Script.Runs ctx ((liftM (R.writePlan ctx t w) : Step R.Values Plan) before) []
      (.ok (.ok (w.plan t ctx.dialect), before)) :=
    Step.runs_attempt.mpr ⟨_, (writePlan_of_registered registered).mpr ⟨rfl, rfl⟩, rfl⟩
  exact Step.runs_bind_of_ok planned

theorem compose_run (registered : ctx.table? R.typeName = some t)
    {outcome : Except Fault (Except Error (Plan × Bound) × R.Values)}
    (run : Script.Runs ctx (R.compose ctx t w before) log outcome) :
    log = [] ∧ Step.Ends (NoNextVersion t (w.plan t ctx.dialect) before)
      (R.Unbound ctx.converter t (w.plan t ctx.dialect) before)
      (fun planned after => planned.1 = w.plan t ctx.dialect ∧
        R.Binds ctx.converter t (w.plan t ctx.dialect) before planned.2 after) outcome := by
  rcases Step.runs_bind.mp ((compose_runs registered).mp run) with
    ⟨reason, first, rfl⟩ | ⟨e, mid, first, rfl⟩ | ⟨bound, mid, early, late, first, ⟨rfl, rfl⟩, rfl⟩
  · obtain ⟨rfl, why | _ | _⟩ := bind_run first
    exact ⟨rfl, .fault why⟩
  · obtain ⟨rfl, _ | why | _⟩ := bind_run first
    exact ⟨rfl, .failed why⟩
  · obtain ⟨rfl, _ | _ | binds⟩ := bind_run first
    exact ⟨rfl, .done ⟨rfl, binds⟩⟩

inductive Unprepared {α : Type} (R : RecordType) (ctx : Context) (w : Write) (t : Table) (before : R.Values) :
    Except Fault (Except Error α × R.Values) → Prop where
  | noKeys (picks : w.picksRow = true) (keyless : t.keys = []) :
    Unprepared R ctx w t before (.ok (.error (.noKeys t.name), before))
  | noNextVersion {reason} (why : NoNextVersion t (w.plan t ctx.dialect) before reason) :
    Unprepared R ctx w t before (.error reason)
  | unbound {e after} (why : R.Unbound ctx.converter t (w.plan t ctx.dialect) before e after) :
    Unprepared R ctx w t before (.ok (.error e, after))

/-- Without a hook, a write is prepared at once, or it ends before it sends anything. -/
theorem prepare_run {α : Type} (registered : ctx.table? R.typeName = some t)
    (plain : R.hooks w.preHook ctx = pure ()) {goOn : Table → Plan × Bound → Step R.Values α}
    {outcome : Except Fault (Except Error α × R.Values)}
    (run : Script.Runs ctx
      ((R.announce ctx w >>= fun t => R.compose ctx t w >>= goOn t : Step R.Values α) before) log outcome) :
    log = [] ∧ Unprepared R ctx w t before outcome ∨ ∃ bound after, R.Prepared ctx w before t [] before bound after := by
  by_cases keyed : w.picksRow = true → t.keys ≠ []
  · have announced : R.announce ctx w before = .done (.ok t, before) := announce_of_no_hook registered keyed plain
    rw [Step.bind_of_done announced] at run
    rcases Step.runs_bind.mp run with
      ⟨reason, first, rfl⟩ | ⟨e, after, first, rfl⟩ | ⟨⟨plan, bound⟩, after, early, _, first, _, rfl⟩
    · obtain ⟨rfl, why | _ | _⟩ := compose_run registered first
      exact .inl ⟨rfl, .noNextVersion why⟩
    · obtain ⟨rfl, _ | why | _⟩ := compose_run registered first
      exact .inl ⟨rfl, .unbound why⟩
    · obtain ⟨rfl, _ | _ | ⟨rfl, _⟩⟩ := compose_run registered first
      exact .inr ⟨bound, after, by rw [announced]; exact ⟨rfl, rfl⟩, first⟩
  · obtain ⟨picks, keyless⟩ := Classical.not_imp.mp keyed
    have keyless := Classical.not_not.mp keyless
    rw [Step.bind_of_failed (announce_without_keys registered picks keyless)] at run
    obtain ⟨rfl, rfl⟩ := run
    exact .inl ⟨rfl, .noKeys picks keyless⟩

theorem prepared_of_success {α : Type} (registered : ctx.table? R.typeName = some t)
    {goOn : Table → Plan × Bound → Step R.Values α} {a : α}
    (run : Script.Runs ctx
      ((R.announce ctx w >>= fun t => R.compose ctx t w >>= goOn t : Step R.Values α) before) log (.ok (.ok a, after))) :
    ∃ early mid bound left late, R.Prepared ctx w before t early mid bound left ∧ log = early ++ late := by
  rcases Step.runs_bind.mp run with ⟨_, _, ended⟩ | ⟨_, _, _, ended⟩ | ⟨found, mid, early, late, announced, rest, rfl⟩
  · cases ended
  · cases ended
  · cases registered.symm.trans (announce_run announced).1
    rcases Step.runs_bind.mp rest with
      ⟨_, _, ended⟩ | ⟨_, _, _, ended⟩ | ⟨⟨plan, bound⟩, left, none, late, composed, _, rfl⟩
    · cases ended
    · cases ended
    · obtain ⟨rfl, _ | _ | ⟨rfl, _⟩⟩ := compose_run registered composed
      exact ⟨early, mid, bound, left, late, ⟨announced, composed⟩, rfl⟩

/-- A write that sends anything after its hook was prepared. -/
theorem prepared_of_goes_on {α : Type} (registered : ctx.table? R.typeName = some t) {early late : List Exchange}
    (hook : Script.Runs ctx (R.hooks w.preHook ctx before) early (.ok (.ok (), mid)))
    {goOn : Table → Plan × Bound → Step R.Values α} {first : Exchange}
    {outcome : Except Fault (Except Error α × R.Values)}
    (run : Script.Runs ctx
      ((R.announce ctx w >>= fun t => R.compose ctx t w >>= goOn t : Step R.Values α) before) (early ++ first :: late)
      outcome) :
    ∃ bound after, R.Prepared ctx w before t early mid bound after := by
  by_cases keyed : w.picksRow = true → t.keys ≠ []
  · have announced : Script.Runs ctx (R.announce ctx w before) early (.ok (.ok t, mid)) := by
      rw [announce_eq_hook registered keyed, ← List.append_nil early, Step.runs_bind_of_ok hook]
      exact ⟨rfl, rfl⟩
    rcases Step.runs_bind.mp ((Step.runs_bind_of_ok announced).mp run) with
      ⟨_, composing, _⟩ | ⟨_, _, composing, _⟩ | ⟨⟨plan, bound⟩, after, none, _, composing, _, _⟩
    · cases (compose_run registered composing).1
    · cases (compose_run registered composing).1
    · obtain ⟨rfl, _ | _ | ⟨rfl, _⟩⟩ := compose_run registered composing
      exact ⟨bound, after, announced, composing⟩
  · obtain ⟨picks, keyless⟩ := Classical.not_imp.mp keyed
    rw [Step.bind_of_failed (announce_without_keys registered picks (Classical.not_not.mp keyless))] at run
    cases List.append_eq_nil_iff.mp run.1 |>.2

namespace Prepared

variable {early : List Exchange} {bound : Bound}

theorem registered (p : R.Prepared ctx w before t early mid bound after) : ctx.table? R.typeName = some t :=
  (announce_run p.announced).1

theorem unhooked (p : R.Prepared ctx w before t early mid bound after) (plain : R.hooks w.preHook ctx = pure ()) :
    early = [] ∧ mid = before := by
  obtain ⟨_, _, hook⟩ := announce_run p.announced
  rw [plain] at hook
  obtain ⟨rfl, ended⟩ := hook
  cases ended
  exact ⟨rfl, rfl⟩

theorem binds (p : R.Prepared ctx w before t early mid bound after) :
    R.Binds ctx.converter t (w.plan t ctx.dialect) mid bound after := by
  obtain ⟨_, _ | _ | ⟨_, binds⟩⟩ := compose_run p.registered p.composed
  exact binds

/-- The arguments after those that an update sets are for its keys and the version. -/
theorem keys_supplied {accepts : Option (Column → Bool)}
    (p : R.Prepared ctx (.update accepts) before t early mid bound after) (sends : bound.sql ≠ "") :
    List.Forall₂ (R.Supplies ctx.converter bound.version mid after) ((t.keyTerms true).map (·.2))
      (bound.args.drop (t.updateTerms (accepts.getD fun _ => true)).length) := by
  have some : t.updateTerms (accepts.getD fun _ => true) ≠ [] := by
    intro none
    refine sends (p.binds.sql.trans ?_)
    simp [Write.plan, Plan.update, none]
  have supplied := p.binds.args
  rw [Write.plan, Plan.update_sources some] at supplied
  have picked := List.forall₂_drop ((t.updateTerms (accepts.getD fun _ => true)).map (·.2)).length supplied
  rwa [List.drop_left, List.length_map] at picked

/-- After its preparation, a write goes on from the bound record. -/
theorem rest_run {α : Type} (p : R.Prepared ctx w before t early mid bound after) {late : List Exchange}
    {goOn : Table → Plan × Bound → Step R.Values α} {outcome : Except Fault (Except Error α × R.Values)}
    (run : Script.Runs ctx
      ((R.announce ctx w >>= fun t => R.compose ctx t w >>= goOn t : Step R.Values α) before) (early ++ late) outcome) :
    Script.Runs ctx (goOn t (w.plan t ctx.dialect, bound) after) late outcome := by
  have composed := (Step.runs_bind_of_ok p.announced).mp run
  rw [← List.nil_append late] at composed
  exact (Step.runs_bind_of_ok p.composed).mp composed

end Prepared

end RecordType

def eventInsertion (version : Int64) : Bound where
  sql := (Plan.insert events eventContext.dialect).sql
  args := [.bigInt 5, .timestamp 0, .bigInt (version + 1)]
  keys := [.bigInt 5]
  version

def eventUpdate (version : Int64) : Bound where
  sql := (Plan.update events eventContext.dialect fun _ => true).sql
  args := [.timestamp 0, .bigInt (version + 1), .bigInt 5, .bigInt version]
  keys := [.bigInt 5]
  version

end RowMapper
