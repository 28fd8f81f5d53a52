import Mathlib.Data.List.Forall2
import RowMapper.Record.Binding
import RowMapper.Proofs.Record.Lens
import RowMapper.Proofs.Script.Steps
import RowMapper.Proofs.Table.Calls

/-!
# Bound plans

What the arguments of a bound plan are, and what binding leaves of the record. Binding sends nothing. It changes a
record only to give it its first version.
-/

namespace RowMapper

theorem toInt_add_one {n : Int64} (hasNext : n ≠ Int64.maxValue) : (n + 1).toInt = n.toInt + 1 := by
  have top : n.toInt ≠ 2 ^ 63 - 1 := fun same =>
    hasNext (Int64.toInt_inj.mp (same.trans Int64.toInt_maxValue.symm))
  have upper := n.toInt_lt
  have lower := n.le_toInt
  rw [Int64.toInt_add]
  exact Int.bmod_eq_of_le (by simp; omega) (by simp; omega)

theorem nextVersion_overflows {ρ : Type} {version : Int64} (greatest : version = Int64.maxValue) (v : ρ) :
    (liftM (nextVersion version) : Step ρ Int64) v = .fault .overflow := by
  rw [nextVersion, if_pos greatest]
  rfl

theorem nextVersion_next {ρ : Type} {version : Int64} (hasNext : version ≠ Int64.maxValue) (v : ρ) :
    (liftM (nextVersion version) : Step ρ Int64) v = .done (.ok (version + 1), v) := by
  rw [nextVersion, if_neg hasNext]
  rfl

namespace RecordType

variable (R : RecordType) (conv : Converter) (t : Table)

/-- The version that a record shows: zero if it has none, or one that is not an integer. -/
def localVersion (v : R.Values) : Except Error Int64 :=
  match t.versionColumn? with
  | some c => (R.read c.path v).map fun x => x.asInt?.getD 0
  | none => .ok 0

def supplied (c : Column) (v : R.Values) : Except Error Value := R.read c.path v >>= conv.toDb c

/-- Whether an argument is what its source says, for a record that may get its first version meanwhile. -/
def Supplies (version : Int64) (before after : R.Values) : Source → Value → Prop
  | .field c, x => R.supplied conv c before = .ok x ∨ R.supplied conv c after = .ok x
  | .nextVersion, x => x = .bigInt (version + 1)
  | .existingVersion, x => x = .bigInt version

/-- Whether a source can give an argument: some record shows it in its field, or it is a version. -/
def Bindable : Source → Value → Prop
  | .field c, x => ∃ v, R.read c.path v = .ok x
  | .nextVersion, x | .existingVersion, x => ∃ version : Int64, x = .bigInt version

/-- Only a record without a version is changed, by the version of its row, if the statement stores one. -/
def Touched (sources : List Source) (version : Int64) (before after : R.Values) : Prop :=
  if version = 0 ∧ .nextVersion ∈ sources then R.storeVersion t 1 before = (.ok (), after) else after = before

/-- A plan bound to a record, and what that leaves of the record. -/
structure Binds (plan : Plan) (before : R.Values) (bound : Bound) (after : R.Values) : Prop where
  sql : bound.sql = plan.sql
  version : R.localVersion t before = .ok bound.version
  args : List.Forall₂ (R.Supplies conv bound.version before after) plan.sources bound.args
  keys : List.Forall₂ (fun c x => R.supplied conv c after = .ok x) t.keyColumns bound.keys
  touched : R.Touched t plan.sources bound.version before after
  hasNext : .nextVersion ∈ plan.sources → bound.version ≠ Int64.maxValue

/-- A plan that could not be bound, and what that leaves of the record. -/
structure Unbound (plan : Plan) (before : R.Values) (e : Error) (after : R.Values) : Prop where
  touched : after = before ∨ R.localVersion t before = .ok 0 ∧ R.Touched t plan.sources 0 before after
  /-- A record with a version is at fault only if one of its fields has no value. -/
  cause : R.localVersion t before = .error e ∨ R.localVersion t before = .ok 0 ∨
    ∃ c, (.field c ∈ plan.sources ∨ c ∈ t.keyColumns) ∧ R.supplied conv c before = .error e

variable {R conv t} {ctx : Context} {version : Int64} {before after : R.Values} {log : List Exchange}

theorem supplied_default (c : Column) : R.supplied {} c before = R.read c.path before := by
  unfold supplied
  cases R.read c.path before <;> rfl

theorem Supplies.bindable {source : Source} {x : Value} (supplies : R.Supplies {} version before after source x) :
    R.Bindable source x := by
  cases source with
  | field c =>
    rcases supplies with shown | shown
    all_goals
      rw [supplied_default] at shown
      exact ⟨_, shown⟩
  | nextVersion | existingVersion => exact ⟨_, supplies⟩

theorem readField_apply (path : String) : R.readField path before = (R.read path before, before) := rfl

theorem writeField_eq_ok {path : String} {x : Value} :
    R.writeField path x before = (.ok (), after) ↔ R.write path x before = .ok after := by
  unfold writeField
  cases R.write path x before with
  | error e =>
    constructor
    · intro impossible
      cases impossible
    · intro impossible
      cases impossible
  | ok changed =>
    constructor
    · intro same
      cases same
      rfl
    · intro same
      cases same
      rfl

theorem writeField_failed {path : String} {x : Value} {e : Error}
    (failed : R.writeField path x before = (.error e, after)) : after = before := by
  unfold writeField at failed
  split at failed
  · cases failed
  · cases failed
    rfl

theorem storeVersion_of_column {c : Column} (versioned : t.versionColumn? = some c) :
    R.storeVersion t version before = R.writeField c.path (.bigInt version) before := by
  unfold storeVersion
  rw [versioned]

theorem storeVersion_of_none (versionless : t.versionColumn? = none) :
    R.storeVersion t version before = (.ok (), before) := by
  unfold storeVersion
  rw [versionless]
  rfl

/-- A record that differs only in its version, which was written as the first one. -/
structure FirstVersioned (t : Table) (before after : R.Values) : Prop where
  stored : ∃ c, t.versionColumn? = some c ∧ R.write c.path (.bigInt 1) before = .ok after ∧
    ∀ path, path ≠ c.path → R.read path after = R.read path before
  transients : R.fields.transients "" after = R.fields.transients "" before

theorem firstVersioned {c : Column} (versioned : t.versionColumn? = some c)
    (stored : R.storeVersion t 1 before = (.ok (), after)) : FirstVersioned t before after := by
  rw [storeVersion_of_column versioned, writeField_eq_ok] at stored
  exact ⟨⟨c, versioned, stored, fun path differs => read_write_other stored differs⟩, transients_write stored⟩

theorem storeVersion_again (stored : R.storeVersion t version before = (.ok (), after)) :
    R.storeVersion t version after = (.ok (), after) := by
  cases versioned : t.versionColumn? with
  | none => exact storeVersion_of_none versioned
  | some c =>
    rw [storeVersion_of_column versioned, writeField_eq_ok] at stored ⊢
    rw [write_write stored, stored]

theorem storeVersion_failed {e : Error} (failed : R.storeVersion t version before = (.error e, after)) :
    after = before := by
  cases versioned : t.versionColumn? with
  | none =>
    rw [storeVersion_of_none versioned] at failed
    cases failed
  | some c =>
    rw [storeVersion_of_column versioned] at failed
    exact writeField_failed failed

theorem loadedVersion_apply : R.loadedVersion t before = (R.localVersion t before, before) := by
  unfold loadedVersion localVersion
  cases t.versionColumn? with
  | none => rfl
  | some c =>
    show (R.readField c.path >>= fun x => pure (x.asInt?.getD 0) : Edit R.Values Int64) before = _
    simp only [Bind.bind, ExceptT.bind, ExceptT.mk, StateT.bind, readField_apply]
    cases R.read c.path before with
    | error e => rfl
    | ok x => rfl

theorem loadedVersion_step :
    (liftM (R.loadedVersion t) : Step R.Values Int64) before = .done (R.localVersion t before, before) := by
  rw [Step.edit_apply, loadedVersion_apply]

theorem storedField_apply (c : Column) : R.storedField conv c before = .done (R.supplied conv c before, before) := by
  unfold storedField supplied
  rw [Step.bind_apply, Step.edit_apply, readField_apply]
  cases R.read c.path before with
  | error e => rfl
  | ok x => exact Step.ofExcept_apply _ _

theorem Supplies.mono {mid : R.Values} {source : Source} {x : Value} (same : mid = before ∨ mid = after) :
    (R.Supplies conv version before mid source x → R.Supplies conv version before after source x) ∧
      (R.Supplies conv version mid after source x → R.Supplies conv version before after source x) := by
  cases source with
  | field c =>
    rcases same with rfl | rfl
    · exact ⟨fun h => h.elim .inl .inl, id⟩
    · exact ⟨id, fun h => h.elim .inr .inr⟩
  | nextVersion | existingVersion => exact ⟨id, id⟩

theorem touched_of_version (versioned : version ≠ 0) {sources : List Source} :
    R.Touched t sources version before after ↔ after = before := by
  unfold Touched
  rw [if_neg fun asked => versioned asked.1]

theorem touched_zero {sources : List Source} (asked : .nextVersion ∈ sources) :
    R.Touched t sources 0 before after ↔ R.storeVersion t 1 before = (.ok (), after) := by
  unfold Touched
  rw [if_pos ⟨rfl, asked⟩]

theorem touched_of_not_asked {sources : List Source} (unasked : .nextVersion ∉ sources) :
    R.Touched t sources version before after ↔ after = before := by
  unfold Touched
  rw [if_neg fun asked => unasked asked.2]

theorem Touched.cons {mid : R.Values} {source : Source} {rest : List Source}
    (first : R.Touched t [source] version before mid) (second : R.Touched t rest version mid after) :
    R.Touched t (source :: rest) version before after ∧ (mid = before ∨ mid = after) := by
  by_cases unversioned : version = 0
  · subst unversioned
    by_cases asks : source = .nextVersion
    · subst asks
      rw [touched_zero List.mem_cons_self] at first ⊢
      -- Whether or not the version is asked for again, the record has it already.
      have settled : after = mid := by
        by_cases again : .nextVersion ∈ rest
        · rw [touched_zero again, storeVersion_again first] at second
          cases second
          rfl
        · exact (touched_of_not_asked again).mp second
      subst settled
      exact ⟨first, .inr rfl⟩
    · have same : mid = before := (touched_of_not_asked (by simpa [eq_comm] using asks)).mp first
      subst same
      refine ⟨?_, .inl rfl⟩
      unfold Touched at second ⊢
      simpa [List.mem_cons, Ne.symm asks] using second
  · have same := (touched_of_version unversioned).mp first
    have sameAgain := (touched_of_version unversioned).mp second
    subst same sameAgain
    exact ⟨(touched_of_version unversioned).mpr rfl, .inl rfl⟩

theorem Touched.weaken {source : Source} {rest : List Source} (touched : R.Touched t [source] version before after) :
    after = before ∨ R.Touched t (source :: rest) version before after := by
  unfold Touched at touched ⊢
  split at touched
  · rename_i asked
    rw [if_pos ⟨asked.1, List.mem_cons.mpr (.inl (List.mem_singleton.mp asked.2))⟩]
    exact .inr touched
  · exact .inl touched

theorem argument_run {source : Source} {outcome : Except Fault (Except Error Value × R.Values)}
    (run : Script.Runs ctx (R.argument conv t version source before) log outcome) :
    log = [] ∧ Step.Ends
      (fun reason => reason = .overflow ∧ source = .nextVersion ∧ version = Int64.maxValue)
      (fun e after => after = before ∧ (version ≠ 0 → ∃ c, source = .field c ∧ R.supplied conv c before = .error e))
      (fun x after => R.Supplies conv version before after source x ∧ R.Touched t [source] version before after ∧
        (source = .nextVersion → version ≠ Int64.maxValue)) outcome := by
  cases source with
  | field c =>
    simp only [argument, storedField_apply] at run
    obtain ⟨rfl, rfl⟩ := run
    cases found : R.supplied conv c before with
    | error e => exact ⟨rfl, .failed ⟨rfl, fun _ => ⟨c, rfl, found⟩⟩⟩
    | ok x => exact ⟨rfl, .done ⟨.inl found, (touched_of_not_asked (by simp)).mpr rfl, nofun⟩⟩
  | existingVersion =>
    obtain ⟨rfl, rfl⟩ := run
    exact ⟨rfl, .done ⟨rfl, (touched_of_not_asked (by simp)).mpr rfl, nofun⟩⟩
  | nextVersion =>
    simp only [argument] at run
    by_cases greatest : version = Int64.maxValue
    · rw [Step.bind_of_fault (nextVersion_overflows greatest before)] at run
      obtain ⟨rfl, rfl⟩ := run
      exact ⟨rfl, .fault ⟨rfl, rfl, greatest⟩⟩
    · rw [Step.bind_of_done (nextVersion_next greatest before)] at run
      by_cases unversioned : version = 0
      · subst unversioned
        rw [if_pos rfl] at run
        cases stored : R.storeVersion t (0 + 1) before with
        | mk answer after =>
          have write : (liftM (R.storeVersion t (0 + 1)) : Step R.Values Unit) before = .done (answer, after) :=
            congrArg Script.done stored
          cases answer with
          | error e =>
            rw [Step.bind_of_failed write] at run
            obtain ⟨rfl, rfl⟩ := run
            exact ⟨rfl, .failed ⟨storeVersion_failed stored, fun versioned => absurd rfl versioned⟩⟩
          | ok _ =>
            rw [Step.bind_of_done write] at run
            obtain ⟨rfl, rfl⟩ := run
            have touched : R.Touched t [.nextVersion] 0 before after :=
              (touched_zero List.mem_cons_self).mpr stored
            exact ⟨rfl, .done ⟨rfl, touched, fun _ => greatest⟩⟩
      · rw [if_neg unversioned] at run
        obtain ⟨rfl, rfl⟩ := run
        exact ⟨rfl, .done ⟨rfl, (touched_of_version unversioned).mpr rfl, fun _ => greatest⟩⟩

theorem arguments_run {sources : List Source} {outcome : Except Fault (Except Error (List Value) × R.Values)}
    (run : Script.Runs ctx (sources.mapM (R.argument conv t version) before) log outcome) :
    log = [] ∧ Step.Ends
      (fun reason => reason = .overflow ∧ .nextVersion ∈ sources ∧ version = Int64.maxValue)
      (fun e after => (after = before ∨ R.Touched t sources version before after) ∧
        (version ≠ 0 → ∃ c, .field c ∈ sources ∧ R.supplied conv c before = .error e))
      (fun xs after => List.Forall₂ (R.Supplies conv version before after) sources xs ∧
        R.Touched t sources version before after ∧ (.nextVersion ∈ sources → version ≠ Int64.maxValue))
      outcome := by
  induction sources generalizing before log outcome with
  | nil =>
    obtain ⟨rfl, rfl⟩ := run
    exact ⟨rfl, .done ⟨.nil, (touched_of_not_asked List.not_mem_nil).mpr rfl, nofun⟩⟩
  | cons source rest ih =>
    rw [List.mapM_cons] at run
    have later {other : Source} (member : other ∈ rest) : other ∈ source :: rest := List.mem_cons_of_mem _ member
    rcases Step.runs_bind.mp run with
      ⟨reason, first, rfl⟩ | ⟨e, mid, first, rfl⟩ | ⟨x, mid, early, late, first, second, rfl⟩
    · obtain ⟨rfl, ⟨rfl, rfl, greatest⟩ | _ | _⟩ := argument_run first
      exact ⟨rfl, .fault ⟨rfl, List.mem_cons_self, greatest⟩⟩
    · obtain ⟨rfl, _ | ⟨rfl, cause⟩ | _⟩ := argument_run first
      refine ⟨rfl, .failed ⟨.inl rfl, fun versioned => ?_⟩⟩
      obtain ⟨c, rfl, unread⟩ := cause versioned
      exact ⟨c, List.mem_cons_self, unread⟩
    · obtain ⟨rfl, _ | _ | ⟨supplies, touched, hasNext⟩⟩ := argument_run first
      -- Later arguments are taken from a record that the first one may have changed.
      have unchanged : version ≠ 0 → mid = before := fun versioned =>
        (touched_of_version versioned).mp touched
      rcases Step.runs_bind.mp second with
        ⟨reason, others, rfl⟩ | ⟨e, after, others, rfl⟩ | ⟨xs, after, early, last, others, ⟨rfl, rfl⟩, rfl⟩
      · obtain ⟨rfl, ⟨rfl, member, greatest⟩ | _ | _⟩ := ih others
        exact ⟨rfl, .fault ⟨rfl, later member, greatest⟩⟩
      · obtain ⟨rfl, _ | ⟨touchedAgain, cause⟩ | _⟩ := ih others
        refine ⟨rfl, .failed ⟨?_, fun versioned => ?_⟩⟩
        · rcases touchedAgain with rfl | again
          · exact touched.weaken
          · exact .inr (touched.cons again).1
        · obtain ⟨c, member, unread⟩ := cause versioned
          rw [unchanged versioned] at unread
          exact ⟨c, later member, unread⟩
      · obtain ⟨rfl, _ | _ | ⟨supplied, touchedAgain, hasNextAgain⟩⟩ := ih others
        obtain ⟨touchedAll, settled⟩ := touched.cons touchedAgain
        refine ⟨rfl, .done ⟨.cons ?_ (supplied.imp ?_), touchedAll, ?_⟩⟩
        · exact (Supplies.mono settled).1 supplies
        · exact fun _ _ => (Supplies.mono settled).2
        · intro member
          rcases List.mem_cons.mp member with same | member
          · exact hasNext same.symm
          · exact hasNextAgain member

theorem storedFields_apply (conv : Converter) (columns : List Column) :
    (columns.mapM (R.storedField conv) : Step R.Values (List Value)) before =
      .done (columns.mapM (R.supplied conv · before), before) := by
  induction columns with
  | nil => rfl
  | cons c rest ih =>
    rw [List.mapM_cons, List.mapM_cons]
    cases found : R.supplied conv c before with
    | error e =>
      have failed : R.storedField conv c before = .done (.error e, before) := by rw [storedField_apply, found]
      exact Step.bind_of_failed failed
    | ok x =>
      have read : R.storedField conv c before = .done (.ok x, before) := by rw [storedField_apply, found]
      rw [Step.bind_of_done read]
      cases others : rest.mapM (R.supplied conv · before) with
      | error e => exact Step.bind_of_failed (ih.trans (by rw [others]))
      | ok xs => exact Step.bind_of_done (ih.trans (by rw [others]))

theorem storedFields_run {columns : List Column} {outcome : Except Fault (Except Error (List Value) × R.Values)}
    (run : Script.Runs ctx (columns.mapM (R.storedField conv) before) log outcome) :
    log = [] ∧ Step.Ends (fun _ => False)
      (fun e after => after = before ∧ ∃ c ∈ columns, R.supplied conv c before = .error e)
      (fun xs after => after = before ∧ List.Forall₂ (fun c x => R.supplied conv c before = .ok x) columns xs)
      outcome := by
  rw [storedFields_apply] at run
  obtain ⟨rfl, rfl⟩ := run
  refine ⟨rfl, ?_⟩
  cases found : columns.mapM (R.supplied conv · before) with
  | error e =>
    obtain ⟨_, c, _, rfl, _, unread⟩ := except_mapM_error_iff.mp found
    exact .failed ⟨rfl, c, List.mem_append_right _ List.mem_cons_self, unread⟩
  | ok xs =>
    have each := except_mapM_ok_iff.mp found
    rw [← List.forall₂_eq_eq_eq, List.forall₂_map_left_iff, List.forall₂_map_right_iff] at each
    exact .done ⟨rfl, each⟩

def NoNextVersion (t : Table) (plan : Plan) (before : R.Values) (reason : Fault) : Prop :=
  reason = .overflow ∧ .nextVersion ∈ plan.sources ∧ R.localVersion t before = .ok Int64.maxValue

theorem bind_run {plan : Plan} {outcome : Except Fault (Except Error Bound × R.Values)}
    (run : Script.Runs ctx (R.bind conv t plan before) log outcome) :
    log = [] ∧ Step.Ends (NoNextVersion t plan before) (R.Unbound conv t plan before)
      (R.Binds conv t plan before) outcome := by
  unfold bind at run
  have read : (liftM (R.loadedVersion t) : Step R.Values Int64) before = _ := loadedVersion_step
  cases shown : R.localVersion t before with
  | error e =>
    rw [shown] at read
    rw [Step.bind_of_failed read] at run
    obtain ⟨rfl, rfl⟩ := run
    exact ⟨rfl, .failed ⟨.inl rfl, .inl shown⟩⟩
  | ok version =>
    rw [shown] at read
    rw [Step.bind_of_done read] at run
    rcases Step.runs_bind.mp run with
      ⟨reason, first, rfl⟩ | ⟨e, mid, first, rfl⟩ | ⟨xs, mid, early, late, first, second, rfl⟩
    · obtain ⟨rfl, ⟨rfl, asked, rfl⟩ | _ | _⟩ := arguments_run first
      exact ⟨rfl, .fault ⟨rfl, asked, shown⟩⟩
    · obtain ⟨rfl, _ | ⟨touched, cause⟩ | _⟩ := arguments_run first
      by_cases versioned : version = 0
      · subst versioned
        exact ⟨rfl, .failed ⟨touched.imp_right fun touched => ⟨shown, touched⟩, .inr (.inl shown)⟩⟩
      · obtain ⟨c, member, unread⟩ := cause versioned
        have same : mid = before := touched.elim id (touched_of_version versioned).mp
        exact ⟨rfl, .failed ⟨.inl same, .inr (.inr ⟨c, .inl member, unread⟩)⟩⟩
    · obtain ⟨rfl, _ | _ | ⟨supplied, touched, hasNext⟩⟩ := arguments_run first
      rcases Step.runs_bind.mp second with
        ⟨reason, keys, rfl⟩ | ⟨e, after, keys, rfl⟩ | ⟨ys, after, early, last, keys, ⟨rfl, rfl⟩, rfl⟩
      · obtain ⟨_, ⟨impossible⟩ | _ | _⟩ := storedFields_run keys
        exact impossible.elim
      · obtain ⟨rfl, _ | ⟨rfl, c, member, unread⟩ | _⟩ := storedFields_run keys
        by_cases versioned : version = 0
        · subst versioned
          exact ⟨rfl, .failed ⟨.inr ⟨shown, touched⟩, .inr (.inl shown)⟩⟩
        · have same := (touched_of_version versioned).mp touched
          subst same
          exact ⟨rfl, .failed ⟨.inl rfl, .inr (.inr ⟨c, .inr member, unread⟩)⟩⟩
      · obtain ⟨rfl, _ | _ | ⟨rfl, keysSupplied⟩⟩ := storedFields_run keys
        exact ⟨rfl, .done ⟨rfl, shown, supplied, keysSupplied, touched, hasNext⟩⟩

end RecordType

end RowMapper
