import RowMapper.Proofs.Startup
import RowMapper.Store.Engine

/-!
# Engines are left in autocommit

An engine is inside a transaction only while a transaction of the mapper is open, so there is always a next one. A
commit that fails ends the transaction like one that succeeds, and answers with its own error.
-/

namespace RowMapper

variable {E : Engine} {controls : String → Prop}

/-- An engine that is inside one transaction at most. Its commits may fail and then leave the transaction open or not,
and statements in a transaction may close it; only some statements begin or conclude transactions by themselves. -/
structure Engine.Transactional (E : Engine) (controls : String → Prop) : Prop where
  start : ∀ s, (E.start s).1 = .ok () ↔ E.inTransaction s = false
  commit : ∀ s, (E.commit s).1 = .ok () → E.inTransaction (E.commit s).2 = false
  rollback : ∀ s, (E.rollback s).1 = .ok () ↔ E.inTransaction s = true
  rolledBack : ∀ s, E.inTransaction (E.rollback s).2 = false
  execute : ∀ sql args s, ¬ controls sql → E.inTransaction s = false → E.inTransaction (E.execute sql args s).2 = false
  query : ∀ sql args s, ¬ controls sql → E.inTransaction s = false → E.inTransaction (E.query sql args s).2 = false

namespace Engine

/-- However a commit ends, the transaction is over. -/
theorem Transactional.commitOrClose (laws : E.Transactional controls) (s : E.State) :
    E.inTransaction (E.commitOrClose s).2 = false := by
  have committed := laws.commit s
  unfold Engine.commitOrClose
  rcases answer : E.commit s with ⟨text | ⟨⟩, after⟩
  · cases inside : E.inTransaction after with
    | true => simpa only [inside, if_true] using laws.rolledBack after
    | false => simp only [Bool.false_eq_true, if_false, inside]
  · rw [answer] at committed
    exact committed rfl

/-- Whatever the rollback behind a failed commit answers, the commit answers with its own error. -/
theorem commitOrClose_failed {s : E.State} {text : String} (failed : (E.commit s).1 = .error text) :
    (E.commitOrClose s).1 = .error text := by
  unfold Engine.commitOrClose
  rcases answer : E.commit s with ⟨e | ⟨⟩, after⟩
  · rw [answer] at failed
    exact failed
  · rw [answer] at failed
    cases failed

end Engine

/-- Unless it is sent in a transaction, a statement does not control transactions. -/
def Request.LeavesControl {η : Type} (controls : String → Prop) : Request η → Prop
  | execute none sql _ | query none sql _ => ¬ controls sql
  | _ => True

namespace Mapper

def engineState (m : Mapper E.backend.watched) : E.State := m.connection.inner

def isInside (m : Mapper E.backend.watched) : Bool := E.inTransaction m.engineState

def SetupLeavesControl {B : Backend} (controls : String → Prop) (m : Mapper B) : Prop :=
  ∀ sql, m.dialect.initStatement? = some sql → ¬ controls sql

theorem SetupLeavesControl.of_dialect {B : Backend} {m after : Mapper B} (setup : m.SetupLeavesControl controls)
    (same : after.dialect = m.dialect) : after.SetupLeavesControl controls := by
  unfold SetupLeavesControl
  rwa [same]

variable {α : Type} {m : Mapper E.backend.watched} {t : Transaction E.backend.watched} {h : E.backend.Handle}

theorem isInside_of_quiet {after : Mapper E.backend.watched} (quiet : m.Quiet after) : after.isInside = m.isInside := by
  unfold isInside engineState
  rw [quiet.connection]

theorem isInside_traced (m : Mapper E.backend.watched) (sql : String) (args : List Value) :
    (m.traced sql args).isInside = m.isInside := by
  unfold isInside engineState
  rw [(m.traced_eq sql args).2.2.1]

theorem ensureInit_outside (laws : E.Transactional controls) (setup : m.SetupLeavesControl controls)
    (outside : m.isInside = false) : m.ensureInit.2.isInside = false := by
  unfold ensureInit
  split
  · exact outside
  · split
    · exact outside
    · rename_i sql found
      have ran : E.inTransaction (E.execute sql ([].map Store.Cell.ofValue) m.engineState).2 = false :=
        laws.execute sql _ m.engineState (setup sql found) outside
      split <;> rename_i answered <;> exact (congrArg (E.inTransaction ·.2.inner) answered).symm.trans ran

/-- A call that leaves the engine outside of transactions if it was and the statement does not control them. -/
def StaysOutside (controls : String → Prop)
    (call : Option E.backend.watched.Handle → String → List Value → E.backend.watched.State →
      Except Error α × E.backend.watched.State) : Prop :=
  ∀ sql args (s : E.backend.Watched), ¬ controls sql → E.inTransaction s.inner = false →
    E.inTransaction (Backend.Watched.inner (call none sql args s).2 : E.State) = false

theorem execute_staysOutside (laws : E.Transactional controls) :
    StaysOutside controls (E := E) E.backend.watched.execute :=
  fun sql _ s plain outside => laws.execute sql _ s.inner plain outside

theorem query_staysOutside (laws : E.Transactional controls) :
    StaysOutside controls (E := E) E.backend.watched.query :=
  fun sql _ s plain outside => laws.query sql _ s.inner plain outside

theorem send_outside (laws : E.Transactional controls) (setup : m.SetupLeavesControl controls)
    {call : Option E.backend.watched.Handle → String → List Value → E.backend.watched.State →
      Except Error α × E.backend.watched.State} (stays : StaysOutside controls call) {sql : String}
    (plain : ¬ controls sql) (args : List Value) (outside : m.isInside = false) :
    (m.send .mapper sql args call).2.isInside = false := by
  have ready := ensureInit_outside laws setup outside
  rw [send_eq_afterInit]
  unfold afterInit
  rcases started : m.ensureInit with ⟨e | ⟨⟩, after⟩
  · rw [started] at ready
    exact ready
  · rw [started] at ready
    exact stays sql args _ plain ((after.isInside_traced sql args).trans ready)

/-- No script brings the engine into a transaction by what a mapper sends for it. -/
theorem run_outside (laws : E.Transactional controls) (s : Script α) (setup : m.SetupLeavesControl controls)
    (plain : ∀ x ∈ ((m.dialogue .mapper s).map (Exchange.asked none) : List (Asked E.backend.Handle)),
      x.request.LeavesControl controls) (outside : m.isInside = false) : (m.run .mapper s).2.isInside = false := by
  have accounts : Accounts .mapper fun (m : Mapper E.backend.watched) log after =>
      m.SetupLeavesControl controls →
        (∀ x ∈ (log.map (Exchange.asked none) : List (Asked E.backend.Handle)), x.request.LeavesControl controls) →
          m.isInside = false → after.isInside = false := by
    refine ⟨fun _ _ _ outside => outside, fun rest => rest, ?_, ?_⟩
    · intro m sql args log after rest setup plain outside
      obtain ⟨first, others⟩ := List.forall_mem_cons.mp plain
      have same := congrArg Context.dialect (m.send_context .mapper sql args E.backend.watched.execute).1
      exact rest (setup.of_dialect same) others (send_outside laws setup (execute_staysOutside laws) first args outside)
    · intro m sql args log after rest setup plain outside
      obtain ⟨first, others⟩ := List.forall_mem_cons.mp plain
      have same := congrArg Context.dialect (m.send_context .mapper sql args E.backend.watched.query).1
      exact rest (setup.of_dialect same) others (send_outside laws setup (query_staysOutside laws) first args outside)
  exact accounts.run s m setup plain outside

theorem conclude_outside (laws : E.Transactional controls) (opened : t.handle? = some h) (c : Conclusion)
    (m : Mapper E.backend.watched) : (c.conclude m t).2.2.isInside = false := by
  cases c with
  | commit =>
    simp only [Conclusion.conclude, Mapper.commit, Mapper.conclude, opened]
    exact laws.commitOrClose _
  | rollback =>
    simp only [Conclusion.conclude, Mapper.rollback, Mapper.conclude, opened]
    exact laws.rolledBack _

theorem leave_outside (laws : E.Transactional controls) (opened : t.handle? = some h) (m : Mapper E.backend.watched) :
    (m.leave t).isInside = false := by
  unfold leave
  simp only [opened]
  exact laws.rolledBack _

theorem start_outside (laws : E.Transactional controls) {ready : Mapper E.backend.watched}
    (started : m.ensureInit = (.ok (), ready)) (outside : ready.isInside = false) :
    ∃ t after, m.start = (.ok t, after) ∧ t.isFinished = false := by
  have began := (laws.start ready.engineState).mpr outside
  rcases answer : E.start ready.engineState with ⟨e | ⟨⟩, after⟩
  · rw [answer] at began
    cases began
  · have answered : (E.backend.watched.start ready.connection).1 = .ok () := by
      show Engine.driverError id (E.start ready.engineState).1 = .ok ()
      rw [answer]
      rfl
    unfold Mapper.start
    simp only [started, answered]
    exact ⟨_, _, rfl, rfl⟩

theorem start_opens {B : Backend} {m after : Mapper B} {t : Transaction B} (began : m.start = (.ok t, after)) :
    t.isFinished = false := by
  unfold Mapper.start at began
  rcases started : m.ensureInit with ⟨e | ⟨⟩, ready⟩
  · rw [started] at began
    cases began
  · rw [started] at began
    obtain ⟨h, _, rfl⟩ := except_map_ok (congrArg Prod.fst began)
    rfl

theorem start_refused (laws : E.Transactional controls) (setup : m.SetupLeavesControl controls)
    (outside : m.isInside = false) {e : Error} {after : Mapper E.backend.watched}
    (refused : m.start = (.error e, after)) : after.isInside = false := by
  have ready := ensureInit_outside laws setup outside
  rcases started : m.ensureInit with ⟨_ | ⟨⟩, mid⟩
  · rw [started] at ready
    unfold Mapper.start at refused
    rw [started] at refused
    cases refused
    exact ready
  · rw [started] at ready
    obtain ⟨t, last, began, _⟩ := start_outside laws started ready
    cases began.symm.trans refused

theorem commit_failed (opened : t.isFinished = false) {text : String}
    (failed : (E.commit m.engineState).1 = .error text) : (m.commit t).1 = .error (.driver text) := by
  obtain ⟨_ | h⟩ := t
  · cases opened
  · have same : (m.traced "commit;" []).engineState = m.engineState :=
      congrArg Backend.Watched.inner (m.traced_eq "commit;" []).2.2.1
    have answer := Engine.commitOrClose_failed (same ▸ failed)
    exact congrArg (Engine.driverError id) answer

end Mapper

namespace Usage

variable {u : Usage E.backend.watched}

/-- The engine is inside a transaction only while one of those begun is open. -/
def Accounted (u : Usage E.backend.watched) : Prop :=
  u.mapper.isInside = true → ∃ t ∈ u.transactions, t.isFinished = false

theorem accounted_of_outside (outside : u.mapper.isInside = false) : u.Accounted := by
  intro inside
  rw [outside] at inside
  cases inside

theorem accounted_of_open {t : Transaction E.backend.watched} (member : t ∈ u.transactions)
    (opened : t.isFinished = false) : u.Accounted :=
  fun _ => ⟨t, member, opened⟩

theorem Accounted.onMapper (accounted : u.Accounted) {after : Mapper E.backend.watched}
    (outside : u.mapper.isInside = false → after.isInside = false) : Accounted { u with mapper := after } := by
  cases inside : u.mapper.isInside with
  | true =>
    obtain ⟨t, member, opened⟩ := accounted inside
    exact accounted_of_open member opened
  | false => exact accounted_of_outside (outside inside)

theorem Accounted.use (accounted : u.Accounted) {place : Nat}
    {step : Transaction E.backend.watched → Transaction E.backend.watched × Mapper E.backend.watched}
    (closed : ∀ t, t.isFinished = true → (step t).1 = t ∧ u.mapper.Quiet (step t).2)
    (opened : ∀ t, t.isFinished = false → (step t).1 = t ∨ (step t).2.isInside = false) :
    (u.use place step).Accounted := by
  unfold Usage.use
  cases found : u.transactions[place]? with
  | none => exact accounted
  | some t =>
    obtain ⟨inRange, here⟩ := List.getElem?_eq_some_iff.mp found
    dsimp only
    -- a transaction that is over cannot be the open one; one that is open is, or the engine is outside after it
    cases finished : t.isFinished with
    | true =>
      obtain ⟨same, quiet⟩ := closed t finished
      rw [same, ← here, List.set_getElem_self]
      exact accounted.onMapper fun outside => (here ▸ Mapper.isInside_of_quiet quiet).trans outside
    | false =>
      rcases opened t finished with same | outside
      · rw [same]
        exact accounted_of_open (List.mem_set inRange t) finished
      · exact accounted_of_outside outside

theorem step_accounted (laws : E.Transactional controls) (setup : u.mapper.SetupLeavesControl controls)
    (accounted : u.Accounted) {call : MapperCall} (plain : ∀ x ∈ u.asked call, x.request.LeavesControl controls) :
    (u.step call).Accounted := by
  cases call with
  | run script => exact accounted.onMapper (Mapper.run_outside laws _ setup plain)
  | dropIndex typeName name =>
    refine accounted.onMapper fun outside => ?_
    have ran := Mapper.run_outside laws _ setup plain outside
    exact (Mapper.isInside_of_quiet (dropIndex_quiet u.mapper typeName name)).trans ran
  | start =>
    unfold step
    rcases began : u.mapper.start with ⟨e | t, after⟩
    · exact accounted.onMapper fun outside => Mapper.start_refused laws setup outside began
    · exact accounted_of_open (List.mem_append_right _ List.mem_cons_self) (Mapper.start_opens began)
  | within place call =>
    refine accounted.use ?_ ?_
    · intro t finished
      have closed : t.handle? = none := Option.isNone_iff_eq_none.mp finished
      obtain ⟨after, stepped, quiet⟩ := TransactionCall.step_closed closed u.mapper call
      rw [stepped]
      exact ⟨rfl, quiet⟩
    · rintro ⟨_ | h⟩ opened
      · cases opened
      · cases call with
        | run script => exact .inl rfl
        | conclude c => exact .inr (Mapper.conclude_outside laws rfl c u.mapper)
  | leave place =>
    refine accounted.use ?_ ?_
    · intro t finished
      have closed : t.handle? = none := Option.isNone_iff_eq_none.mp finished
      rw [Mapper.leave_closed closed]
      exact ⟨congrArg Transaction.mk closed.symm, .refl _⟩
    · rintro ⟨_ | h⟩ opened
      · cases opened
      · exact .inr (Mapper.leave_outside laws rfl u.mapper)

theorem stepAll_accounted (laws : E.Transactional controls) (setup : u.mapper.SetupLeavesControl controls)
    (sound : u.Sound) (accounted : u.Accounted) {calls : List MapperCall}
    (plain : ∀ x ∈ u.askedAll calls, x.request.LeavesControl controls) : (u.stepAll calls).Accounted := by
  induction calls generalizing u with
  | nil => exact accounted
  | cons call calls ih =>
    obtain ⟨first, others⟩ := List.forall_mem_append.mp plain
    obtain ⟨answers, soundAfter⟩ := step_answers sound call
    exact ih (setup.of_dialect answers.dialect) soundAfter (step_accounted laws setup accounted first) others

/-- Whatever is called on a mapper and on the transactions that it begins, no engine stays inside a transaction when all
of them are over, so the next one begins as soon as the connection is set up. This needs the laws of the engine and that
no statement outside of transactions controls them. A commit that fails answers with the engine's error in any case. -/
theorem left_in_autocommit (m : Mapper E.backend.watched) (calls : List MapperCall) :
    let u := stepAll { mapper := m } calls
    (E.Transactional controls → E.inTransaction m.engineState = false → m.SetupLeavesControl controls →
      (∀ x ∈ askedAll { mapper := m } calls, x.request.LeavesControl controls) →
      (∀ t ∈ u.transactions, t.isFinished = true) →
        E.inTransaction u.mapper.engineState = false ∧ (E.start u.mapper.engineState).1 = .ok () ∧
        ∀ ready, u.mapper.ensureInit = (.ok (), ready) →
          ∃ t after, u.mapper.start = (.ok t, after) ∧ t.isFinished = false) ∧
    ∀ t ∈ u.transactions, ∀ text, t.isFinished = false → (E.commit u.mapper.engineState).1 = .error text →
      (u.mapper.commit t).1 = .error (.driver text) := by
  intro u
  refine ⟨?_, fun t _ text opened failed => Mapper.commit_failed opened failed⟩
  intro laws outside setup plain finished
  let new : Usage E.backend.watched := { mapper := m }
  have sound : new.Sound := fun t member => absurd member List.not_mem_nil
  have accounted : u.Accounted := stepAll_accounted (u := new) laws setup sound (accounted_of_outside outside) plain
  have outsideNow : u.mapper.isInside = false := by
    cases inside : u.mapper.isInside with
    | false => rfl
    | true =>
      obtain ⟨t, member, opened⟩ := accounted inside
      cases (finished t member).symm.trans opened
  have setupNow := setup.of_dialect (stepAll_answers sound calls).dialect
  refine ⟨outsideNow, (laws.start _).mpr outsideNow, fun ready started => ?_⟩
  have readyOutside := Mapper.ensureInit_outside laws setupNow outsideNow
  rw [started] at readyOutside
  exact Mapper.start_outside laws started readyOutside

end Usage

namespace Store

variable {s : Store}

theorem apply_saved {changed : Store} {args : List Cell} {statement : Statement} {answer : Answer}
    (applied : s.apply args statement = .ok (answer, changed)) : changed.saved = s.saved := by
  cases statement with
  | setting name value =>
    simp only [apply] at applied
    split at applied <;> cases applied <;> rfl
  | _ =>
    obtain ⟨_, _, same⟩ := except_bind_ok applied
    cases same
    rfl

theorem keep_saved (s : Store) (sql : String) (labels? : Option (List String)) :
    (s.keep sql labels?).saved = s.saved := by
  cases labels? <;> rfl

theorem afterRefusal_saved (s : Store) (statement : Statement) (refusal : Refusal) :
    (s.afterRefusal statement refusal).saved = s.saved := by
  unfold afterRefusal
  split <;> rfl

theorem perform_saved (s : Store) (args : List Cell) (statement : Statement) :
    (s.perform args statement).2.saved = s.saved := by
  unfold perform
  split
  · exact afterRefusal_saved s statement _
  · rename_i answer changed applied
    split
    · exact apply_saved applied
    · exact afterRefusal_saved s statement _

theorem run_saved (s : Store) (text : String) (args : List Cell) : (s.run text args).2.saved = s.saved := by
  unfold run
  dsimp only
  split
  · rfl
  · rename_i statement count parsed
    split
    · exact keep_saved s _ _
    · exact (keep_saved _ _ _).trans (perform_saved s args statement)

theorem execute_saved (s : Store) (sql : String) (args : List Cell) : (s.execute sql args).2.saved = s.saved := by
  have ran := s.run_saved sql args
  unfold execute
  rcases answer : s.run sql args with ⟨refusal | answer, after⟩
  · rw [answer] at ran
    exact ran
  · rw [answer] at ran
    dsimp only
    split <;> exact ran

theorem commit_saved {s after : Store} (committed : s.commit = (.ok (), after)) : after.saved = none := by
  unfold commit at committed
  split at committed
  · cases committed
  · split at committed
    · cases committed
    · cases committed
      rfl

theorem start_ok_iff (s : Store) : s.start.1 = .ok () ↔ s.saved.isSome = false := by
  unfold start
  cases s.saved <;> simp

theorem rollback_ok_iff (s : Store) : s.rollback.1 = .ok () ↔ s.saved.isSome = true := by
  unfold rollback
  cases s.saved <;> simp

theorem rollback_saved (s : Store) : s.rollback.2.saved = none := by
  unfold rollback
  cases h : s.saved <;> simp [h]

theorem refused_ok {α : Type} {answer : Except Refusal α × Store} {a : α} :
    (refused answer).1 = .ok a ↔ answer.1 = .ok a := by
  obtain ⟨refusal | result, after⟩ := answer
  · exact ⟨nofun, nofun⟩
  · exact ⟨fun same => congrArg Except.ok (Except.ok.inj same), fun same => congrArg Except.ok (Except.ok.inj same)⟩

theorem inTransaction_refused {α : Type} (answer : Except Refusal α × Store) :
    engine.inTransaction (refused answer).2 = answer.2.saved.isSome :=
  rfl

theorem inTransaction_refused_map {α β : Type} (f : Except Refusal α → Except Refusal β)
    (answer : Except Refusal α × Store) :
    engine.inTransaction (refused (answer.map f id)).2 = answer.2.saved.isSome :=
  rfl

/-- The store is inside a transaction from its start to its end, whatever statements are run. -/
theorem engine_transactional (controls : String → Prop) : engine.Transactional controls where
  start s := refused_ok.trans (start_ok_iff s)
  commit s committed := by
    have ended : Store.commit s = (.ok (), (Store.commit s).2) := Prod.ext (refused_ok.mp committed) rfl
    exact congrArg Option.isSome (commit_saved ended)
  rollback s := refused_ok.trans (rollback_ok_iff s)
  rolledBack s := congrArg Option.isSome (rollback_saved s)
  execute sql args s _ outside :=
    (inTransaction_refused _).trans ((congrArg Option.isSome (execute_saved s sql _)).trans outside)
  query sql args s _ outside :=
    (inTransaction_refused_map _ _).trans ((congrArg Option.isSome (run_saved s sql _)).trans outside)

end Store

/-- Pets in a store that has lost their owners. The references are checked only when a transaction is committed. -/
def orphanedPets : Store :=
  let owner : Store.ColumnDefinition :=
    { name := "owner_id", type := "integer", reference := some { table := "owners", column := "id", deferred := true } }
  let pets : Store.Relation :=
    { definition := { name := "pets", columns := [owner] }, rowIdColumn := none, uniqueSets := [],
      rows := [{ rowId := 1, cells := [.integer 42] }], lastGiven := 1 }
  { content := { tables := [pets] } }

def orphanedPetsMapper : Mapper Store.engine.backend.watched where
  dialect := .sqlite "" false
  connection := { inner := orphanedPets }

def orphanedPetsCalls : List MapperCall := [.run fun _ => Attempt.exec "vacuum;" [], .start]

/-- The commit fails and answers with its error. Nothing stays open after it, and the next transaction begins. -/
theorem orphanedPets_left_in_autocommit :
    let u := Usage.stepAll { mapper := orphanedPetsMapper } orphanedPetsCalls
    let after := Usage.stepAll { mapper := orphanedPetsMapper } (orphanedPetsCalls ++ [.within 0 (.conclude .commit)])
    (∃ t ∈ u.transactions, (u.mapper.commit t).1 = .error (.driver "FOREIGN KEY constraint failed")) ∧
      Store.engine.inTransaction after.mapper.engineState = false ∧
      ∃ t last, after.mapper.start = (.ok t, last) ∧ t.isFinished = false := by
  have plain : ∀ x ∈ Usage.askedAll { mapper := orphanedPetsMapper }
      (orphanedPetsCalls ++ [.within 0 (.conclude .commit)]), x.request.LeavesControl (· = "begin;") := by
    have asked : Usage.askedAll { mapper := orphanedPetsMapper }
        (orphanedPetsCalls ++ [.within 0 (.conclude .commit)]) =
          [⟨.execute none "vacuum;" [], some (.driver "malformed statement")⟩, ⟨.start, none⟩,
            ⟨.commit (), some (.driver "FOREIGN KEY constraint failed")⟩] := rfl
    rw [asked]
    simp [Request.LeavesControl]
  have settled := @Usage.left_in_autocommit _ (· = "begin;") orphanedPetsMapper
  obtain ⟨ends, _⟩ := settled (orphanedPetsCalls ++ [.within 0 (.conclude .commit)])
  obtain ⟨outside, _, begins⟩ := ends (Store.engine_transactional _) rfl nofun plain (by decide +kernel)
  obtain ⟨_, fails⟩ := settled orphanedPetsCalls
  refine ⟨⟨_, List.mem_cons_self, fails _ List.mem_cons_self _ rfl rfl⟩, outside, begins _ rfl⟩

end RowMapper
