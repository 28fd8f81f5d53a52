import RowMapper.Proofs.Transaction

/-!
# Setting up a connection

The statement that sets up a connection is sent in front of what is asked for, once for each request until it succeeds.
A request in front of which it fails is not sent and gets its error.
-/

namespace RowMapper

variable {η α : Type} {B : Backend}

/-- What is logged of what was asked, on a connection that may have been set up before or after: each request in front
of which the setup fails leaves the failed setup, and the first one in front of which it succeeds is sent after it. -/
inductive Logged (init? : Option String) : Bool → List (Asked η) → List (Asked η) → Bool → Prop where
  | ready {asked} : Logged init? true asked asked true
  | needless {before after asked} (none : init? = none) : Logged init? before asked asked after
  | refused {sql} (asked : List (Asked η)) (setup : init? = some sql) (failed : ∀ x ∈ asked, x.error?.isSome = true) :
    Logged init? false asked (asked.map fun x => ⟨.execute none sql [], x.error?⟩) false
  | setUp {sql} (refused : List (Asked η)) {later} (setup : init? = some sql)
      (failed : ∀ x ∈ refused, x.error?.isSome = true) (some : later ≠ []) :
    Logged init? false (refused ++ later)
      (refused.map (fun x => ⟨.execute none sql [], x.error?⟩) ++ ⟨.execute none sql [], none⟩ :: later) true

namespace Logged

variable {init? : Option String} {before mid after : Bool} {early late log rest : List (Asked η)}

theorem empty : Logged (η := η) init? before [] [] before := by
  cases before with
  | true => exact .ready
  | false =>
    cases setup : init? with
    | none => exact .needless rfl
    | some sql => exact .refused [] rfl nofun

theorem append (first : Logged init? before early log mid) (second : Logged init? mid late rest after) :
    Logged init? before (early ++ late) (log ++ rest) after := by
  cases first with
  | needless none =>
    cases second with
    | ready | needless => exact .needless none
    | refused _ setup | setUp _ setup =>
      rw [none] at setup
      cases setup
  | ready =>
    cases second with
    | ready => exact .ready
    | needless none => exact .needless none
  | refused _ setup failed =>
    cases second with
    | needless none =>
      rw [none] at setup
      cases setup
    | refused _ again failedToo =>
      cases setup.symm.trans again
      rw [← List.map_append]
      exact .refused _ setup (List.forall_mem_append.mpr ⟨failed, failedToo⟩)
    | setUp _ again failedToo some =>
      cases setup.symm.trans again
      rw [← List.append_assoc, ← List.append_assoc, ← List.map_append]
      exact .setUp _ setup (List.forall_mem_append.mpr ⟨failed, failedToo⟩) some
  | setUp _ setup failed some =>
    cases second with
    | needless none =>
      rw [none] at setup
      cases setup
    | ready =>
      rw [List.append_assoc, List.append_assoc, List.cons_append]
      exact .setUp _ setup failed (List.append_ne_nil_of_left_ne_nil some _)

theorem isReady (logged : Logged init? true early log after) : after = true ∨ init? = none := by
  cases logged with
  | ready => exact .inl rfl
  | needless none => exact .inr none

end Logged

namespace Mapper

variable {m mid after : Mapper B.watched} {early late asked : List (Asked B.Handle)}

/-- A mapper that was asked for requests has logged them, and its setup in front of them. -/
structure Answers (m : Mapper B.watched) (asked : List (Asked B.Handle)) (after : Mapper B.watched) : Prop where
  dialect : after.dialect = m.dialect
  logged : ∃ log, after.log = m.log ++ log ∧ Logged m.dialect.initStatement? m.initialized asked log after.initialized

theorem Answers.refl (m : Mapper B.watched) : m.Answers [] m := ⟨rfl, [], (List.append_nil _).symm, .empty⟩

theorem Answers.trans (first : m.Answers early mid) (second : mid.Answers late after) :
    m.Answers (early ++ late) after := by
  obtain ⟨sameDialect, log, logged, ready⟩ := first
  obtain ⟨sameToo, rest, loggedToo, readyToo⟩ := second
  rw [sameDialect] at readyToo
  exact ⟨sameToo.trans sameDialect, log ++ rest, by rw [loggedToo, logged, List.append_assoc], ready.append readyToo⟩

/-- A connection that statements can be sent to without a setup. -/
def IsSetUp {B : Backend} (m : Mapper B) : Prop := m.initialized = true ∨ m.dialect.initStatement? = none

theorem Answers.isSetUp (answers : m.Answers asked after) (ready : m.IsSetUp) : after.IsSetUp := by
  obtain ⟨sameDialect, log, _, logged⟩ := answers
  rcases ready with ready | needless
  · rw [ready] at logged
    exact logged.isReady.imp_right fun none => sameDialect ▸ none
  · exact .inr (sameDialect ▸ needless)

theorem Sends.answers (sends : m.Sends asked after) (ready : m.IsSetUp) : m.Answers asked after := by
  refine ⟨sends.dialect, asked, sends.log, ?_⟩
  rw [sends.initialized]
  rcases ready with ready | needless
  · rw [ready]
    exact .ready
  · exact .needless needless

theorem Sends.nothing_answers (sends : m.Sends [] after) : m.Answers [] after := by
  refine ⟨sends.dialect, [], sends.log, ?_⟩
  rw [sends.initialized]
  exact .empty

def afterInit (m : Mapper B) (step : Mapper B → Except Error α × Mapper B) : Except Error α × Mapper B :=
  match m.ensureInit with
  | (.ok (), m) => step m
  | (.error e, m) => (.error e, m)

theorem send_eq_afterInit (m : Mapper B) (sql : String) (args : List Value)
    (call : Option B.Handle → String → List Value → B.State → Except Error α × B.State) :
    m.send .mapper sql args call = m.afterInit fun m =>
      ((call none sql args (m.traced sql args).connection).1,
        { m.traced sql args with connection := (call none sql args (m.traced sql args).connection).2 }) :=
  rfl

theorem start_eq_afterInit (m : Mapper B) :
    m.start = m.afterInit fun m =>
      ((B.start m.connection).1.map fun handle => ⟨some handle⟩,
        { m with connection := (B.start m.connection).2 }) := by
  unfold start afterInit
  rcases m.ensureInit with ⟨e | _, _⟩ <;> rfl

inductive InitRun (m : Mapper B.watched) : Except Error Unit × Mapper B.watched → Prop where
  | already (ready : m.initialized = true) : InitRun m (.ok (), m)
  | needless (none : m.dialect.initStatement? = none) : InitRun m (.ok (), { m with initialized := true })
  | succeeded {sql} {connection : B.Watched} (unready : m.initialized = false)
      (setup : m.dialect.initStatement? = some sql)
      (logged : connection.log = m.log ++ [⟨.execute none sql [], none⟩]) :
    InitRun m (.ok (), { m with initialized := true, connection })
  | failed {sql e} {connection : B.Watched} (unready : m.initialized = false)
      (setup : m.dialect.initStatement? = some sql)
      (logged : connection.log = m.log ++ [⟨.execute none sql [], some e⟩]) :
    InitRun m (.error e, { m with connection })

theorem ensureInit_run (m : Mapper B.watched) : m.InitRun m.ensureInit := by
  unfold ensureInit
  split
  · rename_i ready
    exact .already ready
  · rename_i unready
    have unready : m.initialized = false := by simpa using unready
    split
    · rename_i none
      exact .needless none
    · rename_i sql setup
      split
      · rename_i result connection answer
        exact .succeeded unready setup (execute_logs.answered answer)
      · rename_i e connection answer
        exact .failed unready setup (execute_logs.answered answer)

/-- A step that sends one request is asked for that request, whether or not the setup in front of it succeeds. -/
theorem afterInit_answers {step : Mapper B.watched → Except Error α × Mapper B.watched} {request : Request B.Handle}
    (sends : ∀ m : Mapper B.watched, m.Sends [⟨request, failure? (step m).1⟩] (step m).2) :
    m.Answers [⟨request, failure? (m.afterInit step).1⟩] (m.afterInit step).2 := by
  have run := m.ensureInit_run
  unfold afterInit
  generalize m.ensureInit = started at run ⊢
  cases run with
  | already ready => exact (sends m).answers (.inl ready)
  | needless none =>
    have sent := sends { m with initialized := true }
    exact ⟨sent.dialect, _, sent.log, .needless none⟩
  | @succeeded sql connection unready setup logged =>
    have sent := sends { m with initialized := true, connection }
    dsimp only
    have first : ({ m with initialized := true, connection } : Mapper B.watched).log = _ := logged
    have whole := sent.log
    rw [first, List.append_assoc] at whole
    refine ⟨sent.dialect, _, whole, ?_⟩
    rw [sent.initialized, unready]
    exact .setUp [] setup nofun (List.cons_ne_nil _ _)
  | @failed sql e connection unready setup logged =>
    refine ⟨rfl, _, logged, ?_⟩
    rw [unready]
    refine .refused [⟨request, some e⟩] setup ?_
    intro x member
    cases List.mem_singleton.mp member
    rfl

theorem send_answers
    {call : Option B.watched.Handle → String → List Value → B.watched.State → Except Error α × B.watched.State}
    {request : Option B.Handle → String → List Value → Request B.Handle} (logs : LogsAs call request) (sql : String)
    (args : List Value) :
    m.Answers [⟨request none sql args, failure? (m.send .mapper sql args call).1⟩]
      (m.send .mapper sql args call).2 := by
  rw [send_eq_afterInit]
  exact afterInit_answers fun m => sends_traced (logs none sql args (m.traced sql args).connection)

theorem start_answers : m.Answers [⟨.start, failure? m.start.1⟩] m.start.2 := by
  rw [start_eq_afterInit]
  refine afterInit_answers fun m => ⟨?_, rfl, rfl⟩
  rw [failure?_map]
  rfl

theorem run_answers (s : Script α) (m : Mapper B.watched) :
    m.Answers ((m.dialogue .mapper s).map (Exchange.asked none)) (m.run .mapper s).2 := by
  have accounts : Accounts .mapper
      fun (m : Mapper B.watched) log after => m.Answers (log.map (Exchange.asked none)) after := by
    refine ⟨.refl, ?_, ?_, ?_⟩
    · intro m registry log after answers
      exact ⟨answers.dialect, answers.logged⟩
    · intro m sql args log after answers
      rw [List.map_cons, Exchange.asked_exec]
      exact (send_answers execute_logs sql args).trans answers
    · intro m sql args log after answers
      rw [List.map_cons, Exchange.asked_query]
      exact (send_answers query_logs sql args).trans answers
  exact accounts.run s m

end Mapper

structure Usage (B : Backend) where
  mapper : Mapper B
  transactions : List (Transaction B) := []

inductive MapperCall : Type 1 where
  | run {α : Type} (script : Context → Script α)
  | dropIndex (typeName name : String)
  | start
  | within (place : Nat) (call : TransactionCall)
  | leave (place : Nat)

namespace Usage

def use (u : Usage B) (place : Nat) (step : Transaction B → Transaction B × Mapper B) : Usage B :=
  match u.transactions[place]? with
  | some t => { mapper := (step t).2, transactions := u.transactions.set place (step t).1 }
  | none => u

def step (u : Usage B) : MapperCall → Usage B
  | .run script => { u with mapper := (u.mapper.run .mapper (script u.mapper.context)).2 }
  | .dropIndex typeName name => { u with mapper := (u.mapper.dropIndex typeName name).2 }
  | .start =>
    match u.mapper.start with
    | (.ok t, mapper) => { mapper, transactions := u.transactions ++ [t] }
    | (.error _, mapper) => { u with mapper }
  | .within place call => u.use place fun t => call.step (t, u.mapper)
  | .leave place => u.use place fun t => (⟨none⟩, u.mapper.leave t)

def asked (u : Usage B.watched) : MapperCall → List (Asked B.Handle)
  | .run script => (u.mapper.dialogue .mapper (script u.mapper.context)).map (Exchange.asked none)
  | .dropIndex typeName name =>
    (u.mapper.dialogue .mapper (u.mapper.context.dropIndex typeName name)).map (Exchange.asked none)
  | .start => [⟨.start, failure? u.mapper.start.1⟩]
  | .within place call => (u.transactions[place]?.map fun t => call.asked t u.mapper).getD []
  | .leave place => (u.transactions[place]?.map fun t => TransactionCall.askedAtLast t u.mapper).getD []

def stepAll (u : Usage B) (calls : List MapperCall) : Usage B := calls.foldl step u

def askedAll (u : Usage B.watched) : List MapperCall → List (Asked B.Handle)
  | [] => []
  | call :: calls => u.asked call ++ (u.step call).askedAll calls

/-- Transactions are open only on a connection that is set up. -/
def Sound (u : Usage B) : Prop := ∀ t ∈ u.transactions, t.isFinished = false → u.mapper.IsSetUp

theorem dropIndex_quiet (m : Mapper B) (typeName name : String) :
    (m.run .mapper (m.context.dropIndex typeName name)).2.Quiet (m.dropIndex typeName name).2 := by
  unfold Mapper.dropIndex
  split
  · rename_i dropped sent
    rw [sent]
    split <;> exact ⟨rfl, rfl, rfl⟩
  · exact ⟨rfl, rfl, rfl⟩

theorem start_isSetUp {m after : Mapper B} {t : Transaction B} (began : m.start = (.ok t, after)) :
    after.IsSetUp := by
  unfold Mapper.start at began
  rcases ready : m.ensureInit with ⟨e | ⟨⟩, started⟩
  · rw [ready] at began
    cases began
  · rw [ready] at began
    cases congrArg Prod.snd began
    have initialized : started.initialized = true := Mapper.ensureInit_ok ready
    exact .inl initialized

variable {u : Usage B.watched}

theorem Sound.answered (sound : u.Sound) {asked : List (Asked B.Handle)} {after : Mapper B.watched}
    (answers : u.mapper.Answers asked after) : Sound { u with mapper := after } :=
  fun t member isOpen => answers.isSetUp (sound t member isOpen)

/-- A use of a transaction asks for nothing once that is over, and neither opens it again nor touches others. -/
theorem use_answers (sound : u.Sound) {place : Nat}
    {step : Transaction B.watched → Transaction B.watched × Mapper B.watched}
    {asks : Transaction B.watched → List (Asked B.Handle)} (sends : ∀ t, u.mapper.Sends (asks t) (step t).2)
    (quiet : ∀ t, t.handle? = none → asks t = []) (keeps : ∀ t, (step t).1 = t ∨ (step t).1.isFinished = true) :
    u.mapper.Answers ((u.transactions[place]?.map asks).getD []) (u.use place step).mapper ∧
      (u.use place step).Sound := by
  unfold use
  cases found : u.transactions[place]? with
  | none => exact ⟨.refl _, sound⟩
  | some t =>
    have member := List.mem_of_getElem? found
    -- A finished transaction may belong to a connection that is not set up, but nothing is asked for in it.
    have answers : u.mapper.Answers (asks t) (step t).2 := by
      cases opened : t.handle? with
      | none =>
        have sent := sends t
        rw [quiet t opened] at sent ⊢
        exact sent.nothing_answers
      | some h =>
        have isOpen : t.isFinished = false := by
          rw [Transaction.isFinished, opened]
          rfl
        exact (sends t).answers (sound t member isOpen)
    refine ⟨answers, ?_⟩
    intro s memberNow isOpen
    rcases List.mem_or_eq_of_mem_set memberNow with old | rfl
    · exact answers.isSetUp (sound s old isOpen)
    · rcases keeps t with same | finished
      · rw [same] at isOpen
        exact answers.isSetUp (sound t member isOpen)
      · rw [finished] at isOpen
        cases isOpen

theorem step_answers (sound : u.Sound) (call : MapperCall) :
    u.mapper.Answers (u.asked call) (u.step call).mapper ∧ (u.step call).Sound := by
  cases call with
  | run script =>
    have answers := Mapper.run_answers (script u.mapper.context) u.mapper
    exact ⟨answers, sound.answered answers⟩
  | dropIndex typeName name =>
    have ran := Mapper.run_answers (u.mapper.context.dropIndex typeName name) u.mapper
    have answers := ran.trans (dropIndex_quiet u.mapper typeName name).sends.nothing_answers
    rw [List.append_nil] at answers
    exact ⟨answers, sound.answered answers⟩
  | start =>
    have answers := Mapper.start_answers (m := u.mapper)
    unfold asked step
    rcases began : u.mapper.start with ⟨e | t, after⟩
    · rw [began] at answers
      exact ⟨answers, sound.answered answers⟩
    · rw [began] at answers
      refine ⟨answers, ?_⟩
      intro s member isOpen
      rcases List.mem_append.mp member with old | new
      · exact answers.isSetUp (sound s old isOpen)
      · exact start_isSetUp began
  | within place call =>
    refine use_answers sound (TransactionCall.step_sends call · u.mapper) ?_
      (TransactionCall.step_keeps call · u.mapper)
    intro t closed
    simp only [TransactionCall.asked, closed]
  | leave place =>
    refine use_answers sound (TransactionCall.leave_sends · u.mapper) ?_ fun _ => .inr rfl
    intro t closed
    simp only [TransactionCall.askedAtLast, closed]

theorem stepAll_answers (sound : u.Sound) (calls : List MapperCall) :
    u.mapper.Answers (u.askedAll calls) (u.stepAll calls).mapper := by
  induction calls generalizing u with
  | nil => exact .refl _
  | cons call calls ih =>
    obtain ⟨answers, soundAfter⟩ := step_answers sound call
    exact answers.trans (ih soundAfter)

/-- Whatever is called on a new mapper and on the transactions that it begins, the setup is sent in front of each
request until it succeeds, and never again. The requests in front of which it failed are not sent and got its error.
Without a setup, what is asked for is what is sent. -/
theorem set_up_first (m : Mapper B.watched) (new : m.initialized = false) (calls : List MapperCall) :
    let u : Usage B.watched := { mapper := m }
    match m.dialect.initStatement? with
    | none => (u.stepAll calls).mapper.log = m.log ++ u.askedAll calls
    | some sql => ∃ refused later, u.askedAll calls = refused ++ later ∧ (∀ x ∈ refused, x.error?.isSome = true) ∧
        (u.stepAll calls).mapper.log =
          m.log ++ refused.map (fun x => ⟨.execute none sql [], x.error?⟩) ++
            if later.isEmpty then [] else ⟨.execute none sql [], none⟩ :: later := by
  intro u
  obtain ⟨_, log, sent, logged⟩ := stepAll_answers (u := u) nofun calls
  rw [show u.mapper.initialized = false from new, show u.mapper.dialect = m.dialect from rfl] at logged
  generalize u.askedAll calls = asked at logged ⊢
  generalize (u.stepAll calls).mapper.initialized = ready at logged
  cases logged with
  | needless none =>
    rw [none]
    exact sent
  | @refused sql _ setup failed =>
    rw [setup]
    exact ⟨asked, [], (List.append_nil _).symm, failed, by rw [sent]; exact (List.append_nil _).symm⟩
  | @setUp sql refused later setup failed some =>
    rw [setup]
    refine ⟨refused, later, rfl, failed, ?_⟩
    rw [sent, if_neg (by simpa using some), List.append_assoc]

end Usage

/-- A connection that fails its first statement, under a dialect with a setup. -/
def fragileConnection : Mapper Backend.scripted.watched where
  dialect := .sqlite "" true
  connection := { inner := { queue := [.failure "down"] } }

def firstCalls : List MapperCall :=
  [.run fun _ => Attempt.exec "vacuum;" [], .start, .within 0 (.run fun _ => Attempt.exec "delete from events;" []),
    .leave 0, .run fun _ => Attempt.exec "vacuum;" []]

/-- The first setup fails, and so does the statement behind it. The next one is in front of a transaction. -/
theorem setup_again :
    ∃ refused later, Usage.askedAll { mapper := fragileConnection } firstCalls = refused ++ later ∧
      (∀ x ∈ refused, x.error?.isSome = true) ∧
      (Usage.stepAll { mapper := fragileConnection } firstCalls).mapper.log =
        [] ++ refused.map (fun x => ⟨.execute none "pragma foreign_keys = on;" [], x.error?⟩) ++
          if later.isEmpty then [] else ⟨.execute none "pragma foreign_keys = on;" [], none⟩ :: later :=
  Usage.set_up_first fragileConnection rfl firstCalls

example : (Usage.stepAll { mapper := fragileConnection } firstCalls).mapper.log =
    [⟨.execute none "pragma foreign_keys = on;" [], some (.driver "down")⟩,
      ⟨.execute none "pragma foreign_keys = on;" [], none⟩, ⟨.start, none⟩,
      ⟨.execute (some ()) "delete from events;" [], none⟩, ⟨.rollback (), none⟩,
      ⟨.execute none "vacuum;" [], none⟩] := rfl

end RowMapper
