import RowMapper.Proofs.Concurrency.Answer
import RowMapper.Proofs.Concurrency.SingleRow

/-!
# No lost update

Whatever the order of their statements, clients that load, edit and update one row never overwrite what they have not
seen: each version of the row is made from the one before it, by exactly one update.
-/

namespace RowMapper

variable {ι : Type} [DecidableEq ι] {ctx : Context} {R : RecordType} {t : Table} {c : Column} {B : Backend}
  {view : RowView B} {start : Column → Value} {first version later : Int64} {copy : R.Values} {r : Returned R}
  {returned : List (Returned R)}

def wins (returned : List (Returned R)) : List (Returned R) := returned.filter Returned.won

/-- What has returned while the row came from its first version to another. -/
structure Ledger (R : RecordType) (t : Table) (first : Int64) (returned : List (Returned R)) (version : Int64) :
    Prop where
  settled : ∀ r ∈ returned, ∃ n, R.localVersion t r.copy = .ok n ∧ r.Settled t n
  count : ((wins returned).length : Int) = version.toInt - first.toInt
  earlier : ∀ r ∈ wins returned, ∃ n, R.localVersion t r.copy = .ok n ∧ n < version
  distinct : ((wins returned).map fun r => R.localVersion t r.copy).Nodup

namespace Ledger

theorem nil : Ledger R t first [] first where
  settled := fun _ member => absurd member List.not_mem_nil
  count := by simp [wins]
  earlier := fun _ member => absurd member List.not_mem_nil
  distinct := List.nodup_nil

variable (ledger : Ledger R t first returned version)

include ledger

theorem le : first ≤ version := by
  have count := ledger.count
  rw [Int64.le_iff_toInt_le]
  omega

theorem settled_append {n : Int64} (shown : R.localVersion t r.copy = .ok n) (settled : r.Settled t n) :
    ∀ other ∈ returned ++ [r], ∃ n, R.localVersion t other.copy = .ok n ∧ other.Settled t n := by
  intro other member
  rcases List.mem_append.mp member with before | last
  · exact ledger.settled other before
  · obtain rfl := List.mem_singleton.mp last
    exact ⟨n, shown, settled⟩

theorem lose {n : Int64} (shown : R.localVersion t r.copy = .ok n) (settled : r.Settled t n) (lost : r.won = false) :
    Ledger R t first (returned ++ [r]) version := by
  have same : wins (returned ++ [r]) = wins returned := by simp [wins, lost]
  exact ⟨ledger.settled_append shown settled, same ▸ ledger.count, same ▸ ledger.earlier, same ▸ ledger.distinct⟩

/-- An update that changed the row was made from its current version, and no update was before. -/
theorem win (shown : R.localVersion t r.copy = .ok version) (settled : r.Settled t version) (won : r.won = true)
    (hasNext : version ≠ Int64.maxValue) : Ledger R t first (returned ++ [r]) (version + 1) := by
  have more : wins (returned ++ [r]) = wins returned ++ [r] := by simp [wins, won]
  have next := toInt_add_one hasNext
  refine ⟨ledger.settled_append shown settled, ?_, fun other member => ?_, ?_⟩
  · have count := ledger.count
    rw [more, List.length_append, List.length_singleton, next]
    omega
  · rw [more] at member
    rcases List.mem_append.mp member with before | last
    · obtain ⟨n, shownToo, earlier⟩ := ledger.earlier other before
      rw [Int64.lt_iff_toInt_lt] at earlier
      exact ⟨n, shownToo, Int64.lt_iff_toInt_lt.mpr (by omega)⟩
    · obtain rfl := List.mem_singleton.mp last
      exact ⟨version, shown, Int64.lt_iff_toInt_lt.mpr (by omega)⟩
  · -- Earlier wins were made from earlier versions, so this one is no repetition.
    rw [more, List.map_append, List.nodup_append]
    refine ⟨ledger.distinct, List.nodup_singleton _, fun old member new last same => ?_⟩
    obtain ⟨other, before, rfl⟩ := List.mem_map.mp member
    obtain ⟨n, shownToo, earlier⟩ := ledger.earlier other before
    rw [List.map_singleton, List.mem_singleton] at last
    rw [last, shown, shownToo] at same
    cases same
    rw [Int64.lt_iff_toInt_lt] at earlier
    omega

end Ledger

inductive Awaits (ctx : Context) (R : RecordType) (t : Table) (c : Column) (view : RowView B) (start : Column → Value)
    (version : Int64) (copy : R.Values) : Script (Except Error Nat × R.Values) → Prop where
  | asking (accepts : Option (Column → Bool)) (loaded : CopyOf R t view start version copy)
    (below : R.localVersion t copy ≠ .ok Int64.maxValue) :
    Awaits ctx R t c view start version copy (R.update ctx accepts 0 copy)
  | lost {bound accepts script} (asks : bound.Asks t ctx.dialect c accepts view start copy)
    (loaded : CopyOf R t view start version copy) (loses : Loses R ctx t bound copy script) :
    Awaits ctx R t c view start version copy script

structure Client.Sound (ctx : Context) (t : Table) (c : Column) (view : RowView B) (start : Column → Value)
    (version : Int64) (client : Client R) : Prop where
  copies : ∀ copy ∈ client.copies, CopyOf R t view start version copy
  pending : ∀ copy script, client.pending = some (copy, script) → Awaits ctx R t c view start version copy script

theorem Awaits.mono {script : Script (Except Error Nat × R.Values)} (le : version ≤ later)
    (awaits : Awaits ctx R t c view start version copy script) : Awaits ctx R t c view start later copy script := by
  cases awaits with
  | asking accepts loaded below => exact .asking accepts (loaded.mono le) below
  | lost asks loaded loses => exact .lost asks (loaded.mono le) loses

theorem Client.Sound.mono {client : Client R} (le : version ≤ later)
    (sound : client.Sound ctx t c view start version) : client.Sound ctx t c view start later :=
  ⟨fun copy member => (sound.copies copy member).mono le,
    fun copy script waits => (sound.pending copy script waits).mono le⟩

namespace World

/-- What holds of a world between two steps, when its row has a version. -/
structure Kept (ctx : Context) (R : RecordType) (t : Table) (c : Column) (view : RowView B) (start : Column → Value)
    (first : Int64) (w : World ι B R) (version : Int64) : Prop where
  row : RowAt t c start (view.cell w.database) version
  clients : ∀ i, (w.client i).Sound ctx t c view start version
  ledger : Ledger R t first w.returned version

/-- What one step does to the row: nothing, or the next version of it, for the one update that returns. -/
inductive Moves (R : RecordType) (t : Table) (view : RowView B) (w next : World ι B R) (version : Int64) :
    Int64 → Prop where
  | stays (same : view.cell next.database = view.cell w.database) (none : wins next.returned = wins w.returned) :
    Moves R t view w next version version
  | moves (r : Returned R) (after : R.Values) (hasNext : version ≠ Int64.maxValue)
    (returned : next.returned = w.returned ++ [r]) (won : r.won = true) (asked : R.localVersion t r.copy = .ok version)
    (left : r.left = [after]) (shows : R.localVersion t after = .ok (version + 1)) :
    Moves R t view w next version (version + 1)

namespace Kept

variable {w next : World ι B R} {database : B.State} {i : ι}
  (kept : Kept ctx R t c view start first w version)

include kept

theorem hold {copies : List R.Values} (same : view.cell database = view.cell w.database)
    (loaded : ∀ copy ∈ copies, CopyOf R t view start version copy) :
    Kept ctx R t c view start first (w.hold i database copies) version := by
  refine ⟨same ▸ kept.row,
    (Function.forall_update_iff _ _).mpr ⟨⟨fun copy member => ?_, ?_⟩, fun j _ => kept.clients j⟩, kept.ledger⟩
  · exact (List.mem_append.mp member).elim (loaded copy) ((kept.clients i).copies copy)
  · exact (kept.clients i).pending

theorem wait (same : view.cell database = view.cell w.database) {script : Script (Except Error Nat × R.Values)}
    (awaits : Awaits ctx R t c view start version copy script) :
    Kept ctx R t c view start first (w.goOn i database (some (copy, script)) []) version := by
  refine ⟨same ▸ kept.row,
    (Function.forall_update_iff _ _).mpr ⟨⟨(kept.clients i).copies, ?_⟩, fun j _ => kept.clients j⟩, ?_⟩
  · rintro _ _ ⟨⟩
    exact awaits
  · rw [goOn, List.append_nil]
    exact kept.ledger

theorem finish (row : RowAt t c start (view.cell database) later) (le : version ≤ later)
    (left : ∀ after ∈ r.left, CopyOf R t view start later after) (ledger : Ledger R t first (w.returned ++ [r]) later) :
    Kept ctx R t c view start first (w.goOn i database none [r]) later := by
  refine ⟨row, (Function.forall_update_iff _ _).mpr ⟨⟨fun copy member => ?_, ?_⟩, fun j _ => (kept.clients j).mono le⟩,
    ledger⟩
  · rw [List.flatMap_singleton] at member
    exact (List.mem_append.mp member).elim (left copy) fun held => ((kept.clients i).copies copy held).mono le
  · rintro _ _ ⟨⟩

theorem finish_lost {n : Int64} (same : view.cell database = view.cell w.database)
    (loaded : CopyOf R t view start version r.copy) (shown : R.localVersion t r.copy = .ok n) (settled : r.Settled t n)
    (lost : r.won = false) :
    Kept ctx R t c view start first (w.goOn i database none [r]) version ∧
      Moves R t view w (w.goOn i database none [r]) version version := by
  refine ⟨kept.finish (same ▸ kept.row) (Int64.le_refl version) ?_ (kept.ledger.lose shown settled lost), .stays same ?_⟩
  · rw [settled.left_eq.2 lost]
    rintro after member
    rw [List.mem_singleton.mp member]
    exact loaded
  · show wins (w.returned ++ [r]) = wins w.returned
    simp [wins, lost]

theorem finish_won {bound : Bound} {accepts : Option (Column → Bool)} {after : R.Values}
    (setting : Setting ctx R t c view) (returns : KeysReturn R t view start)
    (asks : bound.Asks t ctx.dialect c accepts view start copy) (current : version = bound.version)
    (row : RowAt t c start (view.cell database) (version + 1)) (loaded : CopyOf R t view start version copy)
    (wrote : R.storeVersion t (bound.version + 1) copy = (.ok (), after)) :
    Kept ctx R t c view start first (w.goOn i database none [⟨copy, .ok (.ok 1, after)⟩]) (version + 1) ∧
      Moves R t view w (w.goOn i database none [⟨copy, .ok (.ok 1, after)⟩]) version (version + 1) := by
  subst current
  have shows := RecordType.localVersion_stored setting.versioned.version (setting.holds _) wrote
  have le : bound.version ≤ bound.version + 1 := by
    rw [Int64.le_iff_toInt_le, toInt_add_one asks.hasNext]
    omega
  have settled : (Returned.mk copy (.ok (.ok 1, after))).Settled t bound.version := .won shows rfl
  refine ⟨kept.finish row le ?_ (kept.ledger.win asks.shown settled rfl asks.hasNext),
    .moves _ after asks.hasNext rfl rfl asks.shown rfl shows⟩
  rintro _ member
  obtain rfl := List.mem_singleton.mp member
  exact setting.copyOf_stored returns (loaded.mono le) (Int64.lt_of_lt_of_le asks.positive le) (Int64.le_refl _) wrote

end Kept

theorem Kept.asks {w : World ι B R} {i : ι} {accepts : Option (Column → Bool)} {pending : Option _}
    (setting : Setting ctx R t c view) (kept : Kept ctx R t c view start first w version)
    (loaded : CopyOf R t view start version copy)
    (below : R.localVersion t copy ≠ .ok Int64.maxValue)
    (comes : Comes ctx copy (R.update ctx accepts 0 copy) pending returned) :
    Kept ctx R t c view start first (w.goOn i w.database pending returned) version ∧
      Moves R t view w (w.goOn i w.database pending returned) version version := by
  cases comes with
  | waits sends => exact ⟨kept.wait rfl (.asking accepts loaded below), .stays rfl (by simp [goOn])⟩
  | returns ended =>
    obtain ⟨n, shown, _, _⟩ := loaded.version
    rcases setting.update_cases loaded below with ⟨bound, p, asks⟩ | unbound
    · obtain ⟨_, _, some⟩ := (p.update_run ended).exec asks.sends
      cases some
    · obtain ⟨_, k, e, member, unread, rfl⟩ := unbound ended
      exact kept.finish_lost rfl loaded shown (.unread member unread rfl) rfl

theorem Kept.loads {w : World ι B R} {i : ι} {keys : List Value} {x : Exchange} {database : B.State}
    {outcome : Except Fault (Except Error (Option R.Values))} (setting : Setting ctx R t c view)
    (returns : KeysReturn R t view start) (positive : 0 < first) (kept : Kept ctx R t c view start first w version)
    (counted : keys.length = t.keyColumns.length) (run : Script.Runs ctx (R.get ctx keys) [x] outcome)
    (served : B.Answers none w.database x database) :
    Kept ctx R t c view start first (w.hold i database (loaded outcome)) version ∧
      Moves R t view w (w.hold i database (loaded outcome)) version version := by
  obtain ⟨answer, sent, found⟩ := RecordType.get_run setting.registered setting.keyed setting.noGetHook run
  cases sent
  obtain ⟨same, shows⟩ := setting.honest.get keys w.database answer database counted served
  refine ⟨kept.hold same fun copy member => ?_, .stays same rfl⟩
  obtain rfl : outcome = .ok (.ok (some copy)) := by
    unfold loaded at member
    split at member
    · rw [List.mem_singleton.mp member]
    · exact absurd member List.not_mem_nil
  obtain ⟨row, others, answered, filled⟩ := found copy rfl
  have values := shows _ answered row List.mem_cons_self
  exact setting.copyOf_loaded returns kept.row (Int64.lt_of_lt_of_le positive kept.ledger.le) values filled

/-- Each step keeps what holds, and the row moves by one version at most. -/
theorem Kept.step {w next : World ι B R} (setting : Setting ctx R t c view) (returns : KeysReturn R t view start)
    (positive : 0 < first) (kept : Kept ctx R t c view start first w version) (step : Step ctx t w next) :
    ∃ later, Kept ctx R t c view start first next later ∧ Moves R t view w next version later := by
  cases step with
  | get i idle counted run served => exact ⟨version, kept.loads setting returns positive counted run served⟩
  | edit i held same =>
    refine ⟨version, kept.hold rfl fun copy member => ?_, .stays rfl rfl⟩
    rw [List.mem_singleton.mp member]
    exact ((kept.clients i).copies _ held).edit same
  | update i accepts idle held below comes =>
    exact ⟨version, kept.asks setting ((kept.clients i).copies _ held) below comes⟩
  | send i waiting sends served comes =>
    cases (kept.clients i).pending _ _ waiting with
    | asking accepts loaded below =>
      rcases setting.update_cases loaded below with ⟨bound, p, asks⟩ | unbound
      · -- The row decides with this one statement who has won. What follows cannot change it.
        rcases setting.sends_update p asks kept.row sends served with
          ⟨current, row, after, wrote, ends⟩ | ⟨_, same, loses⟩
        · cases comes with
          | waits more =>
            obtain ⟨_, _, run⟩ := more.exists_run
            cases (ends run).1
          | returns ended =>
            obtain ⟨_, rfl⟩ := ends ended
            exact ⟨_, kept.finish_won setting returns asks current row loaded wrote⟩
        · cases comes with
          | waits more => exact ⟨version, kept.wait same (.lost asks loaded loses), .stays same (by simp [goOn])⟩
          | returns ended =>
            obtain ⟨_, none, _⟩ := loses ended
            cases none
      · obtain ⟨_, _, run⟩ := sends.exists_run
        cases (unbound run).1
    | lost asks loaded loses =>
      -- Others may have moved the row since the update missed it, but its keys are where they were.
      obtain ⟨same, ends⟩ := setting.sends_lookup asks kept.row loses sends served
      cases comes with
      | waits more =>
        obtain ⟨_, _, run⟩ := more.exists_run
        cases (ends run).1
      | returns ended =>
        obtain ⟨_, rfl⟩ := ends ended
        exact ⟨version, kept.finish_lost same loaded asks.shown (.lost asks.keys rfl) rfl⟩

theorem Kept.of_reachable {database : B.State} {w : World ι B R} (setting : Setting ctx R t c view)
    (returns : KeysReturn R t view (view.cell database)) (positive : 0 < first)
    (stored : view.cell database c = .bigInt first) (reached : Reachable ctx t database w) :
    ∃ version, Kept ctx R t c view (view.cell database) first w version := by
  induction reached with
  | start =>
    refine ⟨first, ⟨stored, fun _ _ => rfl⟩, fun i => ⟨fun copy member => ?_, fun copy script waits => ?_⟩, .nil⟩
    · exact absurd member List.not_mem_nil
    · cases waits
  | step reached step ih =>
    obtain ⟨version, kept⟩ := ih
    obtain ⟨later, kept, _⟩ := kept.step setting returns positive step
    exact ⟨later, kept⟩

/-- The updates that changed the row are as many as the versions that it has gained, no two of them were made from one
version, and each left its record with the version that it stored. Every other update returned the conflict, with the
row present and the version of its record, or the error of a field that has no value; it left row and record alone. -/
theorem no_lost_update {database : B.State} {w : World ι B R} (setting : Setting ctx R t c view)
    (returns : KeysReturn R t view (view.cell database)) (positive : 0 < first)
    (stored : view.cell database c = .bigInt first) (reached : Reachable ctx t database w) :
    ∃ version, view.cell w.database c = .bigInt version ∧
      ((wins w.returned).length : Int) = version.toInt - first.toInt ∧
      ((wins w.returned).map fun r => R.localVersion t r.copy).Nodup ∧
      (∀ r ∈ w.returned, ∃ n, R.localVersion t r.copy = .ok n ∧ r.Settled t n) ∧
      ∀ next, Step ctx t w next →
        ∃ later, view.cell next.database c = .bigInt later ∧ Moves R t view w next version later := by
  obtain ⟨version, kept⟩ := Kept.of_reachable setting returns positive stored reached
  refine ⟨version, kept.row.version, kept.ledger.count, kept.ledger.distinct, kept.ledger.settled, fun next step => ?_⟩
  obtain ⟨later, still, moves⟩ := kept.step setting returns positive step
  exact ⟨later, still.row.version, moves⟩

theorem event_keysReturn : KeysReturn eventType events (eventRow events) (eventCells 1) := by
  intro k member
  obtain rfl := List.mem_singleton.mp member
  refine ⟨rfl, fun p content place decoded => ?_⟩
  cases place
  cases decoded
  exact ⟨_, rfl, rfl⟩

def eventFound (t : Table) (version : Int64) : Row :=
  { columns := t.storedColumns.map (·.name), values := t.storedColumns.map (eventCells version) }

theorem load_event {w : World Bool (eventDatabase events) eventType}
    (reached : Reachable eventContext events (eventCells 1) w) (i : Bool) (idle : (w.client i).pending = none)
    (fresh : w.database = eventCells 1) :
    Reachable eventContext events (eventCells 1) (w.hold i (eventCells 1) [event 0 1]) := by
  have run : Script.Runs eventContext (eventType.get eventContext [.bigInt 5])
      [.query (Plan.get events eventContext.dialect).sql [.bigInt 5] (.ok [eventFound events 1])]
      (.ok (.ok (some (event 0 1)))) := Script.runs_query.mpr ⟨.ok [eventFound events 1], [], rfl, rfl, rfl⟩
  exact reached.step (.get i idle rfl run (by rw [fresh]; rfl))

/-- Two clients load an event and update it. The first one stores version 2, and the second one is refused. -/
theorem event_no_lost_update :
    ∃ w : World Bool (eventDatabase events) eventType, Reachable eventContext events (eventCells 1) w ∧
      w.returned.map Returned.won = [true, false] ∧
      ∃ version, w.database eventVersion = .bigInt version ∧ ((wins w.returned).length : Int) = version.toInt - 1 := by
  have first := load_event .start true rfl rfl
  have second := load_event first false rfl rfl
  have winning : Script.Runs eventContext (eventType.update eventContext none 0 (event 0 1))
      [.exec (eventUpdate 1).sql (eventUpdate 1).args (.ok { rowsAffected := 1 })] (.ok (.ok 1, event 0 2)) :=
    ⟨.ok { rowsAffected := 1 }, [], rfl, rfl, rfl⟩
  have losing : Script.Runs eventContext (eventType.update eventContext none 0 (event 0 1))
      [.exec (eventUpdate 1).sql (eventUpdate 1).args (.ok {}),
        .query (Plan.get events eventContext.dialect).sql (eventUpdate 1).keys (.ok [eventFound events 2])]
      (.ok (.error (.optimisticLock
        { tableName := "events", keys := [.bigInt 5], rowExists := true, localVersion := 1 }), event 0 1)) :=
    ⟨.ok {}, _, rfl, Script.runs_query.mpr ⟨.ok [eventFound events 2], [], rfl, rfl, rfl⟩⟩
  have third := second.update_alone (i := true) rfl List.mem_cons_self (by decide) winning ⟨_, rfl, rfl⟩
  have fourth := third.update_alone (i := false) rfl List.mem_cons_self (by decide) losing ⟨_, rfl, _, rfl, rfl⟩
  obtain ⟨version, stored, counted, _⟩ := no_lost_update event_setting event_keysReturn (by decide) rfl fourth
  exact ⟨_, fourth, rfl, version, stored, counted⟩

/-- A client sets a moment that no timestamp can give, and its update fails without a statement. If the key is not
stored, an update of a loaded record does not even find the row. -/
theorem updates_without_conflict :
    (Setting eventContext eventType events eventVersion (eventRow events) ∧
      ∃ w : World Bool (eventDatabase events) eventType, Reachable eventContext events (eventCells 1) w ∧
        ∃ r ∈ w.returned, ∃ e, r.outcome = .ok (.error e, r.copy) ∧ ∀ conflict, e ≠ .optimisticLock conflict) ∧
    Setting hiddenContext eventType hiddenEvents eventVersion (eventRow hiddenEvents) ∧
      ∃ w : World Bool (eventDatabase hiddenEvents) eventType, Reachable hiddenContext hiddenEvents (eventCells 1) w ∧
        ∃ r ∈ w.returned, ∃ conflict, r.outcome = .ok (.error (.optimisticLock conflict), r.copy) ∧
          conflict.rowExists = false := by
  refine ⟨⟨event_setting, ?_⟩, hidden_setting, ?_⟩
  · have loaded := load_event .start true rfl rfl
    have same : SameIdentity eventType events (event 0 1) (event (-9223372036854775808000) 1) := by
      refine ⟨rfl, fun k member => ?_⟩
      obtain rfl := List.mem_singleton.mp member
      rfl
    have edited := loaded.step (.edit true List.mem_cons_self same)
    have failed : Script.Runs eventContext (eventType.update eventContext none 0 (event (-9223372036854775808000) 1)) []
        (.ok (.error (.field "at" (.outOfRange (Instant.text ⟨-9223372036854775808000⟩) "Timestamp")),
          event (-9223372036854775808000) 1)) :=
      ⟨rfl, rfl⟩
    have returned := edited.update_alone (i := true) rfl List.mem_cons_self (by decide) failed rfl
    exact ⟨_, returned, _, List.mem_singleton_self _, _, rfl, nofun⟩
  · have found : Script.Runs hiddenContext (eventType.get hiddenContext [.bigInt 5])
        [.query (Plan.get hiddenEvents eventContext.dialect).sql [.bigInt 5] (.ok [eventFound hiddenEvents 1])]
        (.ok (.ok (some (hiddenEvent 1)))) := Script.runs_query.mpr ⟨.ok [eventFound hiddenEvents 1], [], rfl, rfl, rfl⟩
    have fresh : Reachable (ι := Bool) (B := eventDatabase hiddenEvents) (R := eventType) hiddenContext hiddenEvents
        (eventCells 1) _ := .start
    have loaded := fresh.step (.get true rfl rfl found rfl)
    have losing : Script.Runs hiddenContext (eventType.update hiddenContext none 0 (hiddenEvent 1))
        [.exec (Plan.update hiddenEvents eventContext.dialect fun _ => true).sql
            [.timestamp 0, .bigInt 2, .bigInt 0, .bigInt 1] (.ok {}),
          .query (Plan.get hiddenEvents eventContext.dialect).sql [.bigInt 0] (.ok [])]
        (.ok (.error (.optimisticLock
          { tableName := "events", keys := [.bigInt 0], rowExists := false, localVersion := 1 }), hiddenEvent 1)) :=
      ⟨.ok {}, _, rfl, Script.runs_query.mpr ⟨.ok [], [], rfl, rfl, rfl⟩⟩
    have returned := loaded.update_alone (i := true) rfl List.mem_cons_self (by decide) losing ⟨_, rfl, _, rfl, rfl⟩
    exact ⟨_, returned, _, List.mem_singleton_self _, _, rfl, rfl⟩

end World

end RowMapper
