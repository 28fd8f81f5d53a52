import RowMapper.Proofs.Crud.StaleWrite
import RowMapper.Proofs.Crud.Version
import RowMapper.Proofs.Field.Integers

/-!
# Versions that are full

The next version of a record is a number of 64 bits, whatever type the version has. A type that has no such number
refuses it, but only after the update that sets it was executed.
-/

namespace RowMapper

open Number

namespace IntKind

variable {k : IntKind} {n : k.Num}

/-- The greatest number of its kind, if 64 bits with a sign hold the next one. -/
def Num.Full (n : k.Num) : Prop := n.val = k.max ∧ k.max < Int64.maxValue.toInt

theorem Num.Full.narrow (full : n.Full) : k ≠ .u64 := by
  rintro rfl
  exact absurd full.2 (by decide)

theorem Num.Full.pos (full : n.Full) : 0 < Int64.ofInt n.val := by
  have positive : 0 < k.max := by cases k <;> decide
  exact (store_pos_iff n).mpr ⟨full.1 ▸ positive, full.1 ▸ Int.le_of_lt full.2⟩

theorem toInt_ofInt_val (narrow : k ≠ .u64) (n : k.Num) : (Int64.ofInt n.val).toInt = n.val := by
  rw [← widen_of_ne narrow, widen_ofInt]

theorem Num.Full.hasNext (full : n.Full) : Int64.ofInt n.val ≠ Int64.maxValue := by
  intro greatest
  have shown := toInt_ofInt_val full.narrow n
  rw [greatest, full.1] at shown
  exact absurd shown (Int.ne_of_gt full.2)

theorem Num.Full.load_next (full : n.Full) :
    k.load (.bigInt (Int64.ofInt n.val + 1)) = .error (.outOfRange (integerText (n.val + 1)) k.name) := by
  have next : (Int64.ofInt n.val + 1).toInt = n.val + 1 := by
    rw [toInt_add_one full.hasNext, toInt_ofInt_val full.narrow]
  have above : k.max < n.val + 1 := full.1 ▸ Int.lt_succ k.max
  refine load_of_decodes full.narrow (.outside ?_ (.inr above))
  rw [← next]
  exact .bigInt _

theorem load_u64 (m : Int64) : ∃ n, IntKind.u64.load (.bigInt m) = .ok n := by
  have size : 0 < (UInt64.size : Int) := by decide
  have least : 0 ≤ m.toInt % UInt64.size := Int.emod_nonneg _ size.ne'
  have greatest : m.toInt % UInt64.size ≤ UInt64.size - 1 := Int.le_sub_one_of_lt (Int.emod_lt_of_pos _ size)
  have fits : IntKind.u64.ofInt? (m.toInt % UInt64.size) = some ⟨_, least, greatest⟩ := dif_pos ⟨least, greatest⟩
  refine ⟨⟨_, least, greatest⟩, ?_⟩
  simp only [load, Value.asInt?, widen, fits]

theorem load_next (hasNext : Int64.ofInt n.val ≠ Int64.maxValue) (room : ¬n.Full) :
    ∃ next, k.load (.bigInt (Int64.ofInt n.val + 1)) = .ok next := by
  by_cases narrow : k = .u64
  · subst narrow
    exact load_u64 _
  · have shown := toInt_ofInt_val narrow n
    have next : (Int64.ofInt n.val + 1).toInt = n.val + 1 := by rw [toInt_add_one hasNext, shown]
    have below : n.val < Int64.maxValue.toInt := by
      have atMost := (Int64.ofInt n.val).toInt_le
      have differs : n.val ≠ Int64.maxValue.toInt := fun same => hasNext (Int64.toInt_inj.mp (shown.trans same))
      omega
    have least := n.min_le
    have greatest := n.le_max
    have fits : n.val + 1 ≤ k.max := by
      by_contra outside
      exact room ⟨by omega, by omega⟩
    refine ⟨⟨n.val + 1, by omega, fits⟩, load_of_decodes narrow (.fits ?_)⟩
    show Value.Denotes _ (n.val + 1)
    rw [← next]
    exact .bigInt _

end IntKind

namespace RecordType

variable {R : RecordType} {ctx : Context} {t : Table} {c : Column} {k : IntKind} {p : Place R.fields} {path : String}
  {before mid after : R.Values}

/-- A field of an integer type can always be read. -/
theorem read_int (located : R.place path = .ok p) (integer : p.leaf.type = .int k) (v : R.Values) :
    ∃ n : k.Num, R.read path v = .ok (k.store n) := by
  have encodes {type : NativeType} (same : type = .int k) (x : type.Carrier) :
      ∃ n : k.Num, type.encode x = .ok (k.store n) := by
    subst same
    exact ⟨x, rfl⟩
  obtain ⟨n, encoded⟩ := encodes integer (p.leaf.get v)
  exact ⟨n, read_eq_ok.mpr ⟨p, located, encoded⟩⟩

theorem write_int_failed {x : Value} {cause : ValueError} (located : R.place path = .ok p)
    (integer : p.leaf.type = .int k) (refused : k.load x = .error cause) :
    R.write path x before = .error (.field p.shownPath cause) := by
  have decodes {type : NativeType} (same : type = .int k) : type.decode x = .error cause := by
    subst same
    exact refused
  rw [write_of_place located, Place.write, decodes integer]
  rfl

theorem storeVersion_refused {version : Int64} {cause : ValueError} (versioned : t.versionColumn? = some c)
    (located : R.place c.path = .ok p) (integer : p.leaf.type = .int k)
    (refused : k.load (.bigInt version) = .error cause) :
    R.storeVersion t version before = (.error (.field p.shownPath cause), before) := by
  rw [storeVersion_of_column versioned, writeField, write_int_failed located integer refused]

theorem holdsVersion_of_load {version : Int64} {n : k.Num} (located : R.place path = .ok p)
    (integer : p.leaf.type = .int k) (loaded : k.load (.bigInt version) = .ok n) : R.HoldsVersion path version :=
  ⟨p, located, integer ▸ NativeType.int_holds loaded⟩

theorem localVersion_int {n : k.Num} (versioned : t.versionColumn? = some c)
    (shown : R.read c.path before = .ok (k.store n)) : R.localVersion t before = .ok (Int64.ofInt n.val) := by
  rw [localVersion_of_column versioned, shown, Except.map, Value.asInt?_of_integer? (IntKind.integer?_store n)]
  rfl

/-- Of the updates that hit a row, those of a full version are refused by its type, and no others. By then the row has
the next version, and the record stays behind. A full version whose update hit no row is a conflict like any other. -/
theorem full_version {accepts : Option (Column → Bool)} {count : Nat} {early late : List Exchange} {first : Exchange}
    {outcome : Except Fault (Except Error Nat × R.Values)} (registered : ctx.table? R.typeName = some t)
    (maps : R.Maps t) (versioned : t.versionColumn? = some c) (located : R.place c.path = .ok p)
    (integer : p.leaf.type = .int k)
    (hook : Script.Runs ctx (R.hooks .preUpdate ctx before) early (.ok (.ok (), mid)))
    (sends : ((Write.update accepts).plan t ctx.dialect).sql ≠ "")
    (run : Script.Runs ctx (R.update ctx accepts count before) (early ++ first :: late) outcome) :
    ∃ (n : k.Num) (bound : Bound) (after : R.Values),
      R.read c.path mid = .ok (k.store n) ∧ bound.version = Int64.ofInt n.val ∧
      R.Prepared ctx (.update accepts) before t early mid bound after ∧ bound.IsSentBy first ∧
      (c.primaryKey = false → c.isTransient = false →
        (t.assigned (accepts.getD fun _ => true) first.args).lookup c = some (.bigInt (bound.version + 1))) ∧
      (n.Full → 1 ≤ first.touched → late = [] ∧
        outcome = .ok (.error (.field p.shownPath (.outOfRange (integerText (n.val + 1)) k.name)), mid)) ∧
      (n.Full → first.touched = 0 → first.refusal? = none → ∃ lookup,
        late = [.query (Plan.get t ctx.dialect).sql bound.keys lookup] ∧
          outcome = (t.refusal bound lookup).map fun e => (.error e, mid)) ∧
      (¬n.Full → 1 ≤ first.touched →
        (bound.version = Int64.maxValue ∨ UInt64.size ≤ count + first.touched) ∧ outcome = .error .overflow ∨
          ∃ stored, R.localVersion t stored = .ok (bound.version + 1) ∧
            Script.Runs ctx
              ((R.hooks (Write.update accepts).postHook ctx >>= fun _ =>
                (return count + first.touched : Step R.Values Nat)) stored) late outcome) := by
  obtain ⟨n, shown⟩ := read_int located integer mid
  obtain ⟨bound, after, prepared⟩ := prepared_of_goes_on (w := .update accepts) registered hook run
  have updates := prepared.update_run run
  have text : bound.sql ≠ "" := prepared.binds.sql ▸ sends
  have version : bound.version = Int64.ofInt n.val :=
    Except.ok.inj (prepared.binds.version.symm.trans (localVersion_int versioned shown))
  have sent : bound.IsSentBy first := by
    obtain ⟨_, _, same⟩ := updates.exec text
    cases same
    exact ⟨rfl, rfl⟩
  -- Binding leaves a record with a version as the hook made it.
  have kept (full : n.Full) : after = mid := by
    have nonzero : bound.version ≠ 0 := version ▸ (Int64.ne_of_lt full.pos).symm
    exact (touched_of_version nonzero).mp prepared.binds.touched
  refine ⟨n, bound, after, shown, version, prepared, sent, ?_, ?_, ?_, ?_⟩
  · intro notKey stays
    rw [sent.2]
    exact (prepared.stores_next maps ⟨versioned, notKey, stays⟩).2.2
  · intro full hit
    have refused : R.storeVersion t (Int64.ofInt n.val + 1) after = _ :=
      storeVersion_refused versioned located integer full.load_next
    obtain ⟨_, ⟨greatest, _⟩ | ⟨_, ended⟩⟩ := updates.hit text hit
    · exact absurd (version ▸ greatest) full.hasNext
    · rw [version, refused, kept full] at ended
      exact ended
  · intro full untouched answered
    have positive : 0 < bound.version := version ▸ full.pos
    obtain ⟨lookup, found, ended⟩ :=
      updates.missed text (Table.version_isSome versioned) positive untouched answered
    rw [kept full] at ended
    exact ⟨lookup, found, ended⟩
  · intro room hit
    obtain ⟨_, ⟨greatest, _, overflows⟩ | ⟨hasNext, ended⟩⟩ := updates.hit text hit
    · exact .inl ⟨.inl greatest, overflows⟩
    · obtain ⟨next, loaded⟩ := IntKind.load_next (version ▸ hasNext) room
      have holds := holdsVersion_of_load located integer (version ▸ loaded)
      obtain ⟨stored, wrote⟩ : ∃ stored, R.storeVersion t (bound.version + 1) after = (.ok (), stored) :=
        storeVersion_of_holds versioned holds
      rw [wrote] at ended
      rcases ended with ⟨many, overflows⟩ | goesOn
      · exact .inl ⟨.inr many, overflows⟩
      · exact .inr ⟨stored, localVersion_stored versioned holds wrote, goesOn⟩

end RecordType

def draftType : RecordType where
  typeName := "Draft"
  recordName := "Draft"
  tableName := "drafts"
  fields := .column "id" none (.int .i64) (.column "note" none .text (.column "version" none (.int .u8) .nil))

def drafts : Table :=
  ((Table.ofFields "Draft" "drafts" none draftType.fields).setKeys false ["id"]).toOption.getD
    (.ofFields "Draft" "drafts" none draftType.fields)

theorem draftType_maps : draftType.Maps drafts := by
  have registered : draftType.Maps (Table.ofFields "Draft" "drafts" none draftType.fields) := .registered "drafts" none
  have change : (Table.ofFields "Draft" "drafts" none draftType.fields).change (.keys false ["id"]) =
      .ok { table := drafts } := rfl
  exact registered.changed change

def draftContext : Context := { dialect := .sqlite "" false, converter := {}, tables := [drafts] }

def draftVersion : Column :=
  { name := "version", fieldName := "version", path := "version", type := .uint8, nullable := false,
    declaredTransient := false, isTransient := false, unique := false, notNull := false, maxSize := 0,
    primaryKey := false, autoIncrement := false }

def draft (version : IntKind.u8.Num) : draftType.Values := (⟨1, by decide, by decide⟩, "", version, ())

def fullDraft : draftType.Values := draft ⟨255, by decide, by decide⟩

def fullDraftUpdate : Exchange :=
  .exec (Plan.update drafts draftContext.dialect fun _ => true).sql [.text "", .bigInt 256, .bigInt 1, .bigInt 255]
    (.ok { rowsAffected := 1 })

theorem fullDraft_update : Script.Runs draftContext (draftType.update draftContext none 0 fullDraft) [fullDraftUpdate]
    (.ok (.error (.field "version" (.outOfRange "256" "u8")), fullDraft)) := ⟨_, [], rfl, rfl, rfl⟩

/-- The update of a draft with version 255 sets 256, which the record then refuses. -/
theorem draft_full_version :
    ∃ bound : Bound, bound.version = 255 ∧ bound.IsSentBy fullDraftUpdate ∧
      (drafts.assigned (fun _ => true) fullDraftUpdate.args).lookup draftVersion =
        some (.bigInt (bound.version + 1)) := by
  have hook : Script.Runs draftContext (draftType.hooks .preUpdate draftContext fullDraft) []
      (.ok (.ok (), fullDraft)) := ⟨rfl, rfl⟩
  have sends : ((Write.update none).plan drafts draftContext.dialect).sql ≠ "" := Plan.update_sql_ne_empty (by decide)
  obtain ⟨n, bound, after, _, _, prepared, sent, assigns, _⟩ :=
    RecordType.full_version (c := draftVersion) rfl draftType_maps rfl rfl rfl hook sends fullDraft_update
  have version : bound.version = 255 := Except.ok.inj prepared.binds.version.symm
  exact ⟨bound, version, sent, assigns rfl rfl⟩

/-- The row of that draft has version 256 although the call reports that 256 is out of range. -/
theorem full_draft_written :
    Script.Runs draftContext (draftType.update draftContext none 0 fullDraft) [fullDraftUpdate]
      (.ok (.error (.field "version" (.outOfRange "256" "u8")), fullDraft)) ∧
    fullDraftUpdate.touched = 1 ∧
    (drafts.assigned (fun _ => true) fullDraftUpdate.args).lookup draftVersion = some (.bigInt 256) :=
  ⟨fullDraft_update, rfl, rfl⟩

end RowMapper
