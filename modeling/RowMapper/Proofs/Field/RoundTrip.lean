import Mathlib.Data.String.Basic
import RowMapper.Field.Codec

/-!
# Values of fields are read back

The value of a field can always be read, and most types read what they wrote. Numbers of single precision are left
aside, moments come back to the microsecond, and an absent field inside an absent one cannot be told from it. The other
way round, a timestamp is read as a moment that is written as the same timestamp, but for the least one.
-/

namespace RowMapper

open Number

namespace Json

variable {α : Type} {members : List (String × α)} {name : String} {value : α}

theorem putMember_append (last : ∀ m ∈ members, m.1 < name) :
    putMember name value members = members ++ [(name, value)] := by
  induction members with
  | nil => rfl
  | cons m rest ih =>
    obtain ⟨n, v⟩ := m
    have before : n < name := last (n, v) List.mem_cons_self
    have differs : name ≠ n := before.ne'
    rw [putMember, if_neg (by simpa using differs), if_neg before.not_gt,
      ih fun m member => last m (List.mem_cons_of_mem _ member)]
    rfl

theorem foldl_putMember (sorted early : List (String × α))
    (increasing : ((early ++ sorted).map (·.1)).Pairwise (· < ·)) :
    sorted.foldl (fun sorted m => putMember m.1 m.2 sorted) early = early ++ sorted := by
  induction sorted generalizing early with
  | nil => exact (List.append_nil early).symm
  | cons m rest ih =>
    have last : ∀ other ∈ early, other.1 < m.1 := by
      intro other member
      rw [List.map_append, List.pairwise_append] at increasing
      exact increasing.2.2 other.1 (List.mem_map_of_mem member) m.1 List.mem_cons_self
    have split : early ++ m :: rest = early ++ [m] ++ rest := by rw [List.append_assoc]; rfl
    rw [List.foldl_cons, putMember_append last, split]
    exact ih (early ++ [m]) (split ▸ increasing)

theorem sortMembers_of_sorted (increasing : (members.map (·.1)).Pairwise (· < ·)) : sortMembers members = members :=
  foldl_putMember members [] increasing

end Json

namespace Value

def integer? : Value → Option Int64
  | tinyInt n => some n.toInt64
  | smallInt n => some n.toInt64
  | int n => some n.toInt64
  | bigInt n => some n
  | _ => none

def isFloat : Value → Bool
  | float _ | double _ => true
  | _ => false

theorem asInt?_of_integer? {v : Value} {n : Int64} (number : v.integer? = some n) : v.asInt? = some n := by
  cases v with
  | tinyInt | smallInt | int | bigInt => exact number
  | null | bool | float | double | text | bytes | timestamp | json => cases number

end Value

namespace IntKind

variable {k : IntKind}

theorem ofInt?_val (n : k.Num) : k.ofInt? n.val = some n := dif_pos ⟨n.min_le, n.le_max⟩

theorem widen_ofInt (n : k.Num) : k.widen (Int64.ofInt n.val) = n.val := by
  obtain ⟨v, least, greatest⟩ := n
  cases k with
  | u64 =>
    have nonnegative : 0 ≤ v := least
    have below : v < UInt64.size := Int.lt_of_le_of_lt greatest (by decide)
    show (Int64.ofInt v).toInt % UInt64.size = v
    rw [Int64.toInt_ofInt, show Int64.size = UInt64.size from rfl, Int.bmod_emod]
    exact Int.emod_eq_of_lt nonnegative below
  | i8 | i16 | i32 | i64 | u8 | u16 | u32 =>
    have above : -2 ^ 63 ≤ v := Int.le_trans (by decide) least
    have below : v < 2 ^ 63 := Int.lt_of_le_of_lt greatest (by decide)
    exact Int64.toInt_ofInt_of_le above below

theorem ofInt_widen (m : Int64) : Int64.ofInt (k.widen m) = m := by
  cases k with
  | u64 =>
    apply Int64.toInt_inj.mp
    show (Int64.ofInt (m.toInt % Int64.size)).toInt = m.toInt
    rw [Int64.toInt_ofInt, Int.emod_bmod, ← Int64.toInt_ofInt, Int64.ofInt_toInt]
  | i8 | i16 | i32 | i64 | u8 | u16 | u32 => exact Int64.ofInt_toInt m

theorem integer?_store (n : k.Num) : (k.store n).integer? = some (Int64.ofInt n.val) := by
  obtain ⟨v, least, greatest⟩ := n
  cases k with
  | i8 => exact congrArg some (Int8.toInt64_ofInt least greatest)
  | i16 => exact congrArg some (Int16.toInt64_ofInt least greatest)
  | u8 =>
    have fits : v ≤ Int16.maxValue.toInt := Int.le_trans greatest (by decide)
    exact congrArg some (Int16.toInt64_ofInt (Int.le_trans (by decide) least) fits)
  | i32 => exact congrArg some (Int32.toInt64_ofInt least greatest)
  | u16 =>
    have fits : v ≤ Int32.maxValue.toInt := Int.le_trans greatest (by decide)
    exact congrArg some (Int32.toInt64_ofInt (Int.le_trans (by decide) least) fits)
  | i64 | u32 | u64 => rfl

theorem load_store (n : k.Num) : k.load (k.store n) = .ok n := by
  simp only [load, Value.asInt?_of_integer? (integer?_store n), widen_ofInt, ofInt?_val]

theorem store_of_load {v : Value} {n : k.Num} {m : Int64} (loaded : k.load v = .ok n) (number : v.asInt? = some m) :
    (k.store n).integer? = some m := by
  have fits : k.ofInt? (k.widen m) = some n := by
    simp only [load, number] at loaded
    split at loaded
    · cases loaded
      assumption
    · cases loaded
  have same : n.val = k.widen m := by
    unfold ofInt? at fits
    split at fits
    · cases fits
      rfl
    · cases fits
  rw [integer?_store, same, ofInt_widen]

end IntKind

theorem jsonInt?_toInt (n : Int64) : jsonInt? (.integer n.toInt) = some n := by
  have inRange : Int64.minValue.toInt ≤ n.toInt ∧ n.toInt ≤ Int64.maxValue.toInt := ⟨n.le_toInt, n.toInt_le⟩
  simp only [jsonInt?, if_pos inRange, Int64.ofInt_toInt]

theorem mapM_map_eq_some {α β : Type} {f : β → Option α} {g : α → β} (inverse : ∀ a, f (g a) = some a) (l : List α) :
    (l.map g).mapM f = some l := by
  induction l with
  | nil => rfl
  | cons a rest ih => rw [List.map_cons, List.mapM_cons, inverse, ih]; rfl

theorem loadShaped_json {α : Type} {shape? : Json → Option α} {j : Json} {a : α} (shaped : shape? j = some a) :
    loadShaped shape? (.json j) = .ok a := by
  have read : loadJson "Json" (.json j) = .ok j := rfl
  rw [loadShaped, read]
  simp only [bind, Except.bind, shaped]

theorem Instant.toMicros?_eq_some {t : Instant} {n : Int64} :
    t.toMicros? = some n ↔ 2 * (t.nanos.tdiv 1000).natAbs < UInt64.size ∧ Int64.ofInt (t.nanos.tdiv 1000) = n := by
  unfold toMicros?
  dsimp only
  split
  · rename_i bounded
    rw [Option.some_inj]
    exact ⟨fun same => ⟨bounded, same⟩, fun h => h.2⟩
  · rename_i unbounded
    exact ⟨nofun, fun h => absurd h.1 unbounded⟩

theorem Instant.ofMicros_toMicros? {t : Instant} {n : Int64} (whole : 1000 ∣ t.nanos) (fits : t.toMicros? = some n) :
    Instant.ofMicros n = t := by
  obtain ⟨nanos⟩ := t
  obtain ⟨micros, rfl⟩ := whole
  obtain ⟨bounded, rfl⟩ := toMicros?_eq_some.mp fits
  rw [Int.mul_tdiv_cancel_left _ (by decide)] at bounded ⊢
  have size : UInt64.size = 2 ^ 64 := rfl
  unfold ofMicros
  rw [Int64.toInt_ofInt_of_le (by omega) (by omega), Int.mul_comm]

theorem Instant.toMicros?_ofMicros (n : Int64) :
    (ofMicros n).toMicros? = if n = Int64.minValue then none else some n := by
  have least := n.le_toInt
  have greatest := n.toInt_lt
  have bottom : Int64.minValue.toInt = -2 ^ 63 := rfl
  have size : UInt64.size = 2 ^ 64 := rfl
  split
  · rename_i lowest
    subst lowest
    rfl
  · rename_i higher
    have above : n.toInt ≠ Int64.minValue.toInt := fun same => higher (Int64.toInt_inj.mp same)
    rw [toMicros?_eq_some]
    unfold ofMicros
    rw [Int.mul_tdiv_cancel _ (by decide)]
    exact ⟨by omega, Int64.ofInt_toInt n⟩

namespace NativeType

variable {t : NativeType} {v : Value}

/-- The contents that a field reads back from their values. -/
def Exact : (t : NativeType) → t.Carrier → Prop
  | single, _ => False
  | instant, moment => 1000 ∣ Instant.nanos moment
  | intMap, members => (List.map Prod.fst members).Pairwise (· < ·)
  | option t, some x => t.nullable = false ∧ t.Exact x
  | option _, none => True
  | bool, _ | int _, _ | double, _ | text, _ | bytes, _ | document, _ | textList, _ | intList, _ => True

theorem isNull_of_encode {x : t.Carrier} (required : t.nullable = false) (encoded : t.encode x = .ok v) :
    v.isNull = false := by
  cases t with
  | option t => cases required
  | int k =>
    cases encoded
    cases k <;> rfl
  | instant =>
    simp only [encode] at encoded
    split at encoded
    · cases encoded
      rfl
    · cases encoded
  | bool | single | double | text | bytes | document | textList | intList | intMap =>
    cases encoded
    rfl

theorem decode_textList (l : List String) : textList.decode (.json (.array (l.map Json.string))) = .ok l :=
  loadShaped_json (mapM_map_eq_some (f := jsonText?) (fun _ => rfl) l)

theorem decode_intList (l : List Int64) :
    intList.decode (.json (.array (l.map fun n => .integer n.toInt))) = .ok l :=
  loadShaped_json (mapM_map_eq_some jsonInt?_toInt l)

theorem decode_intMap (l : List (String × Int64)) :
    intMap.decode (.json (.object (l.map fun m => (m.1, .integer m.2.toInt)))) = .ok (Json.sortMembers l) := by
  have each (m : String × Int64) : (jsonInt? (.integer m.2.toInt)).map (m.1, ·) = some m := by
    rw [jsonInt?_toInt]
    rfl
  exact loadShaped_json (congrArg (Option.map Json.sortMembers)
    (mapM_map_eq_some (f := fun m : String × Json => (jsonInt? m.2).map (m.1, ·)) each l))

/-- The value of a field can be read, and what is read is the content if that is exact. -/
theorem decode_of_encode {x : t.Carrier} (encoded : t.encode x = .ok v) :
    ∃ y, t.decode v = .ok y ∧ (t.Exact x → y = x) := by
  induction t generalizing v with
  | int k =>
    cases encoded
    exact ⟨x, IntKind.load_store x, fun _ => rfl⟩
  | single =>
    cases encoded
    exact ⟨_, rfl, False.elim⟩
  | bool | double | text | bytes | document =>
    cases encoded
    exact ⟨x, rfl, fun _ => rfl⟩
  | instant =>
    cases fits : Instant.toMicros? x with
    | none =>
      simp only [encode, fits] at encoded
      cases encoded
    | some n =>
      simp only [encode, fits] at encoded
      cases encoded
      exact ⟨.ofMicros n, rfl, fun whole => Instant.ofMicros_toMicros? whole fits⟩
  | textList =>
    cases encoded
    exact ⟨x, decode_textList x, fun _ => rfl⟩
  | intList =>
    cases encoded
    exact ⟨x, decode_intList x, fun _ => rfl⟩
  | intMap =>
    cases encoded
    exact ⟨_, decode_intMap x, Json.sortMembers_of_sorted⟩
  | option t ih =>
    cases x with
    | none =>
      cases encoded
      exact ⟨none, rfl, fun _ => rfl⟩
    | some x =>
      replace encoded : t.encode x = .ok v := encoded
      cases absent : v.isNull with
      | true =>
        refine ⟨none, if_pos absent, fun exact => ?_⟩
        rw [isNull_of_encode exact.1 encoded] at absent
        cases absent
      | false =>
        obtain ⟨y, decoded, same⟩ := ih encoded
        refine ⟨some y, ?_, fun exact => congrArg some (same exact.2)⟩
        simp only [decode, absent, decoded]
        rfl

/-- What a field shows after the first version was written into it. -/
theorem encode_of_first {x : t.Carrier} (decoded : t.decode (.bigInt 1) = .ok x) :
    ∃ v, t.encode x = .ok v ∧ (v.isFloat = true ∨ v.integer? = some 1 ∨ v = .bool true ∨ v = .timestamp 1) := by
  induction t with
  | bool =>
    cases decoded
    exact ⟨_, rfl, .inr (.inr (.inl rfl))⟩
  | int k => exact ⟨_, rfl, .inr (.inl (IntKind.store_of_load decoded rfl))⟩
  | single | double => exact ⟨_, rfl, .inl rfl⟩
  | instant =>
    cases decoded
    exact ⟨_, rfl, .inr (.inr (.inr rfl))⟩
  | text | bytes | document | textList | intList | intMap => cases decoded
  | option t ih =>
    cases known : t.decode (.bigInt 1) with
    | error e => simp [decode, known, Value.isNull, Except.map] at decoded
    | ok y =>
      simp only [decode, known] at decoded
      cases decoded
      exact ih known

/-- Every timestamp is read as a moment, and the moment is written as that timestamp unless it is the least one: its
distance from the epoch is more than a moment is written with. -/
theorem timestamp_again (n : Int64) :
    ∃ moment, instant.decode (.timestamp n) = .ok moment ∧
      instant.encode moment =
        if n = Int64.minValue then .error (.outOfRange (Instant.text moment) "Timestamp") else .ok (.timestamp n) := by
  refine ⟨.ofMicros n, rfl, ?_⟩
  by_cases lowest : n = Int64.minValue
  · subst lowest
    rfl
  · simp only [encode, Instant.toMicros?_ofMicros, if_neg lowest]

theorem least_timestamp_refused :
    ¬∃ moment, instant.decode (.timestamp Int64.minValue) = .ok moment ∧
      instant.encode moment = .ok (.timestamp Int64.minValue) := by
  rintro ⟨moment, decoded, encoded⟩
  cases decoded
  have refused : instant.encode (.ofMicros Int64.minValue) =
      .error (.outOfRange (Instant.text (.ofMicros Int64.minValue)) "Timestamp") := rfl
  rw [refused] at encoded
  cases encoded

example : Instant.text (.ofMicros Int64.minValue) =
    "SystemTime \x7b tv_sec: -9223372036855, tv_nsec: 224192000 \x7d" := by
  decide +kernel

end NativeType

end RowMapper
