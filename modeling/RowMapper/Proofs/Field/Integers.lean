import RowMapper.Proofs.Field.RoundTrip
import RowMapper.Proofs.Number.Spelled

/-!
# Integers from values

Which integer a value stands for, and what each of the integer types makes of it.
-/

namespace RowMapper

open Number

namespace Value

/-- The integer of a value: what a boolean, an integer or a timestamp holds, and what a text spells with white space
around it, provided that 64 bits with a sign hold it. -/
inductive Denotes : Value → Int → Prop where
  | bool (b : Bool) : Denotes (.bool b) (if b then 1 else 0)
  | tinyInt (n : Int8) : Denotes (.tinyInt n) n.toInt
  | smallInt (n : Int16) : Denotes (.smallInt n) n.toInt
  | int (n : Int32) : Denotes (.int n) n.toInt
  | bigInt (n : Int64) : Denotes (.bigInt n) n.toInt
  | timestamp (micros : Int64) : Denotes (.timestamp micros) micros.toInt
  | text {s : String} {n : Int} {before body after : List Char} (parts : s.toList = before ++ body ++ after)
      (blankBefore : ∀ c ∈ before, Text.isBlank c = true) (spelled : Spells body n)
      (blankAfter : ∀ c ∈ after, Text.isBlank c = true) (least : Int64.minValue.toInt ≤ n)
      (greatest : n ≤ Int64.maxValue.toInt) : Denotes (.text s) n

variable {v : Value} {s : String} {n : Int} {m : Int64}

theorem denotes_of_parseInt64? (read : parseInt64? s = some m) : Denotes (.text s) m.toInt := by
  unfold parseInt64? at read
  split at read
  · rename_i n spelled
    split at read
    · rename_i fits
      cases read
      obtain ⟨before, body, after, parts, spelled, blankBefore, blankAfter⟩ := Text.integer?_trimBlank.mp spelled
      rw [Int64.toInt_ofInt_of_le fits.1 (Int.lt_of_le_of_lt fits.2 (by decide))]
      exact .text parts blankBefore spelled blankAfter fits.1 fits.2
    · cases read
  · cases read

theorem denotes_of_asInt? (number : v.asInt? = some m) : v.Denotes m.toInt := by
  cases v with
  | bool b =>
    cases number
    cases b with
    | false => exact .bool false
    | true => exact .bool true
  | tinyInt n =>
    cases number
    rw [Int8.toInt_toInt64]
    exact .tinyInt n
  | smallInt n =>
    cases number
    rw [Int16.toInt_toInt64]
    exact .smallInt n
  | int n =>
    cases number
    rw [Int32.toInt_toInt64]
    exact .int n
  | bigInt n =>
    cases number
    exact .bigInt _
  | timestamp n =>
    cases number
    exact .timestamp _
  | text s => exact denotes_of_parseInt64? number
  | null | float | double | bytes | json => cases number

theorem Denotes.asInt? (denotes : v.Denotes n) : ∃ m, v.asInt? = some m ∧ m.toInt = n := by
  cases denotes with
  | bool b =>
    cases b with
    | false => exact ⟨0, rfl, rfl⟩
    | true => exact ⟨1, rfl, rfl⟩
  | tinyInt n => exact ⟨_, rfl, n.toInt_toInt64⟩
  | smallInt n => exact ⟨_, rfl, n.toInt_toInt64⟩
  | int n => exact ⟨_, rfl, n.toInt_toInt64⟩
  | bigInt n => exact ⟨n, rfl, rfl⟩
  | timestamp n => exact ⟨n, rfl, rfl⟩
  | text parts blankBefore spelled blankAfter least greatest =>
    have read := Text.integer?_trimBlank.mpr ⟨_, _, _, parts, spelled, blankBefore, blankAfter⟩
    refine ⟨Int64.ofInt n, ?_, Int64.toInt_ofInt_of_le least (Int.lt_of_le_of_lt greatest (by decide))⟩
    show parseInt64? _ = _
    unfold parseInt64?
    rw [read]
    exact if_pos ⟨least, greatest⟩

theorem isNull_of_ne_null (present : v ≠ .null) : v.isNull = false := by
  cases v with
  | null => exact (present rfl).elim
  | bool | tinyInt | smallInt | int | bigInt | float | double | text | bytes | timestamp | json => rfl

end Value

namespace IntKind

variable {k : IntKind} {v : Value} {r : Except ValueError k.Num}

/-- What an integer type makes of a value. -/
inductive Decodes (k : IntKind) (v : Value) : Except ValueError k.Num → Prop where
  | fits {n : k.Num} (denotes : v.Denotes n.val) : Decodes k v (.ok n)
  | outside {n : Int} (denotes : v.Denotes n) (unfit : n < k.min ∨ k.max < n) :
      Decodes k v (.error (.outOfRange (integerText n) k.name))
  | absent (null : v = .null) : Decodes k v (.error (.unexpectedNull k.name))
  | other (present : v ≠ .null) (nothing : ∀ n, ¬v.Denotes n) :
      Decodes k v (.error (.typeMismatch k.name v.typeName))

/-- All kinds but the widest without a sign take integers as they are. -/
theorem widen_of_ne (narrow : k ≠ .u64) (m : Int64) : k.widen m = m.toInt := by
  cases k with
  | u64 => exact (narrow rfl).elim
  | i8 | i16 | i32 | i64 | u8 | u16 | u32 => rfl

theorem load_of_decodes (narrow : k ≠ .u64) (decodes : k.Decodes v r) : k.load v = r := by
  unfold load
  cases decodes with
  | fits denotes =>
    obtain ⟨m, known, whole⟩ := denotes.asInt?
    simp only [known, widen_of_ne narrow, whole, ofInt?_val]
  | outside denotes unfit =>
    obtain ⟨m, known, rfl⟩ := denotes.asInt?
    have refused : k.ofInt? m.toInt = none := dif_neg (by omega)
    simp only [known, widen_of_ne narrow, refused]
  | absent null =>
    subst null
    rfl
  | other present nothing =>
    have unknown : v.asInt? = none := by
      rw [Option.eq_none_iff_forall_ne_some]
      intro m known
      exact nothing m.toInt (Value.denotes_of_asInt? known)
    simp only [unknown, mismatch, Value.isNull_of_ne_null present]
    rfl

theorem decodes_load (narrow : k ≠ .u64) (v : Value) : k.Decodes v (k.load v) := by
  unfold load
  cases number : v.asInt? with
  | some m =>
    have denotes := Value.denotes_of_asInt? number
    by_cases fits : k.min ≤ m.toInt ∧ m.toInt ≤ k.max
    · simp only [widen_of_ne narrow, ofInt?, dif_pos fits]
      exact .fits denotes
    · simp only [widen_of_ne narrow, ofInt?, dif_neg fits]
      exact .outside denotes (by omega)
  | none =>
    have nothing (n : Int) : ¬v.Denotes n := by
      intro denotes
      obtain ⟨m, known, _⟩ := denotes.asInt?
      rw [number] at known
      cases known
    by_cases null : v = .null
    · subst null
      exact .absent rfl
    · simp only [mismatch, Value.isNull_of_ne_null null]
      exact .other null nothing

theorem load_eq_iff (narrow : k ≠ .u64) : k.load v = r ↔ k.Decodes v r := by
  constructor
  · rintro rfl
    exact decodes_load narrow v
  · intro decodes
    exact load_of_decodes narrow decodes

end IntKind

/-- Integer types up to 64 bits with a sign take exactly the integers in their range, an absent field aside. -/
theorem NativeType.decode_int_iff {k : IntKind} (narrow : k ≠ .u64) (v : Value) :
    (∀ r, (int k).decode v = r ↔ k.Decodes v r) ∧
      ∀ r : Except ValueError (Option k.Num), (option (int k)).decode v = r ↔
        (v = .null ∧ r = .ok none) ∨ (v ≠ .null ∧ ∃ answer, k.Decodes v answer ∧ r = answer.map some) := by
  have required (r : Except ValueError k.Num) : (int k).decode v = r ↔ k.Decodes v r := IntKind.load_eq_iff narrow
  refine ⟨required, fun r => ?_⟩
  by_cases absent : v = .null
  · subst absent
    have empty : (option (int k)).decode .null = .ok none := rfl
    rw [empty]
    constructor
    · intro same
      exact .inl ⟨rfl, same.symm⟩
    · rintro (⟨-, same⟩ | ⟨present, -⟩)
      · exact same.symm
      · exact (present rfl).elim
  · have inner : (option (int k)).decode v = ((int k).decode v).map some := by
      refine if_neg ?_
      rw [Value.isNull_of_ne_null absent]
      nofun
    rw [inner]
    constructor
    · intro same
      exact .inr ⟨absent, _, (required _).mp rfl, same.symm⟩
    · rintro (⟨null, -⟩ | ⟨-, answer, decodes, rfl⟩)
      · exact (absent null).elim
      · exact congrArg (Except.map some) ((required answer).mpr decodes)

/-- The number 300 between white space is too large for one byte and fits in two. -/
theorem NativeType.decode_int_spaced :
    (int .i8).decode (.text "\u3000+0300\n") = .error (.outOfRange "300" "i8") ∧
      (option (int .u16)).decode (.text "\u3000+0300\n") = .ok (some ⟨300, by decide, by decide⟩) := by
  have spelled : Spells "+0300".toList 300 :=
    .plus (n := 300) ⟨by decide, List.all_eq_true.mp rfl, by decide⟩
  have denotes : Value.Denotes (.text "\u3000+0300\n") 300 :=
    @Value.Denotes.text _ _ ['\u3000'] _ ['\n'] rfl (List.forall_mem_singleton.mpr rfl) spelled
      (List.forall_mem_singleton.mpr rfl) (by decide) (by decide)
  constructor
  · exact ((decode_int_iff (k := .i8) nofun _).1 _).mpr (.outside denotes (.inr (by decide)))
  · exact ((decode_int_iff (k := .u16) nofun _).2 _).mpr (.inr ⟨nofun, _, .fits denotes, rfl⟩)

end RowMapper
