import RowMapper.Proofs.Field.Integers
import RowMapper.Proofs.Json.Number

/-!
# Integers delivered as text

A database that delivers the integers of a column as text spells the numbers that the column holds. A column holds 64
bits with a sign, and every integer type reads its contents back from what such a column spells.
-/

namespace RowMapper

namespace Number

theorem ofDigits_toDigits (n : Nat) : ofDigits (Nat.toDigits 10 n) = n := by
  induction n using Nat.strongRecOn with
  | ind n ih =>
    by_cases small : n < 10
    · rw [Nat.toDigits_of_lt_base small, ← List.nil_append [Nat.digitChar n], ofDigits_append,
        digit?_digitChar n small]
      exact Nat.zero_add n
    · have large : 10 ≤ n := Nat.le_of_not_lt small
      rw [Nat.toDigits_of_base_le (by decide) large, ofDigits_append,
        digit?_digitChar (n % 10) (Nat.mod_lt n (by decide)), ih (n / 10) (Nat.div_lt_self (by omega) (by decide))]
      exact Nat.div_add_mod n 10

theorem positional_toDigits (n : Nat) : Positional (Nat.toDigits 10 n) n where
  nonempty := Nat.toDigits_ne_nil
  decimal _ member := toDigits_digits member
  value := (ofDigits_eq fun _ member => toDigits_digits member).trans (ofDigits_toDigits n)

theorem spells_integerText (n : Int) : Spells (integerText n).toList n := by
  unfold integerText
  rw [String.toList_ofList]
  by_cases negative : n < 0
  · have signed := Spells.minus (positional_toDigits n.natAbs)
    rw [show -(n.natAbs : Int) = n by omega] at signed
    rwa [if_pos negative]
  · have plain := Spells.plain (positional_toDigits n.natAbs)
    rw [show (n.natAbs : Int) = n by omega] at plain
    rwa [if_neg negative, List.nil_append]

end Number

open Number

/-- Text that delivers an integer: it spells it, white space around it aside. -/
def Text.Delivers (s : String) (n : Int) : Prop :=
  ∃ before body after, s.toList = before ++ body ++ after ∧ Spells body n ∧ (∀ c ∈ before, isBlank c = true) ∧
    ∀ c ∈ after, isBlank c = true

theorem Text.delivers_integerText {before after : List Char} (blankBefore : ∀ c ∈ before, isBlank c = true)
    (blankAfter : ∀ c ∈ after, isBlank c = true) (n : Int) :
    Delivers (String.ofList (before ++ (integerText n).toList ++ after)) n :=
  ⟨before, _, after, String.toList_ofList, spells_integerText n, blankBefore, blankAfter⟩

theorem Text.Delivers.parsed {s : String} {n : Int} (delivers : Delivers s n) :
    Value.parseInt64? s =
      if Int64.minValue.toInt ≤ n ∧ n ≤ Int64.maxValue.toInt then some (Int64.ofInt n) else none := by
  unfold Value.parseInt64?
  rw [integer?_trimBlank.mpr delivers]

namespace IntKind

variable {k : IntKind}

/-- The number that a column of 64 bits with a sign holds for an integer. -/
def held (k : IntKind) (x : k.Num) : Int := (Int64.ofInt x.val).toInt

theorem load_delivered {x : k.Num} {s : String} (delivers : Text.Delivers s (k.held x)) :
    k.load (.text s) = .ok x := by
  have number : Value.asInt? (.text s) = some (Int64.ofInt x.val) := by
    have inRange : Int64.minValue.toInt ≤ k.held x ∧ k.held x ≤ Int64.maxValue.toInt :=
      ⟨Int64.le_toInt _, Int64.toInt_le _⟩
    refine delivers.parsed.trans ?_
    rw [if_pos inRange, held, Int64.ofInt_toInt]
  simp only [load, number, widen_ofInt, ofInt?_val]

theorem load_undelivered {x : k.Num} {s : String} (large : Int64.maxValue.toInt < x.val)
    (delivers : Text.Delivers s x.val) : k.load (.text s) = .error (.typeMismatch k.name "Text") := by
  have unknown : Value.asInt? (.text s) = none := delivers.parsed.trans (if_neg fun fits => by omega)
  simp only [load, unknown]
  rfl

theorem held_of_le {x : k.Num} (fits : x.val ≤ Int64.maxValue.toInt) : k.held x = x.val := by
  have least : Int64.minValue.toInt ≤ x.val := Int.le_trans (by cases k <;> decide) x.min_le
  exact Int64.toInt_ofInt_of_le least (Int.lt_of_le_of_lt fits (by decide))

/-- Only the widest type without a sign has integers that do not fit in 64 bits with one. -/
theorem eq_u64_of_lt {x : k.Num} (large : Int64.maxValue.toInt < x.val) : k = .u64 := by
  have beyond : Int64.maxValue.toInt < k.max := Int.lt_of_lt_of_le large x.le_max
  cases k with
  | u64 => rfl
  | i8 | i16 | i32 | i64 | u8 | u16 | u32 => exact absurd beyond (by decide)

theorem held_of_lt {x : k.Num} (large : Int64.maxValue.toInt < x.val) : k.held x = x.val - UInt64.size := by
  cases eq_u64_of_lt large
  have greatest : x.val ≤ UInt64.size - 1 := x.le_max
  have size : UInt64.size = 2 ^ 64 := rfl
  have half : Int64.maxValue.toInt = 2 ^ 63 - 1 := rfl
  have sizeToo : Int64.size = 2 ^ 64 := rfl
  unfold held
  rw [Int64.toInt_ofInt, Int.bmod_def, sizeToo]
  split <;> omega

end IntKind

/-- Every integer is read back from text that delivers the number that is held for it, and that is the integer itself
but for the upper half of 64 bits without a sign. An integer of that half is held as the number with a sign that has the
same bits; its own numeral is refused. -/
theorem NativeType.decode_delivered {k : IntKind} (x : k.Num) :
    (∀ s, Text.Delivers s (k.held x) → (int k).decode (.text s) = .ok x) ∧
      (x.val ≤ Int64.maxValue.toInt → k.held x = x.val) ∧
      (Int64.maxValue.toInt < x.val → k = .u64 ∧ k.held x = x.val - UInt64.size ∧
        ∀ s, Text.Delivers s x.val → (int k).decode (.text s) = .error (.typeMismatch k.name "Text")) ∧
      ∀ (n : Int) (before after : List Char), (∀ c ∈ before, Text.isBlank c = true) →
        (∀ c ∈ after, Text.isBlank c = true) →
        Text.Delivers (String.ofList (before ++ (integerText n).toList ++ after)) n := by
  refine ⟨fun s delivers => IntKind.load_delivered delivers, IntKind.held_of_le, fun large => ?_, ?_⟩
  · exact ⟨IntKind.eq_u64_of_lt large, IntKind.held_of_lt large, fun s delivers =>
      IntKind.load_undelivered large delivers⟩
  · intro n before after blankBefore blankAfter
    exact Text.delivers_integerText blankBefore blankAfter n

def greatestU64 : IntKind.u64.Num := ⟨UInt64.size - 1, by decide, by decide⟩

/-- It is held as -1 and read back from that, as the least integer of a byte is from its own numeral. -/
theorem NativeType.decode_delivered_greatest :
    IntKind.u64.held greatestU64 = -1 ∧ (int .u64).decode (.text "\u3000-1\n") = .ok greatestU64 ∧
      (int .i8).decode (.text "\t-128 ") = .ok ⟨-128, by decide, by decide⟩ := by
  obtain ⟨greatest, _, _, delivered⟩ := decode_delivered greatestU64
  obtain ⟨least, held, _, _⟩ := decode_delivered (k := .i8) ⟨-128, by decide, by decide⟩
  have minusOne : String.ofList (['\u3000'] ++ (integerText (-1)).toList ++ ['\n']) = "\u3000-1\n" := by
    decide +kernel
  have byte : String.ofList (['\t'] ++ (integerText (-128)).toList ++ [' ']) = "\t-128 " := by decide +kernel
  refine ⟨by decide, greatest _ ?_, least _ ?_⟩
  · rw [← minusOne]
    exact delivered (-1) _ _ (List.forall_mem_singleton.mpr rfl) (List.forall_mem_singleton.mpr rfl)
  · rw [held (by decide), ← byte]
    exact delivered (-128) _ _ (List.forall_mem_singleton.mpr rfl) (List.forall_mem_singleton.mpr rfl)

theorem NativeType.greatest_numeral_refused :
    integerText greatestU64.val = "18446744073709551615" ∧
      (int .u64).decode (.text "18446744073709551615") ≠ .ok greatestU64 := by
  have numeral : integerText greatestU64.val = "18446744073709551615" := by decide +kernel
  have refused : IntKind.u64.load (.text (integerText greatestU64.val)) = .error (.typeMismatch "u64" "Text") :=
    IntKind.load_undelivered (x := greatestU64) (by decide) ⟨[], _, [], by simp, spells_integerText _, nofun, nofun⟩
  rw [numeral] at refused
  refine ⟨numeral, fun read => ?_⟩
  cases refused.symm.trans read

end RowMapper
