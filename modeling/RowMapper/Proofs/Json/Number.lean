import RowMapper.Json.Number
import RowMapper.Proofs.Number.Spelled

/-!
# Integers in JSON

The numeral of an integer that fits in 64 bits, with a sign or without, is read as that integer.
-/

namespace RowMapper

open Number

namespace Number

theorem digit?_digitChar : ∀ d < 10, digit? (Nat.digitChar d) = some d := by decide

theorem toDigits_digits {n : Nat} {c : Char} (member : c ∈ Nat.toDigits 10 n) : c.isDigit = true :=
  Nat.isDigit_of_mem_toDigits (by decide) (by decide) member

theorem digitRun_toDigits (n : Nat) : digitRun (Nat.toDigits 10 n) = (Nat.toDigits 10 n, []) :=
  digitRun_eq_nil.mpr ⟨rfl, fun _ member => toDigits_digits member⟩

theorem toDigits_head? {n : Nat} (zero : (Nat.toDigits 10 n).head? = some '0') : n = 0 := by
  induction n using Nat.strongRecOn with
  | ind n ih =>
    by_cases small : n < 10
    · rw [Nat.toDigits_of_lt_base small] at zero
      exact Nat.digitChar_eq_zero.mp (Option.some.inj zero)
    · have large : 10 ≤ n := Nat.le_of_not_lt small
      have first := List.head?_eq_some_head (Nat.toDigits_ne_nil (n := n / 10) (b := 10))
      rw [Nat.toDigits_of_base_le (by decide) large, List.head?_append, first, Option.some_or, ← first] at zero
      have none := ih (n / 10) (Nat.div_lt_self (by omega) (by decide)) zero
      omega

end Number

namespace Json

theorem Leading.whole_digits {n : Nat} (fits : n < UInt64.size) :
    (digitValues (Nat.toDigits 10 n)).foldl Leading.whole ⟨0, 0, false⟩ = ⟨n, 0, false⟩ := by
  induction n using Nat.strongRecOn with
  | ind n ih =>
    have last {d m : Nat} (small : d < 10) (fits : 10 * m + d < UInt64.size) :
        (digitValues [Nat.digitChar d]).foldl Leading.whole ⟨m, 0, false⟩ = ⟨10 * m + d, 0, false⟩ := by
      simp [digitValues, digit?_digitChar d small, Leading.whole, fits]
    by_cases small : n < 10
    · rw [Nat.toDigits_of_lt_base small, last small (by omega)]
      simp
    · have large : 10 ≤ n := Nat.le_of_not_lt small
      have parts : 10 * (n / 10) + n % 10 = n := Nat.div_add_mod n 10
      have split : digitValues (Nat.toDigits 10 (n / 10) ++ [Nat.digitChar (n % 10)]) =
          digitValues (Nat.toDigits 10 (n / 10)) ++ digitValues [Nat.digitChar (n % 10)] := List.filterMap_append
      rw [Nat.toDigits_of_base_le (by decide) large, split, List.foldl_append,
        ih (n / 10) (Nat.div_lt_self (by omega) (by decide)) (by omega),
        last (Nat.mod_lt n (by decide)) (by omega), parts]

theorem ofParts?_toDigits (negative : Bool) {n : Nat} (fits : n < UInt64.size)
    (bounded : negative = true → n ≠ 0 ∧ 2 * n ≤ UInt64.size) :
    ofParts? negative (Nat.toDigits 10 n) none none = some (.integer (if negative then -(n : Int) else n)) := by
  unfold ofParts?
  simp only [Leading.whole_digits fits]
  cases negative with
  | false => rfl
  | true =>
    obtain ⟨some, half⟩ := bounded rfl
    have inRange : (n == 0 || decide (UInt64.size < 2 * n)) = false := by simp [some, half]
    simp [inRange]

/-- The integers that documents keep as such: they fit in 64 bits, with a sign or without. -/
def Fits (n : Int) : Prop := Int64.minValue.toInt ≤ n ∧ n < UInt64.size

theorem ofNumeral?_integerText {n : Int} (fits : Fits n) : ofNumeral? (integerText n).toList = some (.integer n) := by
  have size : UInt64.size = 2 ^ 64 := rfl
  have least : Int64.minValue.toInt = -2 ^ 63 := rfl
  obtain ⟨lower, upper⟩ := fits
  have natFits : n.natAbs < UInt64.size := by omega
  have plain : ((Nat.toDigits 10 n.natAbs).isEmpty || (Nat.toDigits 10 n.natAbs).head? == some '0' &&
      (Nat.toDigits 10 n.natAbs).length != 1) = false := by
    have some : (Nat.toDigits 10 n.natAbs).isEmpty = false := by simp
    rw [some, Bool.false_or, Bool.and_eq_false_iff]
    by_cases zero : (Nat.toDigits 10 n.natAbs).head? = Option.some '0'
    · right
      rw [toDigits_head? zero]
      rfl
    · exact .inl (by simpa using zero)
  unfold integerText ofNumeral?
  rw [String.toList_ofList]
  by_cases negative : n < 0
  · have parts := ofParts?_toDigits true natFits fun _ => by omega
    have whole : -(n.natAbs : Int) = n := by omega
    rw [if_pos rfl, whole] at parts
    rw [if_pos negative]
    simp only [List.cons_append, List.nil_append, digitRun_toDigits, plain]
    exact parts
  · have parts := ofParts?_toDigits false natFits nofun
    have whole : (n.natAbs : Int) = n := by omega
    rw [if_neg Bool.false_ne_true, whole] at parts
    rw [if_neg negative, List.nil_append]
    split
    rename_i isNegative body cut
    have unsigned : isNegative = false ∧ body = Nat.toDigits 10 n.natAbs := by
      split at cut
      · rename_i rest signed
        have minus : '-'.isDigit = true := toDigits_digits (signed ▸ List.mem_cons_self)
        cases minus
      · exact ⟨(congrArg Prod.fst cut).symm, (congrArg Prod.snd cut).symm⟩
    obtain ⟨rfl, rfl⟩ := unsigned
    simp only [digitRun_toDigits, plain]
    exact parts

end Json

end RowMapper
