import Mathlib.Data.List.Induction
import Mathlib.Data.List.TakeWhile
import Mathlib.Data.Nat.Digits.Defs
import RowMapper.Number.Numeral
import RowMapper.Text.Basic

/-!
# Spelled numbers

Which texts spell an integer, apart from the function that reads them, and what is left of a text that is trimmed.
-/

namespace RowMapper

namespace Number

/-- One or more decimal digits, the units last, and the number they stand for. -/
structure Positional (digits : List Char) (n : Nat) : Prop where
  nonempty : digits ≠ []
  decimal : ∀ c ∈ digits, c.isDigit = true
  value : Nat.ofDigits 10 (digits.reverse.map fun c => c.toNat - '0'.toNat) = n

/-- An integer as an optional sign and one or more decimal digits. -/
inductive Spells : List Char → Int → Prop where
  | plain {digits : List Char} {n : Nat} (number : Positional digits n) : Spells digits n
  | plus {digits : List Char} {n : Nat} (number : Positional digits n) : Spells ('+' :: digits) n
  | minus {digits : List Char} {n : Nat} (number : Positional digits n) : Spells ('-' :: digits) (-n)

variable {s digits body rest : List Char} {negative : Bool} {n : Nat}

theorem digit?_eq (c : Char) : digit? c = if c.isDigit then some (c.toNat - '0'.toNat) else none := rfl

theorem digit?_isSome (c : Char) : (digit? c).isSome = c.isDigit := by
  rw [digit?_eq]
  cases c.isDigit <;> rfl

theorem ofDigits_append (digits : List Char) (c : Char) :
    ofDigits (digits ++ [c]) = 10 * ofDigits digits + (digit? c).getD 0 := by
  unfold ofDigits
  rw [List.foldl_append]
  rfl

theorem ofDigits_eq (decimal : ∀ c ∈ digits, c.isDigit = true) :
    Nat.ofDigits 10 (digits.reverse.map fun c => c.toNat - '0'.toNat) = ofDigits digits := by
  induction digits using List.reverseRecOn with
  | nil => rfl
  | append_singleton front c ih =>
    have last : c.isDigit = true := decimal c (by simp)
    have before := ih fun d member => decimal d (List.mem_append_left _ member)
    rw [ofDigits_append, digit?_eq, if_pos last, List.reverse_append, List.reverse_singleton, List.singleton_append,
      List.map_cons, Nat.ofDigits_cons, before, Option.getD_some]
    exact Nat.add_comm _ _

theorem digitRun_eq_nil : digitRun body = (digits, []) ↔ digits = body ∧ ∀ c ∈ body, c.isDigit = true := by
  unfold digitRun
  simp only [digit?_isSome, Prod.mk.injEq, List.dropWhile_eq_nil_iff]
  constructor
  · rintro ⟨run, decimal⟩
    exact ⟨run.symm.trans (List.takeWhile_eq_self_iff.mpr decimal), decimal⟩
  · rintro ⟨rfl, decimal⟩
    exact ⟨List.takeWhile_eq_self_iff.mpr decimal, decimal⟩

theorem integer?_of_splitSign (cut : splitSign s = (negative, body)) (m : Int) :
    integer? s = some m ↔ ∃ n, Positional body n ∧ m = if negative then -(n : Int) else n := by
  unfold integer?
  rw [cut]
  dsimp only
  constructor
  · intro read
    split at read
    · cases read
    · cases read
    · rename_i whole nonempty run
      obtain ⟨rfl, decimal⟩ := digitRun_eq_nil.mp run
      cases read
      exact ⟨_, ⟨nonempty, decimal, ofDigits_eq decimal⟩, rfl⟩
  · rintro ⟨n, ⟨nonempty, decimal, value⟩, rfl⟩
    rw [digitRun_eq_nil.mpr ⟨rfl, decimal⟩]
    rw [ofDigits_eq decimal] at value
    subst value
    cases body with
    | nil => exact (nonempty rfl).elim
    | cons c rest => rfl

theorem splitSign_of_digits (number : Positional digits n) : splitSign digits = (false, digits) := by
  unfold splitSign
  split
  · have minus := number.decimal '-' List.mem_cons_self
    cases minus
  · have plus := number.decimal '+' List.mem_cons_self
    cases plus
  · rfl

/-- An integer is read from exactly the texts that spell it. -/
theorem integer?_eq_some {m : Int} : integer? s = some m ↔ Spells s m := by
  constructor
  · intro read
    cases cut : splitSign s with
    | mk negative body =>
      obtain ⟨n, number, rfl⟩ := (integer?_of_splitSign cut m).mp read
      unfold splitSign at cut
      split at cut
      · cases cut
        exact .minus number
      · cases cut
        exact .plus number
      · cases cut
        exact .plain number
  · intro spelled
    cases spelled with
    | plain number => exact (integer?_of_splitSign (splitSign_of_digits number) _).mpr ⟨_, number, rfl⟩
    | plus number => exact (integer?_of_splitSign rfl _).mpr ⟨_, number, rfl⟩
    | minus number => exact (integer?_of_splitSign rfl _).mpr ⟨_, number, rfl⟩

end Number

namespace Text

variable {inClass : Char → Bool} {before body after : List Char}

theorem trimEnds_parts (inClass : Char → Bool) (s : List Char) :
    ∃ before after, s = before ++ trimEnds inClass s ++ after ∧
      (∀ c ∈ before, inClass c = true) ∧ ∀ c ∈ after, inClass c = true := by
  have front := List.takeWhile_append_dropWhile (p := inClass) (l := s)
  have back := List.takeWhile_append_dropWhile (p := inClass) (l := (s.dropWhile inClass).reverse)
  refine ⟨s.takeWhile inClass, ((s.dropWhile inClass).reverse.takeWhile inClass).reverse, ?_, ?_, ?_⟩
  · unfold trimEnds
    rw [List.append_assoc, ← List.reverse_append, back, List.reverse_reverse, front]
  · intro c member
    exact List.mem_takeWhile_imp member
  · intro c member
    exact List.mem_takeWhile_imp (List.mem_reverse.mp member)

theorem dropWhile_append_eq (dropped : ∀ c ∈ before, inClass c = true) (kept : ∀ c ∈ body, inClass c = false) :
    (before ++ body).dropWhile inClass = body := by
  rw [List.dropWhile_append_of_pos dropped]
  cases body with
  | nil => rfl
  | cons c rest => exact List.dropWhile_cons_of_neg (by simp [kept c List.mem_cons_self])

theorem trimEnds_append (blankBefore : ∀ c ∈ before, inClass c = true) (plain : ∀ c ∈ body, inClass c = false)
    (blankAfter : ∀ c ∈ after, inClass c = true) : trimEnds inClass (before ++ body ++ after) = body := by
  cases body with
  | nil =>
    have all : ∀ c ∈ before ++ [] ++ after, inClass c = true := by
      simp only [List.append_nil, List.mem_append]
      rintro c (member | member)
      · exact blankBefore c member
      · exact blankAfter c member
    unfold trimEnds
    rw [List.dropWhile_eq_nil_iff.mpr all]
    rfl
  | cons first rest =>
    have front : (before ++ first :: rest ++ after).dropWhile inClass = first :: rest ++ after := by
      rw [List.append_assoc, List.dropWhile_append_of_pos blankBefore]
      exact List.dropWhile_cons_of_neg (by simp [plain first List.mem_cons_self])
    unfold trimEnds
    rw [front, List.reverse_append, dropWhile_append_eq (fun c member => blankAfter c (List.mem_reverse.mp member))
      (fun c member => plain c (List.mem_reverse.mp member)), List.reverse_reverse]

theorem isBlank_of_isDigit {c : Char} (decimal : c.isDigit = true) : isBlank c = false := by
  simp only [Char.isDigit, Bool.and_eq_true, decide_eq_true_eq, UInt32.le_iff_toNat_le] at decimal
  have least : 48 ≤ c.toNat := decimal.1
  have greatest : c.toNat ≤ 57 := decimal.2
  unfold isBlank
  simp
  omega

end Text

theorem Number.Spells.isBlank {s : List Char} {n : Int} (spelled : Number.Spells s n) :
    ∀ c ∈ s, Text.isBlank c = false := by
  have digits {digits : List Char} {n : Nat} (number : Number.Positional digits n) :
      ∀ c ∈ digits, Text.isBlank c = false := by
    intro c member
    exact Text.isBlank_of_isDigit (number.decimal c member)
  cases spelled with
  | plain number => exact digits number
  | plus number => exact List.forall_mem_cons.mpr ⟨rfl, digits number⟩
  | minus number => exact List.forall_mem_cons.mpr ⟨rfl, digits number⟩

/-- What a text spells with white space around it. -/
theorem Text.integer?_trimBlank {s : List Char} {n : Int} :
    Number.integer? (trimBlank s) = some n ↔
      ∃ before body after, s = before ++ body ++ after ∧ Number.Spells body n ∧
        (∀ c ∈ before, isBlank c = true) ∧ ∀ c ∈ after, isBlank c = true := by
  rw [Number.integer?_eq_some]
  constructor
  · intro spelled
    obtain ⟨before, after, parts, blankBefore, blankAfter⟩ := trimEnds_parts isBlank s
    exact ⟨before, trimBlank s, after, parts, spelled, blankBefore, blankAfter⟩
  · rintro ⟨before, body, after, rfl, spelled, blankBefore, blankAfter⟩
    unfold trimBlank
    rw [trimEnds_append blankBefore spelled.isBlank blankAfter]
    exact spelled

end RowMapper
