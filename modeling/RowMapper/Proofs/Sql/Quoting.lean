import RowMapper.Dialect
import RowMapper.Store.Token

/-!
# Quoting undone

A quoted identifier is read up to the first quote that is not doubled. What quoting wrote is read back as the identifier
that it was, and the reader stops where the quoting did, whatever stands behind it.
-/

namespace RowMapper

open Store (Token)

namespace Sql

/-- The quoted identifier that a text begins with, and the text behind it. -/
def unquote? (q : Char) : List Char → Option (String × List Char)
  | [] => none
  | c :: rest =>
    if c = q then (Token.quotedPart? q rest).map fun (inner, after) => (String.ofList inner, after) else none

section

variable {q : Char} {s t text : List Char}

theorem quotedPart?_closing (apart : t.head? ≠ some q) : Token.quotedPart? q (q :: t) = some ([], t) := by
  cases t with
  | nil => simp [Token.quotedPart?]
  | cons d rest =>
    have other : d ≠ q := fun same => apart (congrArg some same)
    simp [Token.quotedPart?, other]

theorem quotedPart?_doubled (apart : t.head? ≠ some q) : Token.quotedPart? q (doubled q s ++ q :: t) = some (s, t) := by
  induction s with
  | nil => exact quotedPart?_closing apart
  | cons c s ih =>
    by_cases quote : c = q
    · subst quote
      rw [doubled_quote]
      simp [Token.quotedPart?, ih]
    · -- The reader looks one character ahead, and there always is one, if only the closing quote.
      obtain ⟨d, rest, split⟩ : ∃ d rest, doubled q s ++ q :: t = d :: rest := List.exists_cons_of_ne_nil (by simp)
      rw [doubled_other quote, List.cons_append]
      rw [split] at ih ⊢
      simp [Token.quotedPart?, quote, ih]

/-- What is read behind a quote is what was doubled, up to a quote with no other behind it. -/
theorem quotedPart?_eq_some :
    Token.quotedPart? q text = some (s, t) ↔ text = doubled q s ++ q :: t ∧ t.head? ≠ some q := by
  constructor
  · intro read
    fun_induction Token.quotedPart? q text generalizing s with
    | case1 => cases read
    | case2 =>
      cases read
      exact ⟨rfl, nofun⟩
    | case3 => cases read
    | case4 rest ih =>
      obtain ⟨⟨inner, after⟩, later, same⟩ := Option.map_eq_some_iff.mp read
      cases same
      obtain ⟨rfl, apart⟩ := ih later
      exact ⟨by rw [doubled_quote]; rfl, apart⟩
    | case5 d rest other =>
      cases read
      exact ⟨rfl, fun same => other (Option.some.inj same)⟩
    | case6 c d rest other ih =>
      obtain ⟨⟨inner, after⟩, later, same⟩ := Option.map_eq_some_iff.mp read
      cases same
      obtain ⟨split, apart⟩ := ih later
      exact ⟨by rw [doubled_other other, List.cons_append, split], apart⟩
  · rintro ⟨rfl, apart⟩
    exact quotedPart?_doubled apart

theorem quoteWith_append {ident : String} :
    (quoteWith ident q).toList ++ t = q :: (doubled q ident.toList ++ q :: t) := by
  simp [quoteWith_toList]

/-- A text begins with a quoted identifier exactly if it is that identifier in quotes with no quote behind it. -/
theorem unquote?_eq_some {ident : String} :
    unquote? q text = some (ident, t) ↔ text = (quoteWith ident q).toList ++ t ∧ t.head? ≠ some q := by
  rw [quoteWith_append]
  cases text with
  | nil => simp [unquote?]
  | cons c rest =>
    by_cases quote : c = q
    · subst quote
      rw [unquote?, if_pos rfl, List.cons.injEq, and_iff_right rfl, ← quotedPart?_eq_some, Option.map_eq_some_iff]
      constructor
      · rintro ⟨⟨inner, after⟩, read, same⟩
        cases same
        rwa [String.toList_ofList]
      · intro read
        exact ⟨_, read, by dsimp only; rw [String.ofList_toList]⟩
    · simp [unquote?, quote]

theorem unquote?_quoteWith (ident : String) (q : Char) :
    unquote? q (quoteWith ident q).toList = some (ident, []) :=
  unquote?_eq_some.mpr ⟨(List.append_nil _).symm, nofun⟩

theorem quoteWith_inj {ident other : String} : quoteWith ident q = quoteWith other q ↔ ident = other := by
  refine ⟨fun same => ?_, fun same => same ▸ rfl⟩
  have read := unquote?_quoteWith ident q
  rw [same, unquote?_quoteWith other q] at read
  exact (congrArg Prod.fst (Option.some.inj read)).symm

end

end Sql

namespace Dialect

variable {d : Dialect} {ident : String} {t : List Char}

/-- The tokenizer of statements reads quoted identifiers in the same way. -/
theorem next?_quoteChar (rest : List Char) :
    Token.next? (d.quoteChar :: rest) =
      (Sql.unquote? d.quoteChar (d.quoteChar :: rest)).map fun (ident, after) => (.quoted ident, after) := by
  have isQuote : d.quoteChar = '"' ∨ d.quoteChar = '\x60' := by cases d <;> simp [quoteChar]
  rw [Sql.unquote?, if_pos rfl, Option.map_map]
  rcases isQuote with same | same
  · rw [same]
    rfl
  · rw [same]
    rfl

theorem next?_quote :
    Token.next? ((d.quote ident).toList ++ t) = some (.quoted (d.fold ident), t) ↔ t.head? ≠ some d.quoteChar := by
  have whole : Sql.unquote? d.quoteChar ((d.quote ident).toList ++ t) = some (d.fold ident, t) ↔
      t.head? ≠ some d.quoteChar := Sql.unquote?_eq_some.trans (and_iff_right rfl)
  rw [show (d.quote ident).toList ++ t = _ from Sql.quoteWith_append] at whole ⊢
  rw [next?_quoteChar, Option.map_eq_some_iff]
  constructor
  · rintro ⟨⟨_, _⟩, read, same⟩
    cases same
    exact whole.mp read
  · intro apart
    exact ⟨_, whole.mpr apart, rfl⟩

end Dialect

example : Sql.unquote? '"' "\"a\"\"b\" = 1".toList = some ("a\"b", " = 1".toList) := by decide +kernel

end RowMapper
