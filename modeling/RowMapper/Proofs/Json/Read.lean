import RowMapper.Json.Reader
import RowMapper.Proofs.Json.Scan

/-!
# Documents are read back

The reader takes the tokens of a document to that document, wherever a value may stand, so the text of a document is
read as the document. Reals are left aside: the last digit of one may change.
-/

namespace RowMapper.Json

theorem tokens_begin (j : Json) : ∃ t rest, j.tokens = t :: rest ∧ t ≠ .closeArray := by
  cases j <;> exact ⟨_, _, rfl, nofun⟩

/-- Where an array may be closed at once, any other token begins its first item. -/
theorem readToken?_itemOrClose {frames : List Frame} {t : Token} (item : t ≠ .closeArray) :
    readToken? ⟨frames, .itemOrClose⟩ t = beginValue? frames t := by
  cases t with
  | closeArray => exact absurd rfl item
  | openArray | openObject | closeObject | comma | colon | string | scalar =>
    rcases frames with _ | ⟨_ | _, _⟩ <;> rfl

/-- The reader takes the tokens of a document to the document wherever so many more containers may be opened. -/
def Reads (depth : Nat) (j : Json) : Prop :=
  ∀ frames : List Frame, frames.length + depth ≤ 127 →
    j.tokens.foldlM readToken? ⟨frames, .value⟩ = some (finish frames j)

section

variable {depth : Nat} {frames : List Frame}

theorem read_items {x : Json} {items done : List Json} {expected : Expectation}
    (begins : ∀ t, t ≠ .closeArray →
      readToken? ⟨.array done :: frames, expected⟩ t = beginValue? (.array done :: frames) t)
    (each : ∀ y ∈ x :: items, Reads depth y) (room : frames.length + (depth + 1) ≤ 127) :
    (List.intercalate [.comma] (tokens.itemTokens (x :: items))).foldlM readToken? ⟨.array done :: frames, expected⟩ =
      some ⟨.array ((x :: items).reverse ++ done) :: frames, .commaOrClose⟩ := by
  have first : x.tokens.foldlM readToken? ⟨.array done :: frames, expected⟩ =
      some ⟨.array (x :: done) :: frames, .commaOrClose⟩ := by
    have value := each x List.mem_cons_self (.array done :: frames) (by simp only [List.length_cons]; omega)
    obtain ⟨t, rest, begun, item⟩ := tokens_begin x
    rw [begun, List.foldlM_cons] at value ⊢
    rw [begins t item]
    exact value
  induction items generalizing x done expected with
  | nil =>
    rw [tokens.itemTokens, tokens.itemTokens, List.intercalate_singleton]
    exact first
  | cons y items ih =>
    have split : List.intercalate [Token.comma] (tokens.itemTokens (x :: y :: items)) =
        x.tokens ++ .comma :: List.intercalate [.comma] (tokens.itemTokens (y :: items)) := by
      rw [tokens.itemTokens, tokens.itemTokens, List.intercalate_cons_cons, List.append_assoc]
      rfl
    have others : ∀ z ∈ y :: items, Reads depth z := fun z member => each z (List.mem_cons_of_mem _ member)
    have second := others y List.mem_cons_self (.array (x :: done) :: frames) (by simp only [List.length_cons]; omega)
    have begins' (t : Token) (_ : t ≠ .closeArray) : readToken? ⟨.array (x :: done) :: frames, .value⟩ t =
        beginValue? (.array (x :: done) :: frames) t := rfl
    rw [split, List.foldlM_append, first, List.reverse_cons, List.append_assoc]
    exact ih begins' others second

theorem read_members {name last : String} {x : Json} {members done : List (String × Json)} {expected : Expectation}
    (begins : ∀ name, readToken? ⟨.object done last :: frames, expected⟩ (.string name) =
      some ⟨.object done name :: frames, .colon⟩)
    (each : ∀ m ∈ (name, x) :: members, Reads depth m.2) (room : frames.length + (depth + 1) ≤ 127) :
    ∃ last', (List.intercalate [.comma] (tokens.memberTokens ((name, x) :: members))).foldlM readToken?
        ⟨.object done last :: frames, expected⟩ =
      some ⟨.object (((name, x) :: members).reverse ++ done) last' :: frames, .commaOrClose⟩ := by
  have first : (Token.string name :: .colon :: x.tokens).foldlM readToken? ⟨.object done last :: frames, expected⟩ =
      some ⟨.object ((name, x) :: done) name :: frames, .commaOrClose⟩ := by
    rw [List.foldlM_cons, begins]
    exact each (name, x) List.mem_cons_self (.object done name :: frames) (by simp only [List.length_cons]; omega)
  induction members generalizing name x done last expected with
  | nil =>
    rw [tokens.memberTokens, tokens.memberTokens, List.intercalate_singleton]
    exact ⟨name, first⟩
  | cons m members ih =>
    obtain ⟨name', y⟩ := m
    have split : List.intercalate [Token.comma] (tokens.memberTokens ((name, x) :: (name', y) :: members)) =
        (.string name :: .colon :: x.tokens) ++
          .comma :: List.intercalate [.comma] (tokens.memberTokens ((name', y) :: members)) := by
      rw [tokens.memberTokens, tokens.memberTokens, List.intercalate_cons_cons, List.append_assoc]
      rfl
    have others : ∀ m ∈ (name', y) :: members, Reads depth m.2 := fun m member => each m (List.mem_cons_of_mem _ member)
    have begins' (n : String) : readToken? ⟨.object ((name, x) :: done) name :: frames, .name⟩ (.string n) =
        some ⟨.object ((name, x) :: done) n :: frames, .colon⟩ := rfl
    have second := others (name', y) List.mem_cons_self (.object ((name, x) :: done) name' :: frames)
      (by simp only [List.length_cons]; omega)
    rw [split, List.foldlM_append, first, List.reverse_cons, List.append_assoc]
    exact ih begins' others second

end

theorem Plain.reads {depth : Nat} {j : Json} (plain : Plain depth j) : Reads depth j := by
  -- a container takes one frame, so what it holds may nest one less deep
  induction plain with
  | null | bool | integer | string => exact fun _ _ => rfl
  | array _ ih =>
    rename_i items _
    intro frames room
    have free : frames.length < 127 := by omega
    have opened : readToken? ⟨frames, .value⟩ .openArray = some ⟨.array [] :: frames, .itemOrClose⟩ := if_pos free
    rw [tokens, List.foldlM_cons, opened, Option.bind_eq_bind, Option.bind_some, List.foldlM_append]
    cases items with
    | nil => rfl
    | cons x items =>
      rw [read_items (fun _ => readToken?_itemOrClose) ih room, List.append_nil]
      show some (finish frames (.array (x :: items).reverse.reverse)) = _
      rw [List.reverse_reverse]
  | object _ ih =>
    rename_i members _
    intro frames room
    have free : frames.length < 127 := by omega
    have opened : readToken? ⟨frames, .value⟩ .openObject = some ⟨.object [] "" :: frames, .nameOrClose⟩ := if_pos free
    rw [tokens, List.foldlM_cons, opened, Option.bind_eq_bind, Option.bind_some, List.foldlM_append]
    cases members with
    | nil => rfl
    | cons m members =>
      have begins (name : String) : readToken? ⟨.object [] "" :: frames, .nameOrClose⟩ (.string name) =
          some ⟨.object [] name :: frames, .colon⟩ := rfl
      obtain ⟨last, inside⟩ := read_members begins ih room
      rw [inside, List.append_nil]
      show some (finish frames (.object (m :: members).reverse.reverse)) = _
      rw [List.reverse_reverse]

theorem parse?_text {j : Json} (plain : Plain 127 j) : parse? j.text = some j := by
  have scanned : scan? (.outside []) j.text.toList = some j.tokens := by
    have whole := plain.scans [] nofun
    rw [List.append_nil] at whole
    rw [whole]
    exact congrArg some (List.append_nil _)
  have read : j.tokens.foldlM readToken? {} = some (finish [] j) := plain.reads [] (Nat.le_refl _)
  simp only [parse?, scanned, Option.bind_eq_bind, Option.bind_some, read]
  rfl

theorem read?_text {j : Json} (plain : Plain 127 j) (canonical : j.canonical = j) : read? j.text = some j := by
  rw [read?, parse?_text plain, Option.map_some, canonical]

end RowMapper.Json
