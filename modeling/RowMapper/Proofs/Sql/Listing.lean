import Mathlib.Data.List.Basic
import RowMapper.Proofs.Sql.Quoting
import RowMapper.Proofs.Sql.Statement

/-!
# Lists in statements

An insertion lists columns and values, and a selection lists columns and keys. The text tells which: no other lists are
written the same way.
-/

namespace RowMapper

open Sql

namespace Sql

/-- Names in quotes, each with what follows it at its place. -/
def quotedNames (q : Char) (mark : Nat → String) (n : Nat) : List String → List String
  | [] => []
  | s :: rest => (quoteWith s q ++ mark n) :: quotedNames q mark (n + 1) rest

variable {q : Char} {mark : Nat → String} {sep : List Char}

/-- A quoted name ends at the first quote that no other one follows. -/
theorem doubled_unique {s s' rest rest' : List Char} (after : rest.head? ≠ some q) (after' : rest'.head? ≠ some q)
    (same : doubled q s ++ q :: rest = doubled q s' ++ q :: rest') : s = s' ∧ rest = rest' := by
  have read := quotedPart?_doubled (s := s) after
  rw [same, quotedPart?_doubled after'] at read
  cases read
  exact ⟨rfl, rfl⟩

/-- Quoted names that each have a separator before them. -/
def following (q : Char) (sep : List Char) (mark : Nat → String) (n : Nat) (names : List String) : List Char :=
  (quotedNames q mark n names).flatMap fun s => sep ++ s.toList

/-- A separator and what stands after names cannot be taken for a quote, or for each other. -/
structure Delimits (q : Char) (sep : List Char) (mark : Nat → String) (rest : List Char) : Prop where
  nonempty : sep ≠ []
  separates : sep.head? ≠ some q
  marks : ∀ n, (mark n).toList.head? ≠ some q
  ends : rest.head? ≠ some q
  differs : rest.head? ≠ sep.head?

theorem following_cons {n : Nat} {s : String} {names : List String} :
    following q sep mark n (s :: names) =
      sep ++ q :: (doubled q s.toList ++ q :: ((mark n).toList ++ following q sep mark (n + 1) names)) := by
  simp [following, quotedNames, quoteWith]

namespace Delimits

variable {n : Nat} {names names' : List String} {rest rest' : List Char}

theorem head?_cons (delimits : Delimits q sep mark rest) {s : String} :
    (following q sep mark n (s :: names) ++ rest').head? = sep.head? := by
  rw [following_cons, List.append_assoc, List.head?_append_of_ne_nil _ delimits.nonempty]

theorem head?_marked (delimits : Delimits q sep mark rest) :
    ((mark n).toList ++ (following q sep mark (n + 1) names ++ rest)).head? ≠ some q := by
  rw [List.head?_append]
  cases marked : (mark n).toList.head? with
  | some c =>
    rw [Option.some_or, ← marked]
    exact delimits.marks n
  | none =>
    cases names with
    | nil => exact delimits.ends
    | cons s names =>
      rw [Option.none_or, delimits.head?_cons]
      exact delimits.separates

theorem following_unique (delimits : Delimits q sep mark rest) (delimits' : Delimits q sep mark rest')
    (same : following q sep mark n names ++ rest = following q sep mark n names' ++ rest') :
    names = names' ∧ rest = rest' := by
  induction names generalizing names' n with
  | nil =>
    cases names' with
    | nil => exact ⟨rfl, same⟩
    | cons s' names' => exact absurd ((congrArg List.head? same).trans delimits.head?_cons) delimits.differs
  | cons s names ih =>
    cases names' with
    | nil => exact absurd ((congrArg List.head? same).symm.trans delimits.head?_cons) delimits'.differs
    | cons s' names' =>
      simp only [following_cons, List.append_assoc, List.cons_append] at same
      have opened := (List.cons.inj (List.append_cancel_left same)).2
      obtain ⟨name, closed⟩ := doubled_unique delimits.head?_marked delimits'.head?_marked opened
      obtain ⟨rfl, others⟩ := ih (List.append_cancel_left closed)
      exact ⟨by rw [String.toList_inj.mp name], others⟩

end Delimits

theorem intercalate_eq {first : List Char} {others : List (List Char)} :
    sep.intercalate (first :: others) = first ++ others.flatMap (sep ++ ·) := by
  induction others generalizing first with
  | nil => simp
  | cons second others ih => rw [List.intercalate_cons_cons, ih]; simp

theorem append_intercalate {sep s : String} {n : Nat} {names : List String} :
    sep.toList ++ (sep.intercalate (quotedNames q mark n (s :: names))).toList =
      following q sep.toList mark n (s :: names) := by
  rw [String.toList_intercalate, quotedNames, List.map_cons, intercalate_eq, ← List.append_assoc, following,
    quotedNames, List.flatMap_cons, List.flatMap_map]

theorem head?_intercalate {sep s : String} {n : Nat} {names : List String} {rest : List Char} :
    ((sep.intercalate (quotedNames q mark n (s :: names))).toList ++ rest).head? = some q := by
  rw [String.toList_intercalate, quotedNames, List.map_cons, intercalate_eq, String.toList_append, quoteWith_toList]
  rfl

/-- The names of a list are told by its text, wherever the list ends. -/
theorem Delimits.list_unique {sep : String} {names names' : List String} {n : Nat} {rest rest' : List Char}
    (delimits : Delimits q sep.toList mark rest) (delimits' : Delimits q sep.toList mark rest')
    (same : (sep.intercalate (quotedNames q mark n names)).toList ++ rest =
      (sep.intercalate (quotedNames q mark n names')).toList ++ rest') :
    names = names' ∧ rest = rest' := by
  cases names with
  | nil =>
    cases names' with
    | nil => exact ⟨rfl, List.append_cancel_left same⟩
    | cons s' names' => exact absurd ((congrArg List.head? same).trans head?_intercalate) delimits.ends
  | cons s names =>
    cases names' with
    | nil => exact absurd ((congrArg List.head? same).symm.trans head?_intercalate) delimits'.ends
    | cons s' names' =>
      apply delimits.following_unique delimits' (n := n)
      rw [← append_intercalate, ← append_intercalate, List.append_assoc, List.append_assoc, same]

end Sql

namespace Dialect

/-- Values in a list: a placeholder for each that is an argument, and the literal that asks for a generated one. -/
def listedValues (d : Dialect) (n : Nat) : List Bool → List String
  | [] => []
  | false :: rest => d.autoIncrementValue :: d.listedValues n rest
  | true :: rest => d.placeholder n :: d.listedValues (n + 1) rest

/-- An insertion of the listed columns. With each stands whether its value is an argument. -/
def insertion (d : Dialect) (table : String) (listed : List (String × Bool)) : String :=
  "insert into " ++ table ++ " (" ++ ",".intercalate (quotedNames d.quoteChar (fun _ => "") 0 (listed.map (·.1))) ++
    ") values (" ++ ",".intercalate (d.listedValues 0 (listed.map (·.2))) ++ ")"

/-- A selection of columns, from the rows whose keys equal the arguments. -/
def selection (d : Dialect) (table : String) (columns keys : List String) : String :=
  "select " ++ ",".intercalate (quotedNames d.quoteChar (fun _ => "") 0 columns) ++ " from " ++ table ++ " where " ++
    " and ".intercalate (quotedNames d.quoteChar (fun i => "=" ++ d.placeholder i) 0 keys)

variable {d : Dialect} {n : Nat} {table : String}

theorem ne_quoteChar {c : Char} (common : c ∉ ['"', '\x60', '$', ':', '?']) : c ≠ d.quoteChar ∧ c ≠ d.marker := by
  simp only [List.mem_cons, List.not_mem_nil, or_false, not_or] at common
  cases d <;> simp [quoteChar, marker, common]

def followingValues (d : Dialect) (n : Nat) (flags : List Bool) : List Char :=
  (d.listedValues n flags).flatMap fun s => ',' :: s.toList

theorem head?_placeholder {rest : List Char} : ((d.placeholder n).toList ++ rest).head? = some d.marker := by
  obtain ⟨digits, spelled, _⟩ := d.placeholder_toList n
  rw [spelled]
  rfl

theorem head?_autoIncrementValue {flags : List Bool} {rest : List Char} :
    (d.autoIncrementValue.toList ++ (d.followingValues n flags ++ ')' :: rest)).head? ≠ some d.marker := by
  have plain : ∀ c ∈ d.autoIncrementValue.toList, c ≠ d.quoteChar ∧ c ≠ d.marker := plain_autoIncrementValue
  generalize d.autoIncrementValue.toList = letters at plain
  cases letters with
  | cons c letters => exact fun same => (plain c List.mem_cons_self).2 (Option.some.inj same)
  | nil =>
    have comma : ',' ≠ d.marker := (ne_quoteChar (by decide)).2
    have closing : ')' ≠ d.marker := (ne_quoteChar (by decide)).2
    rcases flags with _ | ⟨_ | _, flags⟩ <;> simp [followingValues, listedValues, comma, closing]

theorem values_unique {flags flags' : List Bool} {rest rest' : List Char} (counted : flags.length = flags'.length)
    (same : d.followingValues n flags ++ ')' :: rest = d.followingValues n flags' ++ ')' :: rest') :
    flags = flags' := by
  induction flags generalizing flags' n with
  | nil => exact (List.length_eq_zero_iff.mp counted.symm).symm
  | cons flag flags ih =>
    cases flags' with
    | nil => cases counted
    | cons flag' flags' =>
      have opened {flag : Bool} {flags : List Bool} : d.followingValues n (flag :: flags) = ',' ::
          ((if flag then d.placeholder n else d.autoIncrementValue).toList ++
            d.followingValues (if flag then n + 1 else n) flags) := by
        cases flag <;> rfl
      rw [opened, opened, List.cons_append, List.cons_append, List.append_assoc, List.append_assoc] at same
      replace same := (List.cons.inj same).2
      have sameFlag : flag = flag' := by
        cases flag with
        | true =>
          cases flag' with
          | true => rfl
          | false => exact absurd ((congrArg List.head? same).symm.trans head?_placeholder) head?_autoIncrementValue
        | false =>
          cases flag' with
          | true => exact absurd ((congrArg List.head? same).trans head?_placeholder) head?_autoIncrementValue
          | false => rfl
      subst sameFlag
      rw [ih (Nat.succ.inj counted) (List.append_cancel_left same)]

theorem intercalate_values_unique {flags flags' : List Bool} {rest rest' : List Char}
    (counted : flags.length = flags'.length)
    (same : (",".intercalate (d.listedValues n flags)).toList ++ ')' :: rest =
      (",".intercalate (d.listedValues n flags')).toList ++ ')' :: rest') : flags = flags' := by
  have opened (flag : Bool) (flags : List Bool) :
      ',' :: (",".intercalate (d.listedValues n (flag :: flags))).toList = d.followingValues n (flag :: flags) := by
    unfold followingValues
    cases flag
    all_goals
      rw [String.toList_intercalate, listedValues, List.map_cons, intercalate_eq, List.flatMap_cons, List.flatMap_map]
      rfl
  cases flags with
  | nil => exact (List.length_eq_zero_iff.mp counted.symm).symm
  | cons flag flags =>
    cases flags' with
    | nil => cases counted
    | cons flag' flags' =>
      apply values_unique counted (n := n) (d := d)
      rw [← opened, ← opened, List.cons_append, List.cons_append, same]

theorem delimits_comma {c : Char} {rest : List Char} (common : c ∉ ['"', '\x60', '$', ':', '?']) (differs : c ≠ ',') :
    Delimits d.quoteChar ",".toList (fun _ => "") (c :: rest) where
  nonempty := nofun
  separates same := (ne_quoteChar (d := d) (c := ',') (by decide)).1 (Option.some.inj same)
  marks n := nofun
  ends same := (ne_quoteChar common).1 (Option.some.inj same)
  differs same := differs (Option.some.inj same)

theorem delimits_and {rest : List Char} (ends : rest.head? ≠ some d.quoteChar) (differs : rest.head? ≠ some ' ') :
    Delimits d.quoteChar " and ".toList (fun i => "=" ++ d.placeholder i) rest where
  nonempty := nofun
  separates same := (ne_quoteChar (d := d) (c := ' ') (by decide)).1 (Option.some.inj same)
  marks n same := by
    rw [String.toList_append] at same
    exact (ne_quoteChar (d := d) (c := '=') (by decide)).1 (Option.some.inj same)
  ends := ends
  differs := differs

theorem insertion_unique {listed listed' : List (String × Bool)} {ending ending' : String}
    (same : d.insertion table listed ++ ending = d.insertion table listed' ++ ending') : listed = listed' := by
  have text (listed : List (String × Bool)) (ending : String) : (d.insertion table listed ++ ending).toList =
      ("insert into " ++ table ++ " (").toList ++
        ((",".intercalate (quotedNames d.quoteChar (fun _ => "") 0 (listed.map (·.1)))).toList ++
          ')' :: (" values (".toList ++
            ((",".intercalate (d.listedValues 0 (listed.map (·.2)))).toList ++ ')' :: ending.toList))) := by
    have opening : ") values (".toList = ')' :: " values (".toList := rfl
    have closing : ")".toList = [')'] := rfl
    unfold insertion
    simp only [String.toList_append, List.append_assoc, opening, closing, List.cons_append, List.nil_append]
  replace same := congrArg String.toList same
  rw [text listed ending, text listed' ending'] at same
  obtain ⟨names, values⟩ := (delimits_comma (by decide) (by decide)).list_unique
    (delimits_comma (by decide) (by decide)) (List.append_cancel_left same)
  replace values := List.append_cancel_left (List.cons.inj values).2
  have counted : (listed.map (·.2)).length = (listed'.map (·.2)).length := by
    simpa using congrArg List.length names
  have flags : listed.map (·.2) = listed'.map (·.2) := intercalate_values_unique counted values
  calc listed = (listed'.map (·.1)).zip (listed.map (·.2)) := List.zip_of_prod names rfl
    _ = (listed'.map (·.1)).zip (listed'.map (·.2)) := by rw [flags]
    _ = listed' := (List.zip_of_prod rfl rfl).symm

/-- The columns and the keys of a selection are told by its text. -/
theorem selection_unique {columns columns' keys keys' : List String}
    (same : d.selection table columns keys ++ d.terminator = d.selection table columns' keys' ++ d.terminator) :
    columns = columns' ∧ keys = keys' := by
  have text (columns keys : List String) : (d.selection table columns keys ++ d.terminator).toList =
      "select ".toList ++ ((",".intercalate (quotedNames d.quoteChar (fun _ => "") 0 columns)).toList ++
        ' ' :: (("from " ++ table ++ " where ").toList ++
          ((" and ".intercalate (quotedNames d.quoteChar (fun i => "=" ++ d.placeholder i) 0 keys)).toList ++
            d.terminator.toList))) := by
    have opening : " from ".toList = ' ' :: "from ".toList := rfl
    unfold selection
    simp only [String.toList_append, List.append_assoc, opening, List.cons_append]
  replace same := congrArg String.toList same
  rw [text columns keys, text columns' keys'] at same
  obtain ⟨names, rest⟩ := (delimits_comma (by decide) (by decide)).list_unique
    (delimits_comma (by decide) (by decide)) (List.append_cancel_left same)
  have ends : d.terminator.toList.head? ≠ some d.quoteChar := by
    cases d <;> simp [terminator, quoteChar]
  have differs : d.terminator.toList.head? ≠ some ' ' := by
    cases d <;> simp [terminator]
  have delimits := delimits_and ends differs
  exact ⟨names, (delimits.list_unique delimits (List.append_cancel_left (List.cons.inj rest).2)).1⟩

theorem quotedNames_columns (n : Nat) (columns : List Column) :
    quotedNames d.quoteChar (fun _ => "") n (columns.map fun c => d.fold c.name) =
      columns.map fun c => d.quote c.name := by
  induction columns generalizing n with
  | nil => rfl
  | cons c rest ih =>
    rw [List.map_cons, quotedNames, ih, String.append_empty]
    rfl

theorem equations_eq (n : Nat) (terms : List (Column × Source)) :
    d.equations n terms =
      quotedNames d.quoteChar (fun i => "=" ++ d.placeholder i) n (terms.map fun term => d.fold term.1.name) := by
  unfold equations
  induction terms generalizing n with
  | nil => rfl
  | cons term rest ih =>
    rw [mapIdx_from (f := fun i (term : Column × Source) => d.quote term.1.name ++ "=" ++ d.placeholder i), ih,
      List.map_cons, quotedNames, String.append_assoc]
    rfl

theorem insertedValues_eq (n : Nat) (terms : List (Column × Option Source)) :
    d.insertedValues n terms = d.listedValues n (terms.map fun term => term.2.isSome) := by
  induction terms generalizing n with
  | nil => rfl
  | cons term rest ih =>
    obtain ⟨c, _ | source⟩ := term
    all_goals
      simp only [insertedValues, ih]
      rfl

end Dialect

def Table.listing (t : Table) (d : Dialect) : List (String × Bool) :=
  (t.insertTerms d).map fun term => (d.fold term.1.name, term.2.isSome)

variable {t : Table} {d : Dialect}

theorem Plan.insert_text :
    ∃ ending, (Plan.insert t d).sql = d.insertion (t.quotedName d) (t.listing d) ++ ending := by
  have names : (t.listing d).map (·.1) = ((t.insertTerms d).map (·.1)).map fun c => d.fold c.name := by
    simp [Table.listing]
  have flags : (t.listing d).map (·.2) = (t.insertTerms d).map fun term => term.2.isSome := by
    simp [Table.listing]
  refine ⟨(t.columns.find? fun c => !c.isTransient && c.autoIncrement).elim "" (fun c => d.insertSuffix c.name) ++
    d.terminator, ?_⟩
  unfold Dialect.insertion
  rw [names, flags, Dialect.quotedNames_columns, ← Dialect.insertedValues_eq, ← String.append_assoc]
  rfl

theorem Plan.get_text :
    (Plan.get t d).sql = d.selection (t.quotedName d) (t.storedColumns.map fun c => d.fold c.name)
      (t.keyColumns.map fun c => d.fold c.name) ++ d.terminator := by
  have keys : (t.keyTerms false).map (fun term => d.fold term.1.name) = t.keyColumns.map fun c => d.fold c.name := by
    simp [Table.keyTerms]
  unfold Dialect.selection
  rw [Dialect.quotedNames_columns, ← keys, ← Dialect.equations_eq]
  rfl

end RowMapper
