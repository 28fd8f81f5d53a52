import RowMapper.Proofs.Sql.Names

/-!
# Reading table definitions

A reader of what a table definition lists. It knows words in any case, quoted names, parentheses and commas. A list is
split at its outermost commas: an item that begins with a name defines that column, any other is about the table. Where
the words for a primary key follow each other, an item declares one.
-/

namespace RowMapper

open Sql

namespace Sql

/-- What a definition is written in. Words are in lower case. -/
inductive Mark where
  | word (s : String)
  | name (s : String)
  | comma
  | opened
  | closed
deriving DecidableEq

/-- Characters that end a word, with what they mean. -/
def boundary? : Char → Option (List Mark)
  | ' ' | '\t' | '\r' | '\n' => some []
  | ',' => some [.comma]
  | '(' => some [.opened]
  | ')' => some [.closed]
  | _ => none

def wordOf (letters : List Char) : List Mark :=
  if letters.isEmpty then [] else [.word (String.ofList (letters.map Char.toLower))]

/-- The marks of lexemes, where `letters` has been read of a word. -/
def marksFrom (letters : List Char) : List Lexeme → List Mark
  | [] => wordOf letters
  | .symbol c :: rest =>
    match boundary? c with
    | some marks => wordOf letters ++ marks ++ marksFrom [] rest
    | none => marksFrom (letters ++ [c]) rest
  | .name s :: rest => wordOf letters ++ .name s :: marksFrom [] rest
  | .placeholder s :: rest => wordOf letters ++ .word s :: marksFrom [] rest

def marks (lexemes : List Lexeme) : List Mark := marksFrom [] lexemes

/-- The items of a list, where `item` has been read of one, within so many open parentheses. -/
def itemsFrom (depth : Nat) (item : List Mark) : List Mark → List (List Mark)
  | [] => [item]
  | .comma :: rest =>
    if depth = 0 then item :: itemsFrom 0 [] rest else itemsFrom depth (item ++ [.comma]) rest
  | .opened :: rest => itemsFrom (depth + 1) (item ++ [.opened]) rest
  | .closed :: rest => itemsFrom (depth - 1) (item ++ [.closed]) rest
  | .word s :: rest => itemsFrom depth (item ++ [.word s]) rest
  | .name s :: rest => itemsFrom depth (item ++ [.name s]) rest

def items (marks : List Mark) : List (List Mark) := itemsFrom 0 [] marks

/-- How many parentheses are open after marks that have no comma outside of them and close only what they opened. -/
def depthAfter (depth : Nat) : List Mark → Option Nat
  | [] => some depth
  | .comma :: rest => if depth = 0 then none else depthAfter depth rest
  | .opened :: rest => depthAfter (depth + 1) rest
  | .closed :: rest => if depth = 0 then none else depthAfter (depth - 1) rest
  | .word _ :: rest | .name _ :: rest => depthAfter depth rest

def IsItem (marks : List Mark) : Prop := depthAfter 0 marks = some 0

/-- How often the words for a primary key follow each other. -/
def keyPhrases : List Mark → Nat
  | [] => 0
  | mark :: rest =>
    (if mark = .word "primary" ∧ rest.head? = some (.word "key") then 1 else 0) + keyPhrases rest

/-- What declares a primary key: the definition of a column, or a clause with the names in it. -/
inductive KeyDeclaration where
  | column (name : String)
  | clause (names : List String)
deriving DecidableEq

def Mark.name? : Mark → Option String
  | name s => some s
  | _ => none

def itemDeclarations (item : List Mark) : List KeyDeclaration :=
  match item.head?.bind Mark.name? with
  | some s => List.replicate (keyPhrases item) (.column s)
  | none => List.replicate (keyPhrases item) (.clause (item.filterMap Mark.name?))

def keyDeclarations (marks : List Mark) : List KeyDeclaration := (items marks).flatMap itemDeclarations

/-- Plain text that begins a new word after it, with what it means. -/
structure Opens (s : String) (before : List Mark) : Prop where
  common : isCommon s = true
  after : ∀ lexemes, marks (symbols s ++ lexemes) = before ++ marks lexemes

def Bounded (lexemes : List Lexeme) : Prop :=
  match lexemes with
  | .symbol c :: _ => (boundary? c).isSome = true
  | _ => True

/-- Plain text that also ends the word before it. -/
structure Divides (s : String) (between : List Mark) : Prop extends Opens s between where
  separator : isSeparator s = true
  bounded : ∀ lexemes, Bounded (symbols s ++ lexemes)

theorem divides_blank : Divides " " [] := ⟨⟨by decide, fun _ => rfl⟩, by decide, fun _ => rfl⟩

theorem divides_comma : Divides ", " [.comma] := ⟨⟨by decide, fun _ => rfl⟩, by decide, fun _ => rfl⟩

theorem divides_opened : Divides " (" [.opened] := ⟨⟨by decide, fun _ => rfl⟩, by decide, fun _ => rfl⟩

section

variable {letters : List Char} {lexemes more : List Lexeme} {first second item : List Mark} {lists : List (List Mark)}

theorem marksFrom_bounded (bounded : Bounded more) : marksFrom letters more = wordOf letters ++ marks more := by
  unfold marks
  cases more with
  | nil => exact (List.append_nil _).symm
  | cons lexeme rest =>
    cases lexeme with
    | symbol c =>
      obtain ⟨found, ends⟩ := Option.isSome_iff_exists.mp bounded
      simp [marksFrom, ends, wordOf]
    | name s | placeholder s => simp [marksFrom, wordOf]

theorem marksFrom_append (bounded : Bounded more) :
    marksFrom letters (lexemes ++ more) = marksFrom letters lexemes ++ marks more := by
  induction lexemes generalizing letters with
  | nil => exact marksFrom_bounded bounded
  | cons lexeme rest ih =>
    cases lexeme with
    | symbol c =>
      rw [List.cons_append, marksFrom, marksFrom]
      cases boundary? c with
      | some found => simp only [ih, List.append_assoc]
      | none => exact ih
    | name s | placeholder s =>
      rw [List.cons_append, marksFrom, marksFrom, ih, List.append_assoc, List.cons_append]

theorem marks_append (bounded : Bounded more) : marks (lexemes ++ more) = marks lexemes ++ marks more :=
  marksFrom_append bounded

/-- Characters that end no word are all of one. -/
theorem marksFrom_symbols {s : String} (within : ∀ c ∈ s.toList, boundary? c = none) :
    marksFrom letters (symbols s ++ lexemes) = marksFrom (letters ++ s.toList) lexemes := by
  unfold symbols
  generalize s.toList = cs at within
  induction cs generalizing letters with
  | nil => rw [List.append_nil]; rfl
  | cons c rest ih =>
    have inside := within c List.mem_cons_self
    have others : marksFrom (letters ++ [c]) (rest.map Lexeme.symbol ++ lexemes) =
        marksFrom (letters ++ [c] ++ rest) lexemes := ih fun d member => within d (List.mem_cons_of_mem _ member)
    rw [List.map_cons, List.cons_append, marksFrom, inside]
    rwa [List.append_assoc] at others

theorem depthAfter_append (n : Nat) :
    depthAfter n (first ++ second) = (depthAfter n first).bind fun depth => depthAfter depth second := by
  induction first generalizing n with
  | nil => rfl
  | cons mark rest ih =>
    cases mark with
    | comma | closed =>
      simp only [List.cons_append, depthAfter]
      split
      · rfl
      · exact ih _
    | opened | word s | name s => exact ih _

theorem IsItem.append (item : IsItem first) (also : IsItem second) : IsItem (first ++ second) := by
  rw [IsItem, depthAfter_append, item]
  exact also

theorem itemsFrom_append {n depth : Nat} (after : depthAfter n first = some depth) :
    itemsFrom n item (first ++ second) = itemsFrom depth (item ++ first) second := by
  induction first generalizing n item with
  | nil =>
    cases after
    rw [List.append_nil]
    rfl
  | cons mark rest ih =>
    have next {item : List Mark} : item ++ mark :: rest = item ++ [mark] ++ rest := by simp
    rw [next]
    cases mark with
    | comma =>
      rw [depthAfter] at after
      split at after
      · cases after
      · rename_i inside
        rw [List.cons_append, itemsFrom, if_neg inside]
        exact ih after
    | closed =>
      rw [depthAfter] at after
      split at after
      · cases after
      · exact ih after
    | opened | word s | name s => exact ih after

theorem items_intercalate (each : ∀ l ∈ lists, IsItem l) (some : lists ≠ []) :
    items ([.comma].intercalate lists) = lists := by
  unfold items
  induction lists with
  | nil => exact absurd rfl some
  | cons first rest ih =>
    have here := each first List.mem_cons_self
    cases rest with
    | nil =>
      have alone : itemsFrom 0 [] (first ++ []) = itemsFrom 0 first [] := itemsFrom_append here
      rw [List.append_nil] at alone
      rw [List.intercalate_singleton, alone]
      rfl
    | cons second rest =>
      have others := ih (fun l member => each l (List.mem_cons_of_mem _ member)) (List.cons_ne_nil _ _)
      rw [List.intercalate_cons_cons, List.append_assoc, itemsFrom_append here, List.singleton_append, itemsFrom,
        if_pos rfl, others]
      rfl

theorem keyPhrases_append (apart : second.head? ≠ some (.word "key")) :
    keyPhrases (first ++ second) = keyPhrases first + keyPhrases second := by
  induction first with
  | nil => exact (Nat.zero_add _).symm
  | cons mark rest ih =>
    have sameNext : (rest ++ second).head? = some (.word "key") ↔ rest.head? = some (.word "key") := by
      cases rest with
      | nil => exact ⟨fun next => absurd next apart, nofun⟩
      | cons next rest => exact .rfl
    rw [List.cons_append, keyPhrases, keyPhrases, ih, if_congr (and_congr_right' sameNext) rfl rfl, Nat.add_assoc]

theorem keyPhrases_silent (silent : .word "primary" ∉ first) :
    keyPhrases (first ++ second) = keyPhrases second := by
  induction first with
  | nil => rfl
  | cons mark rest ih =>
    rw [List.mem_cons, not_or] at silent
    rw [List.cons_append, keyPhrases, if_neg fun declares => silent.1 declares.1.symm, ih silent.2, Nat.zero_add]

theorem length_itemDeclarations : (itemDeclarations item).length = keyPhrases item := by
  unfold itemDeclarations
  split <;> exact List.length_replicate

theorem length_itemsFrom (n : Nat) :
    ((itemsFrom n item first).flatMap itemDeclarations).length = keyPhrases (item ++ first) := by
  induction first generalizing n item with
  | nil => rw [itemsFrom, List.flatMap_singleton, length_itemDeclarations, List.append_nil]
  | cons mark rest ih =>
    have next : item ++ mark :: rest = item ++ [mark] ++ rest := by simp
    cases mark with
    | comma =>
      rw [itemsFrom]
      split
      · have parted : keyPhrases (item ++ .comma :: rest) = keyPhrases item + keyPhrases ([.comma] ++ rest) :=
          keyPhrases_append nofun
        have comma : keyPhrases ([.comma] ++ rest) = keyPhrases rest := keyPhrases_silent (by decide)
        rw [List.flatMap_cons, List.length_append, length_itemDeclarations, ih, parted, comma]
        rfl
      · rw [next]
        exact ih n
    | opened | closed | word s | name s =>
      rw [next]
      exact ih _

/-- Each place where the words for a primary key stand is one declaration. -/
theorem length_keyDeclarations (marks : List Mark) : (keyDeclarations marks).length = keyPhrases marks :=
  length_itemsFrom 0

theorem keyDeclarations_intercalate (each : ∀ l ∈ lists, IsItem l) :
    keyDeclarations ([.comma].intercalate lists) = lists.flatMap itemDeclarations := by
  cases lists with
  | nil => rfl
  | cons first rest => rw [keyDeclarations, items_intercalate each (List.cons_ne_nil _ _)]

end

end Sql

namespace Dialect

variable {d : Dialect} {names more : List String} {first second between : List Mark} {text later s : String}

def marks (d : Dialect) (text : String) : List Mark := Sql.marks (d.scan text)

/-- What the list of a definition declares as primary keys. -/
def keyDeclarations (d : Dialect) (list : String) : List KeyDeclaration := Sql.keyDeclarations (d.marks list)

theorem scan_plain (plain : Plain d.quoteChar d.marker s) : d.scan s = symbols s := by
  have readable : Readable d.quoteChar d.marker (symbols s ++ []) := readable_symbols_append plain trivial
  rw [List.append_nil] at readable
  exact scan_of_write write_symbols.symm readable marker_ne_quoteChar

theorem scan_quote (ident : String) : d.scan (d.quote ident) = [.name (d.fold ident)] :=
  scan_of_write (quote_toList ident) (readable_name ident) marker_ne_quoteChar

theorem Quotes.scan_after (quotes : d.Quotes names text) (plain : Plain d.quoteChar d.marker s) :
    d.scan (s ++ text) = symbols s ++ d.scan text := by
  obtain ⟨lexemes, written, readable, _⟩ := quotes
  rw [scan, scan, scan_of_write written readable marker_ne_quoteChar]
  refine scan_of_write ?_ (readable_symbols_append plain readable) marker_ne_quoteChar
  rw [String.toList_append, write_append, write_symbols, written]

theorem Quotes.scan_andThen (quotes : d.Quotes names text) (separator : isSeparator s = true)
    (others : d.Quotes more later) : d.scan (text ++ s ++ later) = d.scan text ++ (symbols s ++ d.scan later) := by
  have plain : Plain d.quoteChar d.marker s := plain_of_common (isCommon_of_separator separator)
  have separates := separates_of_separator separator
  obtain ⟨lexemes, written, readable, _⟩ := quotes
  obtain ⟨following, writtenLater, readableLater, _⟩ := others
  rw [scan, scan, scan, scan_of_write written readable marker_ne_quoteChar,
    scan_of_write writtenLater readableLater marker_ne_quoteChar, ← List.append_assoc]
  refine scan_of_write ?_ (readable.andThen plain separates readableLater) marker_ne_quoteChar
  rw [String.toList_append, String.toList_append, write_append, write_append, write_symbols, written, writtenLater]

/-- Whether text can be read, and has these marks. -/
structure Shows (d : Dialect) (marks : List Mark) (text : String) : Prop where
  readable : ∃ names, d.Quotes names text
  marked : d.marks text = marks

theorem shows_plain (plain : Plain d.quoteChar d.marker s) : d.Shows (Sql.marks (symbols s)) s :=
  ⟨⟨_, quotes_plain plain⟩, by rw [marks, scan_plain plain]⟩

theorem shows_quote (ident : String) : d.Shows [.name (d.fold ident)] (d.quote ident) :=
  ⟨⟨_, quotes_name ident⟩, by rw [marks, scan_quote]; rfl⟩

theorem Shows.after (shows : d.Shows first text) (opens : Opens s between) :
    d.Shows (between ++ first) (s ++ text) := by
  obtain ⟨⟨names, quotes⟩, rfl⟩ := shows
  have plain : Plain d.quoteChar d.marker s := plain_of_common opens.common
  exact ⟨⟨names, quotes.after plain⟩, by rw [marks, quotes.scan_after plain, opens.after, ← marks]⟩

theorem Shows.andThen (shows : d.Shows first text) (divides : Divides s between) (others : d.Shows second later) :
    d.Shows (first ++ between ++ second) (text ++ s ++ later) := by
  obtain ⟨⟨names, quotes⟩, rfl⟩ := shows
  obtain ⟨⟨more, quotesLater⟩, rfl⟩ := others
  refine ⟨⟨names ++ more, quotes.andThen divides.separator quotesLater⟩, ?_⟩
  rw [marks, quotes.scan_andThen divides.separator quotesLater, marks_append (divides.bounded _), divides.after,
    List.append_assoc]
  rfl

theorem Shows.ending (shows : d.Shows first text) (separator : isSeparator s = true) (bounded : Bounded (symbols s)) :
    d.Shows (first ++ Sql.marks (symbols s)) (text ++ s) := by
  obtain ⟨⟨names, quotes⟩, rfl⟩ := shows
  have plain : Plain d.quoteChar d.marker s := plain_of_common (isCommon_of_separator separator)
  have nothing : Plain d.quoteChar d.marker "" := plain_of_common (by decide)
  have scanned := quotes.scan_andThen separator (quotes_plain nothing)
  rw [String.append_empty, scan_plain nothing] at scanned
  refine ⟨⟨names, quotes.ending plain (.inr (separates_of_separator separator))⟩, ?_⟩
  have symbolsOnly : symbols s ++ symbols "" = symbols s := List.append_nil _
  rw [marks, scanned, symbolsOnly, marks_append bounded]
  rfl

theorem Shows.clause {b : Prop} [Decidable b] (shows : d.Shows first text) (separator : isSeparator s = true)
    (bounded : Bounded (symbols s)) :
    d.Shows (first ++ if b then Sql.marks (symbols s) else []) (text ++ if b then s else "") := by
  split
  · exact shows.ending separator bounded
  · rwa [List.append_nil, String.append_empty]

theorem shows_intercalate {α : Type} {marked : α → List Mark} {shown : α → String} {l : List α}
    (each : ∀ a ∈ l, d.Shows (marked a) (shown a)) :
    d.Shows ([.comma].intercalate (l.map marked)) (", ".intercalate (l.map shown)) := by
  induction l with
  | nil => exact shows_plain (s := "") (plain_of_common (by decide))
  | cons a rest ih =>
    have first := each a List.mem_cons_self
    have others := ih fun b member => each b (List.mem_cons_of_mem _ member)
    cases rest with
    | nil => simpa using first
    | cons b rest =>
      rw [List.map_cons, List.map_cons, List.map_cons, List.map_cons, String.intercalate_cons_cons,
        List.intercalate_cons_cons]
      exact first.andThen divides_comma others

end Dialect

end RowMapper
