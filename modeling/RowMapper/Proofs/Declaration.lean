import Mathlib.Data.List.Forall2
import RowMapper.Declaration
import RowMapper.Proofs.Table.Calls

/-!
# Reading declarations

A declaration is read exactly if its attributes are of the grammar. Each item says something of the struct or of its
field, the last one counts, and attributes of other paths are not looked at.
-/

namespace RowMapper

open Declaration

structure IsName (s : String) : Prop where
  filled : s ≠ ""
  plain : ∀ c ∈ s.toList, Text.isBlank c = false ∧ c ≠ '"' ∧ c ≠ '\'' ∧ c ≠ '\x60' ∧ c ≠ ';' ∧ c ≠ '\x00'

inductive Tag : String → FieldKind → Prop
  | dash : Tag "-" .transient
  | name {s} (other : s ≠ "-") (valid : IsName s) : Tag s (.column (some s))

/-! ### The grammar -/

inductive FieldItem : AttributeItem → FieldKind → Prop
  | column {key s kind} (named : pathWords key = ["column"]) (tag : Tag s kind) : FieldItem ⟨key, some (.text s)⟩ kind
  | transient {key} (named : pathWords key = ["transient"]) : FieldItem ⟨key, none⟩ .transient
  | embed {key} (named : pathWords key = ["embed"]) : FieldItem ⟨key, none⟩ .embedded

/-- A field's attribute is a text alone or a list of items. -/
inductive FieldForm : AttributeForm → List FieldKind → Prop
  | tag {s kind} (tag : Tag s kind) : FieldForm (.single (.text s)) [kind]
  | items {l kinds} (each : List.Forall₂ FieldItem l kinds) : FieldForm (.items l) kinds

inductive StructSetting where
  | table (name : String)
  | hooks
deriving DecidableEq

inductive StructItem : AttributeItem → StructSetting → Prop
  | table {key s} (named : pathWords key = ["table"]) (valid : IsName s) : StructItem ⟨key, some (.text s)⟩ (.table s)
  | hooks {key} (named : pathWords key = ["hooks"]) : StructItem ⟨key, none⟩ .hooks

inductive StructForm : AttributeForm → List StructSetting → Prop
  | items {l settings} (each : List.Forall₂ StructItem l settings) : StructForm (.items l) settings

/-- All that the attributes of a struct or of a field say, in their order. -/
def AllSaid {γ : Type} (form : AttributeForm → List γ → Prop) (l : List Attribute) (said : List γ) : Prop :=
  ∃ parts, List.Forall₂ (fun a part => form a.form part) (ownAttributes l) parts ∧ said = parts.flatten

def StructSetting.table? : StructSetting → Option String
  | table name => some name
  | hooks => none

def StructSetting.after (sofar : Option String × Bool) : StructSetting → Option String × Bool
  | table name => (some name, sofar.2)
  | hooks => (sofar.1, true)

/-- A field has the kind that its last item sets. Without one it is a column of its own name. -/
def FieldDeclaration.Declares (f : FieldDeclaration) (field : String × FieldKind) : Prop :=
  field.1 = bareWord f.name ∧
    ∃ kinds, AllSaid FieldForm f.attributes kinds ∧ field.2 = kinds.getLast?.getD (.column none)

namespace Declaration

structure Grammatical (d : Declaration) : Prop where
  onStruct : ∀ a ∈ ownAttributes d.attributes, ∃ settings, StructForm a.form settings
  onFields : ∀ f ∈ d.fields, ∀ a ∈ ownAttributes f.attributes, ∃ kinds, FieldForm a.form kinds

structure Declares (d : Declaration) (r : RecordDefinition) : Prop where
  name : r.name = bareWord d.name
  settings : ∃ settings, AllSaid StructForm d.attributes settings ∧
    r.table = (settings.filterMap StructSetting.table?).getLast? ∧ (r.customHooks = true ↔ .hooks ∈ settings)
  fields : List.Forall₂ FieldDeclaration.Declares d.fields r.fields

/-- The declaration with the attributes that can matter. -/
def ownOnly (d : Declaration) : Declaration :=
  { d with
    attributes := ownAttributes d.attributes
    fields := d.fields.map fun f => { f with attributes := ownAttributes f.attributes } }

/-! ### Names and items -/

theorem isNameChar_iff {c : Char} : isNameChar c = true ↔
    Text.isBlank c = false ∧ c ≠ '"' ∧ c ≠ '\'' ∧ c ≠ '\x60' ∧ c ≠ ';' ∧ c ≠ '\x00' := by
  simp [isNameChar]

theorem checkName_ok_iff {s name : String} : checkName s = .ok name ↔ IsName s ∧ name = s := by
  have valid : (s.isEmpty || s.toList.any (!isNameChar ·)) = false ↔ IsName s := by
    simp only [Bool.or_eq_false_iff, List.any_eq_false, Bool.not_eq_true, Bool.not_eq_false', isNameChar_iff]
    constructor
    · rintro ⟨filled, plain⟩
      exact ⟨by simpa using filled, plain⟩
    · rintro ⟨filled, plain⟩
      exact ⟨by simpa using filled, plain⟩
  rw [← valid]
  unfold checkName
  cases s.isEmpty || s.toList.any (!isNameChar ·) with
  | true => simp
  | false => simp [eq_comm]

theorem tagKind_ok_iff {tag : String} {kind : FieldKind} : tagKind tag = .ok kind ↔ Tag tag kind := by
  unfold tagKind
  split
  · rename_i dash
    subst dash
    constructor
    · rintro ⟨⟩
      exact .dash
    · rintro (_ | ⟨other, _⟩)
      · rfl
      · exact absurd rfl other
  · rename_i other
    constructor
    · intro checked
      obtain ⟨name, valid, rfl⟩ := except_map_ok checked
      obtain ⟨valid, rfl⟩ := checkName_ok_iff.mp valid
      exact .name other valid
    · rintro (_ | ⟨_, valid⟩)
      · exact absurd rfl other
      · rw [checkName_ok_iff.mpr ⟨valid, rfl⟩]
        rfl

theorem itemText_ok_iff {i : AttributeItem} {s : String} : itemText i = .ok s ↔ i.value = some (.text s) := by
  obtain ⟨key, _ | v⟩ := i
  · simp [itemText]
  · cases v <;> simp [itemText]

theorem flag_ok_iff {α : Type} {i : AttributeItem} {a b : α} : flag i a = .ok b ↔ i.value = none ∧ b = a := by
  unfold flag
  cases i.value <;> simp [eq_comm]

theorem fieldItem_ok_iff {i : AttributeItem} {kind : FieldKind} : fieldItem i = .ok kind ↔ FieldItem i kind := by
  obtain ⟨key, value⟩ := i
  unfold fieldItem
  constructor
  · intro read
    split at read
    · rename_i named
      obtain ⟨s, text, tagged⟩ := except_bind_ok read
      obtain rfl : value = some (.text s) := itemText_ok_iff.mp text
      exact .column named (tagKind_ok_iff.mp tagged)
    · rename_i named
      obtain ⟨rfl, rfl⟩ := flag_ok_iff.mp read
      exact .transient named
    · rename_i named
      obtain ⟨rfl, rfl⟩ := flag_ok_iff.mp read
      exact .embed named
    · cases read
  · intro item
    cases item with
    | column named tag =>
      simp only [named]
      exact tagKind_ok_iff.mpr tag
    | transient named | embed named =>
      simp only [named]
      exact flag_ok_iff.mpr ⟨rfl, rfl⟩

theorem structItem_ok_iff {sofar next : Option String × Bool} {i : AttributeItem} :
    structItem sofar i = .ok next ↔ ∃ setting, StructItem i setting ∧ next = setting.after sofar := by
  obtain ⟨key, value⟩ := i
  unfold structItem
  constructor
  · intro read
    split at read
    · rename_i named
      obtain ⟨s, text, checked⟩ := except_bind_ok read
      obtain ⟨name, valid, same⟩ := except_bind_ok checked
      cases same
      obtain rfl : value = some (.text s) := itemText_ok_iff.mp text
      obtain ⟨valid, rfl⟩ := checkName_ok_iff.mp valid
      exact ⟨_, .table named valid, rfl⟩
    · rename_i named
      obtain ⟨rfl, rfl⟩ := flag_ok_iff.mp read
      exact ⟨_, .hooks named, rfl⟩
    · cases read
  · rintro ⟨setting, item, rfl⟩
    cases item with
    | table named valid =>
      simp only [named]
      show (checkName _ >>= _) = _
      rw [checkName_ok_iff.mpr ⟨valid, rfl⟩]
      rfl
    | hooks named =>
      simp only [named]
      exact flag_ok_iff.mpr ⟨rfl, rfl⟩

/-! ### Attributes one after the other -/

theorem foldlM_ok_iff {ε α β γ : Type} {step : β → α → Except ε β} {P : α → γ → Prop} {next : β → γ → β}
    (each : ∀ b a c, step b a = .ok c ↔ ∃ x, P a x ∧ c = next b x) {l : List α} {b c : β} :
    l.foldlM step b = .ok c ↔ ∃ xs, List.Forall₂ P l xs ∧ c = xs.foldl next b := by
  induction l generalizing b with
  | nil =>
    simp only [List.foldlM_nil, List.forall₂_nil_left_iff, exists_eq_left, List.foldl_nil]
    exact ⟨fun same => (Except.ok.inj same).symm, fun same => congrArg _ same.symm⟩
  | cons a l ih =>
    rw [List.foldlM_cons]
    constructor
    · intro folded
      obtain ⟨mid, first, rest⟩ := except_bind_ok folded
      obtain ⟨x, holds, rfl⟩ := (each b a mid).mp first
      obtain ⟨xs, all, rfl⟩ := ih.mp rest
      exact ⟨x :: xs, .cons holds all, rfl⟩
    · rintro ⟨_, _ | ⟨holds, all⟩, rfl⟩
      rw [(each b a _).mpr ⟨_, holds, rfl⟩]
      exact ih.mpr ⟨_, all, rfl⟩

/-- Attributes that are read one after the other are read like all that they say. -/
theorem foldlM_ownAttributes {β γ : Type} {form : AttributeForm → List γ → Prop}
    {step : β → Attribute → Except DeclarationError β} {next : β → γ → β}
    (each : ∀ b a c, step b a = .ok c ↔ ∃ part, form a.form part ∧ c = part.foldl next b) {l : List Attribute}
    {b c : β} : (ownAttributes l).foldlM step b = .ok c ↔ ∃ said, AllSaid form l said ∧ c = said.foldl next b := by
  rw [foldlM_ok_iff each]
  constructor
  · rintro ⟨parts, all, rfl⟩
    exact ⟨parts.flatten, ⟨parts, all, rfl⟩, List.foldl_flatten.symm⟩
  · rintro ⟨_, ⟨parts, all, rfl⟩, rfl⟩
    exact ⟨parts, all, List.foldl_flatten⟩

theorem fieldAttribute_ok_iff {sofar kind : FieldKind} {a : Attribute} :
    fieldAttribute sofar a = .ok kind ↔ ∃ kinds, FieldForm a.form kinds ∧ kind = kinds.foldl (fun _ k => k) sofar := by
  have listed : ∀ {l : List AttributeItem}, l.foldlM (fun _ => fieldItem) sofar = .ok kind ↔
      ∃ kinds, List.Forall₂ FieldItem l kinds ∧ kind = kinds.foldl (fun _ k => k) sofar :=
    foldlM_ok_iff fun _ _ _ => by simp [fieldItem_ok_iff]
  obtain ⟨path, form⟩ := a
  unfold fieldAttribute
  cases form with
  | items l =>
    refine listed.trans ⟨?_, ?_⟩
    · rintro ⟨kinds, each, same⟩
      exact ⟨kinds, .items each, same⟩
    · rintro ⟨kinds, _ | ⟨each⟩, same⟩
      exact ⟨kinds, each, same⟩
  | single v =>
    cases v with
    | text tag =>
      refine tagKind_ok_iff.trans ⟨?_, ?_⟩
      · intro tagged
        exact ⟨[kind], .tag tagged, rfl⟩
      · rintro ⟨_, ⟨tagged⟩, rfl⟩
        exact tagged
    | boolean b =>
      -- a boolean is read as the key of an item, which is none of the keys
      refine ⟨?_, nofun⟩
      cases b <;> exact nofun
    | number => exact ⟨nofun, nofun⟩
  | bare | assigned v => exact ⟨nofun, nofun⟩

theorem structAttribute_ok_iff {sofar next : Option String × Bool} {a : Attribute} :
    (do (← argumentItems a.form).foldlM structItem sofar) = .ok next ↔
      ∃ settings, StructForm a.form settings ∧ next = settings.foldl StructSetting.after sofar := by
  have listed : ∀ {l : List AttributeItem}, l.foldlM structItem sofar = .ok next ↔
      ∃ settings, List.Forall₂ StructItem l settings ∧ next = settings.foldl StructSetting.after sofar := by
    intro l
    refine foldlM_ok_iff ?_
    intro sofar i next
    exact structItem_ok_iff
  obtain ⟨path, form⟩ := a
  cases form with
  | items l =>
    refine listed.trans ⟨?_, ?_⟩
    · rintro ⟨settings, each, same⟩
      exact ⟨settings, .items each, same⟩
    · rintro ⟨settings, ⟨each⟩, same⟩
      exact ⟨settings, each, same⟩
  | single v =>
    refine ⟨?_, nofun⟩
    cases v with
    | boolean b => cases b <;> exact nofun
    | text s | number => exact nofun
  | bare | assigned v => exact ⟨nofun, nofun⟩

theorem foldl_last {α : Type} {l : List α} {a : α} : l.foldl (fun _ b => b) a = l.getLast?.getD a := by
  induction l generalizing a with
  | nil => rfl
  | cons b l ih => rw [List.foldl_cons, ih, List.getLast?_cons, Option.getD_some]

theorem fieldKind_ok_iff {f : FieldDeclaration} {kind : FieldKind} : fieldKind f = .ok kind ↔
    ∃ kinds, AllSaid FieldForm f.attributes kinds ∧ kind = kinds.getLast?.getD (.column none) := by
  simp only [← foldl_last]
  exact foldlM_ownAttributes fun _ _ _ => fieldAttribute_ok_iff

theorem foldl_settings {settings : List StructSetting} {sofar : Option String × Bool} :
    (settings.foldl StructSetting.after sofar).1 =
      (settings.filterMap StructSetting.table?).getLast?.or sofar.1 ∧
    ((settings.foldl StructSetting.after sofar).2 = true ↔ sofar.2 = true ∨ .hooks ∈ settings) := by
  induction settings generalizing sofar with
  | nil => simp
  | cons s settings ih =>
    rw [List.foldl_cons]
    obtain ⟨table, hooks⟩ := @ih (s.after sofar)
    rw [table, hooks]
    cases s with
    | table name => simp [StructSetting.after, StructSetting.table?, List.getLast?_cons]
    | hooks => simp [StructSetting.after, StructSetting.table?]

theorem structAttributes_ok_iff {l : List Attribute} {table : Option String} {customHooks : Bool} :
    structAttributes l = .ok (table, customHooks) ↔ ∃ settings, AllSaid StructForm l settings ∧
      table = (settings.filterMap StructSetting.table?).getLast? ∧ (customHooks = true ↔ .hooks ∈ settings) := by
  refine (foldlM_ownAttributes fun _ _ _ => structAttribute_ok_iff).trans (exists_congr fun settings => ?_)
  obtain ⟨lastTable, anyHooks⟩ := @foldl_settings settings (none, false)
  rw [Option.or_none] at lastTable
  simp only [Bool.false_eq_true, false_or] at anyHooks
  rw [Prod.ext_iff, lastTable, ← anyHooks, Bool.coe_iff_coe]

theorem declaredFields_ok_iff {d : Declaration} (named : d.item = .namedFields) {fields : List (String × FieldKind)} :
    d.declaredFields = .ok fields ↔ List.Forall₂ FieldDeclaration.Declares d.fields fields := by
  have each : FieldDeclaration.Declares = fun f field => (fieldKind f).map (bareWord f.name, ·) = .ok field := by
    funext f ⟨name, kind⟩
    rw [FieldDeclaration.Declares, ← fieldKind_ok_iff]
    cases fieldKind f with
    | error e => simp [Except.map]
    | ok found => simp [Except.map, eq_comm]
  unfold declaredFields
  rw [named, each, except_mapM_ok_iff, ← List.forall₂_eq_eq_eq, List.forall₂_map_left_iff, List.forall₂_map_right_iff]

theorem read_ok_iff {d : Declaration} (named : d.item = .namedFields) {r : RecordDefinition} :
    d.read = .ok r ↔ d.Declares r := by
  constructor
  · intro done
    obtain ⟨⟨table, customHooks⟩, onStruct, done⟩ := except_bind_ok done
    obtain ⟨fields, onFields, same⟩ := except_bind_ok done
    cases same
    exact ⟨rfl, structAttributes_ok_iff.mp onStruct, (declaredFields_ok_iff named).mp onFields⟩
  · obtain ⟨name, table, customHooks, fields⟩ := r
    rintro ⟨rfl, onStruct, onFields⟩
    unfold read
    rw [structAttributes_ok_iff.mpr onStruct, (declaredFields_ok_iff named).mpr onFields]
    rfl

/-! ### What is read at all -/

theorem exists_forall₂_iff {α β : Type} {P : α → β → Prop} {l : List α} :
    (∃ xs, List.Forall₂ P l xs) ↔ ∀ a ∈ l, ∃ x, P a x := by
  constructor
  · rintro ⟨xs, all⟩
    induction all with
    | nil => exact List.forall_mem_nil _
    | cons holds _ ih => exact List.forall_mem_cons.mpr ⟨⟨_, holds⟩, ih⟩
  · intro each
    induction l with
    | nil => exact ⟨[], .nil⟩
    | cons a l ih =>
      obtain ⟨⟨x, holds⟩, others⟩ := List.forall_mem_cons.mp each
      obtain ⟨xs, all⟩ := ih others
      exact ⟨x :: xs, .cons holds all⟩

theorem exists_allSaid_iff {γ : Type} {form : AttributeForm → List γ → Prop} {l : List Attribute} :
    (∃ said, AllSaid form l said) ↔ ∀ a ∈ ownAttributes l, ∃ part, form a.form part := by
  rw [← exists_forall₂_iff]
  constructor
  · rintro ⟨_, parts, all, _⟩
    exact ⟨parts, all⟩
  · rintro ⟨parts, all⟩
    exact ⟨_, parts, all, rfl⟩

theorem exists_declares_iff {d : Declaration} : (∃ r, d.Declares r) ↔ d.Grammatical := by
  constructor
  · rintro ⟨r, _, ⟨settings, said, _⟩, fields⟩
    refine ⟨exists_allSaid_iff.mp ⟨settings, said⟩, fun f member => exists_allSaid_iff.mp ?_⟩
    obtain ⟨_, _, kinds, said, _⟩ := exists_forall₂_iff.mp ⟨_, fields⟩ f member
    exact ⟨kinds, said⟩
  · rintro ⟨onStruct, onFields⟩
    obtain ⟨settings, said⟩ := exists_allSaid_iff.mpr onStruct
    have each : ∀ f ∈ d.fields, ∃ field, FieldDeclaration.Declares f field := by
      intro f member
      obtain ⟨kinds, said⟩ := exists_allSaid_iff.mpr (onFields f member)
      exact ⟨(bareWord f.name, kinds.getLast?.getD (.column none)), rfl, kinds, said, rfl⟩
    obtain ⟨fields, declared⟩ := exists_forall₂_iff.mpr each
    exact ⟨⟨bareWord d.name, (settings.filterMap StructSetting.table?).getLast?, decide (.hooks ∈ settings), fields⟩,
      rfl, ⟨settings, said, rfl, by simp⟩, declared⟩

theorem ownAttributes_ownAttributes (l : List Attribute) : ownAttributes (ownAttributes l) = ownAttributes l := by
  simp [ownAttributes]

theorem read_ownOnly (d : Declaration) : d.ownOnly.read = d.read := by
  have onStruct : structAttributes (ownAttributes d.attributes) = structAttributes d.attributes := by
    rw [structAttributes, ownAttributes_ownAttributes]
    rfl
  have onFields : d.ownOnly.declaredFields = d.declaredFields := by
    unfold declaredFields ownOnly
    cases d.item with
    | namedFields =>
      show List.mapM _ (List.map _ _) = _
      rw [List.mapM_map]
      simp only [Function.comp_def, fieldKind, ownAttributes_ownAttributes]
    | _ => rfl
  unfold read
  rw [onFields]
  exact congrArg (· >>= _) onStruct

/-- A struct with named fields is read exactly if its attributes are of the grammar, and then as what they declare.
Attributes whose path is not `db` do not matter. -/
theorem read_by_grammar {d : Declaration} (named : d.item = .namedFields) :
    ((∃ r, d.read = .ok r) ↔ d.Grammatical) ∧ (∀ r, d.read = .ok r ↔ d.Declares r) ∧ d.ownOnly.read = d.read := by
  refine ⟨?_, fun r => read_ok_iff named, d.read_ownOnly⟩
  simp only [read_ok_iff named]
  exact exists_declares_iff

end Declaration

/-- A person whose table is named twice and whose first name is tagged three times. -/
def personDeclaration : Declaration where
  item := .namedFields
  name := "Person"
  attributes :=
    [⟨"db", .items [⟨"table", some (.text "persons")⟩, ⟨"hooks", none⟩]⟩, ⟨"derive", .bare⟩,
      ⟨"db", .items [⟨"table", some (.text "people")⟩]⟩]
  fields :=
    [⟨"id", []⟩,
      ⟨"first", [⟨"db", .single (.text "-")⟩, ⟨"doc", .assigned (.text "two words")⟩,
        ⟨"db", .items [⟨"embed", none⟩, ⟨"column", some (.text "first_name")⟩]⟩]⟩,
      ⟨"loaded", [⟨"db", .items []⟩, ⟨"db", .items [⟨"column", some (.text "-")⟩]⟩]⟩]

def personDefinition : RecordDefinition where
  name := "Person"
  table := some "people"
  customHooks := true
  fields := [("id", .column none), ("first", .column (some "first_name")), ("loaded", .transient)]

theorem person_by_grammar : personDeclaration.Grammatical ∧ personDeclaration.Declares personDefinition := by
  obtain ⟨accepted, declares, _⟩ := Declaration.read_by_grammar (d := personDeclaration) rfl
  have read : personDeclaration.read = .ok personDefinition := by decide
  exact ⟨accepted.mp ⟨_, read⟩, (declares _).mp read⟩

example : { personDeclaration with attributes := [⟨"db", .items [⟨"table", some (.text "two words")⟩]⟩] }.read =
    .error (.invalidName "two words") := by
  decide

end RowMapper
