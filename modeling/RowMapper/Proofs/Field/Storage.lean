import RowMapper.Proofs.Field.RoundTrip
import RowMapper.Proofs.Json.Read
import RowMapper.Store.Cell

/-!
# Fields keep their contents in a store

A store has fewer kinds of cells than there are kinds of values: integers of every width, booleans and moments come back
as 64-bit integers, and documents as text. A field reads from what comes back what it would have read from its value.
-/

namespace RowMapper

open Number Store

namespace Store.Cell

theorem toValue_isNull (v : Value) : (ofValue v).toValue.isNull = v.isNull := by
  cases v <;> rfl

theorem toValue_of_integer? {v : Value} {n : Int64} (number : v.integer? = some n) :
    (ofValue v).toValue = .bigInt n := by
  cases v with
  | tinyInt | smallInt | int | bigInt =>
    cases number
    rfl
  | null | bool | float | double | text | bytes | timestamp | json => cases number

end Store.Cell

/-- An integer of any width is read from the 64 bits that the store keeps. -/
theorem IntKind.load_stored {k : IntKind} (n : k.Num) :
    k.load (Cell.ofValue (k.store n)).toValue = k.load (k.store n) := by
  rw [load_store, Cell.toValue_of_integer? (integer?_store n)]
  simp only [load, Value.asInt?, widen_ofInt, ofInt?_val]

example : Cell.ofValue (IntKind.u64.store ⟨UInt64.size - 1, by decide, by decide⟩) = .integer (-1) := by decide

theorem Json.fits_int64 (n : Int64) : Json.Fits n.toInt :=
  ⟨n.le_toInt, Int.lt_of_le_of_lt n.toInt_le (by decide)⟩

theorem loadShaped_text {α : Type} {shape? : Json → Option α} {j : Json} (plain : Json.Plain 127 j) :
    loadShaped shape? (.text j.text) = loadShaped shape? (.json j) := by
  have read : loadJson "Json" (.text j.text) = loadJson "Json" (.json j) := by
    simp [loadJson, Json.parse?_text plain]
  rw [loadShaped, read]
  rfl

theorem loadDocument_text {j : Json} (read : Json.read? j.text = some j) :
    loadDocument (.text j.text) = loadDocument (.json j) := by
  obtain ⟨parsed, spelled, canonical⟩ := Option.map_eq_some_iff.mp read
  have loaded : loadJson "serde_json::Value" (.text j.text) = .ok parsed := by
    simp [loadJson, spelled]
  show (loadJson "serde_json::Value" (.text j.text)).map Json.canonical = .ok j
  rw [loaded]
  exact congrArg Except.ok canonical

namespace NativeType

variable {t : NativeType} {v : Value}

def holdsDocument : NativeType → Bool
  | document => true
  | option t => t.holdsDocument
  | _ => false

/-- The store loses nothing of a value that its field reads, provided that documents of any form are read as printed. -/
theorem decode_stored {x : t.Carrier} (encoded : t.encode x = .ok v)
    (inverts : t.holdsDocument = true → ∀ j, v = .json j → Json.read? j.text = some j) :
    t.decode (Cell.ofValue v).toValue = t.decode v := by
  induction t generalizing v with
  | bool =>
    cases encoded
    cases x <;> rfl
  | int k =>
    cases encoded
    exact IntKind.load_stored x
  | single | double | text | bytes =>
    cases encoded
    rfl
  | instant =>
    simp only [encode] at encoded
    split at encoded
    · cases encoded
      rfl
    · cases encoded
  | document =>
    cases encoded
    exact loadDocument_text (inverts rfl x rfl)
  | textList =>
    cases encoded
    have plain : Json.Plain 127 (.array (List.map Json.string x)) :=
      .array fun y member => by
        obtain ⟨s, _, rfl⟩ := List.mem_map.mp member
        exact .string s
    exact loadShaped_text plain
  | intList =>
    cases encoded
    have plain : Json.Plain 127 (.array (List.map (fun n : Int64 => Json.integer n.toInt) x)) :=
      .array fun y member => by
        obtain ⟨n, _, rfl⟩ := List.mem_map.mp member
        exact .integer (Json.fits_int64 n)
    exact loadShaped_text plain
  | intMap =>
    cases encoded
    have plain : Json.Plain 127 (.object (List.map (fun m : String × Int64 => (m.1, Json.integer m.2.toInt)) x)) :=
      .object fun y member => by
        obtain ⟨m, _, rfl⟩ := List.mem_map.mp member
        exact .integer (Json.fits_int64 m.2)
    exact loadShaped_text plain
  | option t ih =>
    cases x with
    | none =>
      cases encoded
      rfl
    | some x =>
      have same := ih encoded inverts
      simp only [decode, Cell.toValue_isNull, same]

/-- An exact content is read from its value, and from what a store hands back for that value. -/
theorem reads_back {x : t.Carrier} (encoded : t.encode x = .ok v) (exact : t.Exact x) :
    t.decode v = .ok x ∧
      ((t.holdsDocument = true → ∀ j, v = .json j → Json.read? j.text = some j) →
        t.decode (Cell.ofValue v).toValue = .ok x) := by
  have direct : t.decode v = .ok x := by
    obtain ⟨y, decoded, same⟩ := decode_of_encode encoded
    rw [decoded, same exact]
  exact ⟨direct, fun inverts => (decode_stored encoded inverts).trans direct⟩

/-- A field that holds the document null is not read as an absent one. -/
theorem presentNull_reads_back :
    (option document).encode (some Json.null) = .ok (.json .null) ∧ (option document).Exact (some Json.null) ∧
      (option document).decode (.json .null) = .ok (some Json.null) ∧
      (option document).decode (Cell.ofValue (.json .null)).toValue = .ok (some Json.null) := by
  have reads := reads_back (t := option document) (x := some Json.null) (v := .json .null) rfl ⟨rfl, trivial⟩
  refine ⟨rfl, ⟨rfl, trivial⟩, reads.1, reads.2 fun _ j printed => ?_⟩
  cases printed
  exact Json.read?_text .null rfl

end NativeType

end RowMapper
