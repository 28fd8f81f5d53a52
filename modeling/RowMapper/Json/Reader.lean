import RowMapper.Json.Token

/-!
# Reading JSON

A machine that takes tokens one at a time and keeps the containers that are open. Containers nest at most 127 deep.
-/

namespace RowMapper.Json

/-- An open container with what it holds so far, last first; an object also has the name of its newest member. -/
inductive Frame where
  | array (items : List Json)
  | object (members : List (String × Json)) (name : String)

inductive Expectation where
  | value
  | itemOrClose
  | nameOrClose
  | name
  | colon
  | commaOrClose
  | nothing (document : Json)

structure ReaderState where
  frames : List Frame := []
  expected : Expectation := .value

def finish (frames : List Frame) (value : Json) : ReaderState :=
  match frames with
  | [] => ⟨[], .nothing value⟩
  | .array items :: outer => ⟨.array (value :: items) :: outer, .commaOrClose⟩
  | .object members name :: outer => ⟨.object ((name, value) :: members) name :: outer, .commaOrClose⟩

/-- A container is opened unless too many are open already. -/
def openFrame? (frames : List Frame) (frame : Frame) (expected : Expectation) : Option ReaderState :=
  if frames.length < 127 then some ⟨frame :: frames, expected⟩ else none

def beginValue? (frames : List Frame) : Token → Option ReaderState
  | .scalar value => some (finish frames value)
  | .string s => some (finish frames (.string s))
  | .openArray => openFrame? frames (.array []) .itemOrClose
  | .openObject => openFrame? frames (.object [] "") .nameOrClose
  | _ => none

def readToken? (s : ReaderState) (t : Token) : Option ReaderState :=
  match s.expected, s.frames, t with
  | .itemOrClose, .array items :: outer, .closeArray => some (finish outer (.array items.reverse))
  | .itemOrClose, frames, t => beginValue? frames t
  | .value, frames, t => beginValue? frames t
  | .nameOrClose, .object members _ :: outer, .closeObject => some (finish outer (.object members.reverse))
  | .nameOrClose, .object members _ :: outer, .string name => some ⟨.object members name :: outer, .colon⟩
  | .name, .object members _ :: outer, .string name => some ⟨.object members name :: outer, .colon⟩
  | .colon, frames, .colon => some ⟨frames, .value⟩
  | .commaOrClose, .array items :: outer, .closeArray => some (finish outer (.array items.reverse))
  | .commaOrClose, .object members _ :: outer, .closeObject => some (finish outer (.object members.reverse))
  | .commaOrClose, .array items :: outer, .comma => some ⟨.array items :: outer, .value⟩
  | .commaOrClose, .object members name :: outer, .comma => some ⟨.object members name :: outer, .name⟩
  | _, _, _ => none

/-- The document that a text spells, with the members of objects in the order of the text. -/
def parse? (s : String) : Option Json := do
  let tokens ← scan? (.outside []) s.toList
  match ← tokens.foldlM readToken? {} with
  | ⟨[], .nothing document⟩ => some document
  | _ => none

/-- The canonical form of the document that a text spells. -/
def read? (s : String) : Option Json := (parse? s).map canonical

end RowMapper.Json
