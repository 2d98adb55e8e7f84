-- SUMMARY: Codecs between JSON values and the texts, numbers and names that fields hold.
import WikiMarkup.Wire.Shape

/-!
# Codecs

A codec pairs the JSON form of a value with its reader. The reader may accept more spellings than
the one that is written; what it refuses, it refuses with a shape error.
-/

namespace WikiMarkup

/-- A JSON form: how a value is written and how it is read. -/
structure Codec (α : Type) where
  encode : α → Json
  decode : Json → Except ShapeError α

namespace Codec

/-! ## Scalars -/

/-- Reads a text. -/
def decodeText : Json → Except ShapeError String
  | .text s => .ok s
  | j => .error (.wrongType j "a string")

def text : Codec String where
  encode := .text
  decode := decodeText

/-- A text as a string, or its absence as `null`. -/
def optionalText : Codec (Option String) where
  encode
    | some s => .text s
    | none => .null
  decode
    | .null => .ok none
    | j => (decodeText j).map some

def flag : Codec Bool where
  encode := .boolean
  decode
    | .boolean b => .ok b
    | j => .error (.wrongType j "a boolean")

/-- Reads an integer from zero to below `bound`, called `expected` in messages. -/
def decodeNatural (bound : Nat) (expected : String) : Json → Except ShapeError Nat
  | .number (.integer i) =>
    if 0 ≤ i ∧ i < bound then .ok i.toNat else .error (.wrongValue (.integer i) expected)
  | j => .error (.wrongType j expected)

/-- A section level as its number. Numbers beyond eight bits are refused as such. -/
def sectionLevel : Codec SectionLevel where
  encode level := .integer level.toNat
  decode j := do
    let n ← decodeNatural 256 "u8" j
    match SectionLevel.ofNat? n with
    | some level => .ok level
    | none => .error (.sectionLevel n)

/-- A count of 64 bits as an integer. -/
def count : Codec UInt64 where
  encode n := .integer n.toNat
  decode j := (decodeNatural UInt64.size "usize" j).map UInt64.ofNat

/-- A character as a string of just that one. -/
def character : Codec Char where
  encode c := .text (String.singleton c)
  decode
    | .text s =>
      match s.toList with
      | [c] => .ok c
      | _ => .error (.wrongValue (.text s) "a character")
    | j => .error (.wrongType j "a character")

/-! ## Names -/

/-- The value of that name among `all`. -/
def ofName {α : Type} (all : List α) (name : α → String) (s : String) : Except ShapeError α :=
  match all.find? (name · = s) with
  | some a => .ok a
  | none => .error (.unknownVariant s (all.map name))

/-- Accepts `null` and the empty object. -/
def decodeUnit : Json → Except ShapeError Unit
  | .null => .ok ()
  | .object [] => .ok ()
  | j => .error (.wrongType j "unit")

/-- One of finitely many values, written by name. It is also read from an object whose only member
has that name and holds nothing. -/
def choice {α : Type} (all : List α) (name : α → String) : Codec α where
  encode a := .text (name a)
  decode
    | .text s => ofName all name s
    | .object [(s, inner)] => do
      let a ← ofName all name s
      decodeUnit inner
      .ok a
    | .object members => .error (.wrongValue (.object members) "map with a single key")
    | j => .error (.wrongType j "string or map")

/-- Lists are `bulleted` or `numbered`. -/
def listKind : Codec ListKind :=
  choice [.bulleted, .numbered] fun
    | .bulleted => "bulleted"
    | .numbered => "numbered"

/-- Formats go by their names. -/
def format : Codec Format :=
  choice [.bold, .italic, .strikeout, .underline, .superscript, .subscript, .monospace] fun
    | .bold => "bold"
    | .italic => "italic"
    | .strikeout => "strikeout"
    | .underline => "underline"
    | .superscript => "superscript"
    | .subscript => "subscript"
    | .monospace => "monospace"

/-- Links point to a `document` or a `uri`. -/
def linkKind : Codec LinkKind :=
  choice [.document, .uri] fun
    | .document => "document"
    | .uri => "uri"

/-! ## Parameters -/

/-- Stores the members of an object one after the other. -/
def storeMembers (p : Parameters) : List (String × Json) → Except ShapeError Parameters
  | [] => .ok p
  | (name, value) :: members => do
    let text ← decodeText value
    storeMembers (p.insert name text) members

/-- Parameters as an object of strings; of a repeated name the last value counts, in the first
place. -/
def parameters : Codec Parameters where
  encode p := .object (p.entries.map fun entry => (entry.1, .text entry.2))
  decode
    | .object members => storeMembers .empty members
    | j => .error (.wrongType j "a map of string parameters")

end Codec

end WikiMarkup
