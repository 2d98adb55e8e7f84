-- SUMMARY: Records by their list of fields, and families of records told apart by a tag: their values, JSON form and reading.
import WikiMarkup.Wire.Codec

/-!
# Records and tagged families

A record is described by its list of fields, and its values are a tuple of that shape. It is
written as an object and read from an object, whose members may come in any order, or from an
array of the values in order. A family is a set of records with one tag each; its object carries
the tag as a further member, and its array as the first item.
-/

namespace WikiMarkup

/-! ## Fields -/

/-- What the absence of a field means. -/
inductive Absence (α : Type) where
  /-- The field has to be given. -/
  | required
  /-- The field may be left out of an object, but not of an array. -/
  | optional (value : α)
  /-- The field may be left out. -/
  | default (value : α)

/-- The value that stands for a member that an object leaves out. -/
def Absence.inObject? {α : Type} : Absence α → Option α
  | required => none
  | optional value => some value
  | default value => some value

/-- The value that stands for an item that an array leaves out. -/
def Absence.inArray? {α : Type} : Absence α → Option α
  | required => none
  | optional _ => none
  | default value => some value

structure Field : Type 1 where
  name : String
  Value : Type
  codec : Codec Value
  absence : Absence Value

/-- The values of a list of fields. -/
def Values : List Field → Type
  | [] => Unit
  | f :: fields => f.Value × Values fields

/-- The values found so far for a list of fields. -/
def Slots : List Field → Type
  | [] => Unit
  | f :: fields => Option f.Value × Slots fields

/-! ## Reading objects -/

namespace Slots

/-- Nothing found. -/
def empty : (fields : List Field) → Slots fields
  | [] => ()
  | _ :: fields => (none, empty fields)

/-- Puts a member into its field. A field is filled once; a name that is no field is passed over. -/
def put (name : String) (value : Json) :
    (fields : List Field) → Slots fields → Except ShapeError (Slots fields)
  | [], slots => .ok slots
  | f :: fields, (slot, slots) =>
    if f.name = name then
      match slot with
      | some _ => .error (.duplicateField name)
      | none => do
        let v ← f.codec.decode value
        .ok (some v, slots)
    else do
      let slots ← put name value fields slots
      .ok (slot, slots)

/-- Puts members one after the other. -/
def putAll {fields : List Field} (slots : Slots fields) :
    List (String × Json) → Except ShapeError (Slots fields)
  | [] => .ok slots
  | (name, value) :: members => do
    let slots ← put name value fields slots
    putAll slots members

/-- The values, once all members are seen. -/
def finish : (fields : List Field) → Slots fields → Except ShapeError (Values fields)
  | [], _ => .ok ()
  | f :: fields, (slot, slots) =>
    match slot.or f.absence.inObject? with
    | none => .error (.missingField f.name)
    | some v => do
      let values ← finish fields slots
      .ok (v, values)

end Slots

namespace Values

/-- The values in the members of an object. -/
def ofMembers (fields : List Field) (members : List (String × Json)) :
    Except ShapeError (Values fields) := do
  let slots ← (Slots.empty fields).putAll members
  slots.finish

/-- The values in the items of an array from place `index` on, and the items left over. `expected`
describes the record in messages. -/
def takeItems (expected : String) :
    (fields : List Field) → (index : Nat) → List Json →
      Except ShapeError (Values fields × List Json)
  | [], _, items => .ok ((), items)
  | f :: fields, index, [] =>
    match f.absence.inArray? with
    | none => .error (.wrongLength index expected)
    | some v => do
      let (values, rest) ← takeItems expected fields (index + 1) []
      .ok ((v, values), rest)
  | f :: fields, index, item :: items => do
    let v ← f.codec.decode item
    let (values, rest) ← takeItems expected fields (index + 1) items
    .ok ((v, values), rest)

/-- The values in the items of an array, none left over. -/
def ofItems (expected : String) (fields : List Field) (items : List Json) :
    Except ShapeError (Values fields) := do
  let (values, rest) ← takeItems expected fields 0 items
  if rest.isEmpty then .ok values
  else .error (.wrongLength items.length (countedElements fields.length ++ " in sequence"))

/-- The members of the object that holds the values. -/
def members : (fields : List Field) → Values fields → List (String × Json)
  | [], _ => []
  | f :: fields, (v, values) => (f.name, f.codec.encode v) :: members fields values

end Values

/-! ## Records -/

/-- A type whose values are those of a list of fields. -/
structure Record (α : Type) : Type 1 where
  /-- How messages call the type. -/
  title : String
  fields : List Field
  build : Values fields → α
  split : α → Values fields

def Record.codec {α : Type} (r : Record α) : Codec α where
  encode a := .object ((r.split a).members r.fields)
  decode
    | .object members => (Values.ofMembers r.fields members).map r.build
    | .array items => (Values.ofItems r.title r.fields items).map r.build
    | j => .error (.wrongType j r.title)

/-! ## Families -/

/-- A type whose values are records of several shapes, each with a tag. -/
structure Family (α : Type) : Type 1 where
  /-- How messages call the type. -/
  title : String
  /-- The name of the member that holds the tag. -/
  key : String
  Tag : Type
  tags : List Tag
  tagName : Tag → String
  fields : Tag → List Field
  build : (tag : Tag) → Values (fields tag) → α
  split : α → (tag : Tag) × Values (fields tag)

namespace Family

variable {α : Type} (family : Family α)

/-- The tag of that name. -/
def tagOfName (name : String) : Except ShapeError family.Tag :=
  Codec.ofName family.tags family.tagName name

/-- The tag that a value names, by its name or by its place among the tags. -/
def tagOf : Json → Except ShapeError family.Tag
  | .text name => family.tagOfName name
  | .number (.integer (.ofNat i)) =>
    match family.tags[i]? with
    | some tag => .ok tag
    | none =>
      .error (.wrongValue (.integer i)
        ("variant index 0 <= i < " ++ toString family.tags.length))
  | j => .error (.wrongType j "variant identifier")

/-- A name such as `on_word` in the form `OnWord`. -/
def capitalised (name : String) : String :=
  String.join ((name.splitOn "_").map String.capitalize)

/-- How messages call the record of a tag, with the number of its fields. -/
def recordTitle (tag : family.Tag) : String :=
  "struct variant " ++ family.title ++ "::" ++ capitalised (family.tagName tag)
    ++ " with " ++ countedElements (family.fields tag).length

/-- The value of a tag with the fields found among the members of an object. -/
def ofMembers (tag : family.Tag) (members : List (String × Json)) : Except ShapeError α :=
  (Values.ofMembers (family.fields tag) members).map (family.build tag)

/-- The value of a tag with the fields given by the items of an array. -/
def ofItems (tag : family.Tag) (items : List Json) : Except ShapeError α :=
  (Values.ofItems (family.recordTitle tag) (family.fields tag) items).map (family.build tag)

/-- The error for a value that is neither an object nor an array. -/
def notTagged (j : Json) : ShapeError :=
  .wrongType j ("internally tagged enum " ++ family.title)

/-- Splits the members of an object into the tag and the others, from those already seen. -/
def collect (tag : Option family.Tag) (before : List (String × Json)) :
    List (String × Json) → Except ShapeError (Option family.Tag × List (String × Json))
  | [] => .ok (tag, before)
  | (name, value) :: members =>
    if name = family.key then
      match tag with
      | some _ => .error (.duplicateField family.key)
      | none => do
        let tag ← family.tagOf value
        collect (some tag) before members
    else collect tag (before ++ [(name, value)]) members

/-- The value whose tag, if any, was found, with the members beside it. -/
def ofCollected : Option family.Tag × List (String × Json) → Except ShapeError α
  | (none, _) => .error (.missingField family.key)
  | (some tag, members) => family.ofMembers tag members

def codec : Codec α where
  encode a :=
    let ⟨tag, values⟩ := family.split a
    .object ((family.key, .text (family.tagName tag)) :: values.members (family.fields tag))
  decode
    | .object members => do
      let collected ← family.collect none [] members
      family.ofCollected collected
    | .array [] => .error (.missingField family.key)
    | .array (item :: items) => do
      let tag ← family.tagOf item
      family.ofItems tag items
    | j => .error (family.notTagged j)

end Family

end WikiMarkup
