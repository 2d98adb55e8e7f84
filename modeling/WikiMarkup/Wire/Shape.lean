-- SUMMARY: Why a JSON value does not have the shape that a reader expects, and the message for each cause.
import WikiMarkup.Json.Basic
import WikiMarkup.Text.Quoted
import WikiMarkup.Document.Event

/-!
# Shape errors

A shape error is found in a value that is correct JSON. Its message names what was found and what
was expected.
-/

namespace WikiMarkup

/-- Why a JSON value is not what was expected. -/
inductive ShapeError where
  /-- The value is of another kind. -/
  | wrongType (found : Json) (expected : String)
  /-- The value is of the right kind but not among those allowed. -/
  | wrongValue (found : Json) (expected : String)
  /-- A list ends before the item at this place, or has so many items instead of those expected. -/
  | wrongLength (length : Nat) (expected : String)
  /-- A name is none of the known ones. -/
  | unknownVariant (name : String) (known : List String)
  | missingField (name : String)
  | duplicateField (name : String)
  /-- A number of eight bits is not a section level. -/
  | sectionLevel (level : Nat)
  deriving Repr

namespace ShapeError

/-- How a message refers to a value: scalars are shown, arrays and objects only named. -/
def describe : Json → String
  | .null => "null"
  | .boolean b => "boolean `" ++ toString b ++ "`"
  | .number (.integer i) => "integer `" ++ String.ofList (Binary64.integerText i) ++ "`"
  | .number (.float f) => "floating point `" ++ String.ofList f.text ++ "`"
  | .text s => "string " ++ Text.quote s
  | .array _ => "sequence"
  | .object _ => "map"

/-- A name between backticks. -/
def ticked (name : String) : String := "`" ++ name ++ "`"

/-- The known names as alternatives: two joined by `or`, more as a list. -/
def alternatives : List String → String
  | [] => "nothing"
  | [a] => ticked a
  | [a, b] => ticked a ++ " or " ++ ticked b
  | names => "one of " ++ ", ".intercalate (names.map ticked)

/-- The message for each cause. -/
def message : ShapeError → String
  | wrongType found expected => "invalid type: " ++ describe found ++ ", expected " ++ expected
  | wrongValue found expected => "invalid value: " ++ describe found ++ ", expected " ++ expected
  | wrongLength length expected =>
    "invalid length " ++ toString length ++ ", expected " ++ expected
  | unknownVariant name known =>
    "unknown variant " ++ ticked name ++ ", expected " ++ alternatives known
  | missingField name => "missing field " ++ ticked name
  | duplicateField name => "duplicate field " ++ ticked name
  | sectionLevel level => SectionLevel.rangeMessage level

end ShapeError

/-- `n` of something, with the noun in the singular only for one. -/
def countedElements (n : Nat) : String :=
  if n = 1 then "1 element" else toString n ++ " elements"

end WikiMarkup
