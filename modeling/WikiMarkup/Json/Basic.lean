-- SUMMARY: JSON values with members in document order, repeated names kept, and integers apart from other numbers.
import WikiMarkup.Number.Shortest

/-!
# JSON values

An object is the list of its members as written: their order is kept and a name may occur twice.
A number is an integer of 64 bits (signed or not) or a binary floating-point number.
-/

namespace WikiMarkup

/-- A JSON number. -/
inductive JsonNumber where
  | integer (value : Int)
  | float (value : Binary64)
  deriving DecidableEq, Repr

/-- A JSON value. -/
inductive Json where
  | null
  | boolean (value : Bool)
  | number (value : JsonNumber)
  | text (value : String)
  | array (items : List Json)
  | object (members : List (String × Json))
  deriving Repr, Inhabited

namespace Json

/-- An integer as a JSON number. -/
def integer (value : Int) : Json := .number (.integer value)

/-- The value of the first member of that name. -/
def member? (name : String) : Json → Option Json
  | .object members => (members.find? (·.1 = name)).map (·.2)
  | _ => none

end Json

end WikiMarkup
