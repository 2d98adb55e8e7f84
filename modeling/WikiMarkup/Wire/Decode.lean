-- SUMMARY: Errors of typed readers over JSON text, and reading a text as parameters.
import WikiMarkup.Wire.Codec
import WikiMarkup.Json.Reader

/-!
# Typed reading

A typed reader takes a text apart and checks shapes on the way, so its first problem is either a
fault in the JSON or a shape error, whichever stands first.
-/

namespace WikiMarkup

/-! ## Errors -/

/-- Why a text cannot be read. -/
inductive DecodeError where
  /-- It is not JSON. -/
  | fault (fault : Json.Fault)
  /-- It is JSON up to a value of a wrong shape. -/
  | shape (error : ShapeError)
  deriving Repr

/-- Reads the name of a member after its opening quote. -/
def Json.readName (s : List Char) : Except DecodeError (String × List Char) :=
  (Json.readString s).mapError .fault

/-- The error that a value of no expected kind makes at the start of `s`. Arrays and objects are
known by their first character, and what they hold is not looked at. -/
def DecodeError.ofWrongStart (expected : String) (s : List Char) : DecodeError :=
  match s with
  | '[' :: _ => .shape (.wrongType (.array []) expected)
  | '\x7b' :: _ => .shape (.wrongType (.object []) expected)
  | s =>
    match Json.readScalar s with
    | .ok (found, _) => .shape (.wrongType found expected)
    | .error f => .fault f

/-! ## Parameters -/

namespace Parameters

/-- Reads a member of an object of strings and stores it. -/
def readMember (p : Parameters) (name : String) (s : List Char) :
    Except DecodeError (Parameters × List Char) := do
  let s ← (Json.readColon s).mapError .fault
  match s with
  | '"' :: rest => do
    let (value, rest) ← (Json.readString rest).mapError .fault
    .ok (p.insert name value, rest)
  | s => .error (.ofWrongStart "a string" s)

/-- Reads a text that is an object of strings. -/
def decode (source : String) : Except DecodeError Parameters :=
  match Json.skipBlanks source.toList with
  | '\x7b' :: rest => do
    let (p, rest) ← Json.readObject .fault Json.readName readMember .empty rest
    (Json.readEnd rest).mapError .fault
    .ok p
  | s => .error (.ofWrongStart "a map of string parameters" s)

end Parameters

end WikiMarkup
