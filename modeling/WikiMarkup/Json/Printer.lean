-- SUMMARY: The compact text of a JSON value.
import WikiMarkup.Json.Basic
import WikiMarkup.Text.Bytes

/-!
# Printing JSON

The text has no blanks. A string escapes the quote, the backslash and the characters below the
space, the usual ones by a letter and the rest by four digits; every other character is raw.
-/

namespace WikiMarkup.Json

/-- The written form of one character of a string. -/
def escapeChar (c : Char) : List Char :=
  if c = '"' then ['\\', '"']
  else if c = '\\' then ['\\', '\\']
  else if c = '\x08' then ['\\', 'b']
  else if c = '\t' then ['\\', 't']
  else if c = '\n' then ['\\', 'n']
  else if c = '\x0c' then ['\\', 'f']
  else if c = '\r' then ['\\', 'r']
  else if c.toNat < 0x20 then
    ['\\', 'u', '0', '0', Text.hexDigit (c.toNat / 16), Text.hexDigit (c.toNat % 16)]
  else [c]

/-- A string between quotes. -/
def printString (s : String) : List Char :=
  '"' :: s.toList.flatMap escapeChar ++ ['"']

/-- A number: an integer by its digits, any other by its shortest decimal. -/
def printNumber : JsonNumber → List Char
  | .integer i => Binary64.integerText i
  | .float f => f.text

mutual

/-- The characters of a value. -/
def print : Json → List Char
  | .null => "null".toList
  | .boolean true => "true".toList
  | .boolean false => "false".toList
  | .number n => printNumber n
  | .text s => printString s
  | .array items => '[' :: printItems items ++ [']']
  | .object members => '\x7b' :: printMembers members ++ ['\x7d']

/-- The items of an array with commas between them. -/
def printItems : List Json → List Char
  | [] => []
  | [v] => print v
  | v :: w :: items => print v ++ ',' :: printItems (w :: items)

/-- The members of an object with commas between them. -/
def printMembers : List (String × Json) → List Char
  | [] => []
  | [(name, v)] => printString name ++ ':' :: print v
  | (name, v) :: m :: members => printString name ++ ':' :: print v ++ ',' :: printMembers (m :: members)

end

/-- The compact text of a value. -/
def toText (v : Json) : String :=
  String.ofList v.print

end WikiMarkup.Json
