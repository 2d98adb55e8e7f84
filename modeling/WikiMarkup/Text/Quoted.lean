-- SUMMARY: Quoted form of a text inside a message: double quotes around it, short escapes, code points for what cannot be shown.
import WikiMarkup.Text.Property

/-!
# Quoted text

Messages show a text between double quotes. A quote, a backslash, a tab, a line end and NUL have
two-character escapes; a character that is not shown as itself, or that would merge with the one
before it, is written by its code point in braces; all else stands for itself.
-/

namespace WikiMarkup.Text

/-- Digits of `n` in base sixteen, lower case, most significant first. -/
def hexDigits (n : Nat) : List Char :=
  Nat.toDigits 16 n

/-- The written form of one character between the quotes. -/
def quoteChar (c : Char) : List Char :=
  if c = '"' then ['\\', '"']
  else if c = '\\' then ['\\', '\\']
  else if c = '\t' then ['\\', 't']
  else if c = '\n' then ['\\', 'n']
  else if c = '\r' then ['\\', 'r']
  else if c.toNat = 0 then ['\\', '0']
  else if Property.graphemeExtend.holds c || Property.unprintable.holds c then
    ['\\', 'u', '\x7b'] ++ hexDigits c.toNat ++ ['\x7d']
  else [c]

/-- The text between double quotes, with its escapes. -/
def quote (s : String) : String :=
  String.ofList ('"' :: s.toList.flatMap quoteChar ++ ['"'])

end WikiMarkup.Text
