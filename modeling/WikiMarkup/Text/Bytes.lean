-- SUMMARY: A text as UTF-8 bytes and back, and bytes as pairs of hexadecimal digits.

/-!
# Bytes

Files hold bytes and the program works on text. `bytes` is the UTF-8 form of a text and `ofBytes?`
reads it back, refusing what is not UTF-8. `hex` prints bytes as digit pairs.
-/

namespace WikiMarkup.Text

/-! ## UTF-8 -/

/-- The UTF-8 form of a text. -/
def bytes (s : String) : List UInt8 :=
  s.toUTF8.data.toList

/-- The text whose UTF-8 form is `bs`, if there is one. -/
def ofBytes? (bs : List UInt8) : Option String :=
  String.fromUTF8? ⟨bs.toArray⟩

/-! ## Hexadecimal -/

/-- The hexadecimal digit of a value below sixteen, lower case. -/
def hexDigit (n : Nat) : Char :=
  if n < 10 then Char.ofNat (0x30 + n) else Char.ofNat (0x57 + n)

/-- The value of a hexadecimal digit in either case. -/
def hexValue? (c : Char) : Option Nat :=
  if '0' ≤ c ∧ c ≤ '9' then some (c.toNat - 0x30)
  else if 'a' ≤ c ∧ c ≤ 'f' then some (c.toNat - 0x57)
  else if 'A' ≤ c ∧ c ≤ 'F' then some (c.toNat - 0x37)
  else none

/-- Two digits for each byte, the high one first. -/
def hexChars (bs : List UInt8) : List Char :=
  bs.flatMap fun b => [hexDigit (b.toNat / 16), hexDigit (b.toNat % 16)]

/-- The bytes as a text of digit pairs. -/
def hex (bs : List UInt8) : String :=
  String.ofList (hexChars bs)

/-- The bytes that a list of digit pairs stands for. -/
def ofHexChars? : List Char → Option (List UInt8)
  | [] => some []
  | high :: low :: rest => do
    let h ← hexValue? high
    let l ← hexValue? low
    let bs ← ofHexChars? rest
    some (UInt8.ofNat (16 * h + l) :: bs)
  | [_] => none

/-- The bytes that a text of digit pairs stands for. -/
def ofHex? (s : String) : Option (List UInt8) :=
  ofHexChars? s.toList

end WikiMarkup.Text
