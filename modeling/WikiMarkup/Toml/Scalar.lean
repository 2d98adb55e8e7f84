-- SUMMARY: Scalars of TOML that stand without quotes: booleans, integers, floating-point numbers, dates and times.
import WikiMarkup.Number.Binary64
import WikiMarkup.Text.Bytes
import WikiMarkup.Toml.Value

/-!
# Plain scalars

A scalar without quotes is scanned as a word first and then judged as a whole. A date may be
followed by one space and a time, which is the only word with a space in it.
-/

namespace WikiMarkup.Toml

/-! ## Digits -/

/-- The value of a digit in a base of at most sixteen. -/
def digit? (base : Nat) (c : Char) : Option Nat :=
  (Text.hexValue? c).filter (· < base)

/-- The values of one digit or more, between which single underscores may stand. -/
def digits? (base : Nat) : List Char → Option (List Nat)
  | [] => none
  | [c] => (digit? base c).map ([·])
  | c :: '_' :: s => do
    let d ← digit? base c
    let ds ← digits? base s
    some (d :: ds)
  | c :: s => do
    let d ← digit? base c
    let ds ← digits? base s
    some (d :: ds)

/-- The number that digits write. -/
def ofDigits (base : Nat) (ds : List Nat) : Nat :=
  ds.foldl (fun n d => n * base + d) 0

/-- Decimal digits without a zero in front of others. -/
def wholeDigits? (s : List Char) : Option (List Nat) :=
  (digits? 10 s).filter fun
    | 0 :: _ :: _ => false
    | _ => true

/-- A sign, if one comes first, as whether it is a minus. -/
def splitSign : List Char → Bool × List Char
  | '+' :: s => (false, s)
  | '-' :: s => (true, s)
  | s => (false, s)

/-! ## Numbers -/

/-- The integers that a document may hold: those of 128 bits, with a sign or without. -/
def inRange (i : Int) : Bool :=
  -0x80000000000000000000000000000000 ≤ i && i < 0x100000000000000000000000000000000

/-- The integer that a word writes: decimal with an optional sign, or without one in base sixteen,
eight or two. -/
def integer? (word : List Char) : Option Int :=
  let found : Option Int := match word with
    | '0' :: 'x' :: s => (digits? 16 s).map fun ds => (ofDigits 16 ds : Int)
    | '0' :: 'o' :: s => (digits? 8 s).map fun ds => (ofDigits 8 ds : Int)
    | '0' :: 'b' :: s => (digits? 2 s).map fun ds => (ofDigits 2 ds : Int)
    | s =>
      let (negative, s) := splitSign s
      (wholeDigits? s).map fun ds =>
        if negative then -(ofDigits 10 ds : Int) else (ofDigits 10 ds : Int)
  found.filter inRange

/-- The exponent that is written after its mark, or zero where there is no mark. -/
def exponent? : List Char → Option Int
  | [] => some 0
  | _ :: s =>
    let (negative, s) := splitSign s
    (digits? 10 s).map fun ds =>
      if negative then -(ofDigits 10 ds : Int) else (ofDigits 10 ds : Int)

/-- The digits after the point, none where there is no point. -/
def fraction? : List Char → Option (List Nat)
  | [] => some []
  | _ :: s => digits? 10 s

/-- Whether a word writes a floating-point number: infinity or not a number, or digits with a
fraction, an exponent or both, for a number that is not too large. -/
def isReal (word : List Char) : Bool :=
  let (_, s) := splitSign word
  if s = "inf".toList ∨ s = "nan".toList then true
  else
    let mantissa := s.takeWhile fun c => c ≠ 'e' && c ≠ 'E'
    let mark := s.dropWhile fun c => c ≠ 'e' && c ≠ 'E'
    let point := mantissa.dropWhile (· ≠ '.')
    if mark = [] ∧ point = [] then false
    else
      match wholeDigits? (mantissa.takeWhile (· ≠ '.')), fraction? point, exponent? mark with
      | some whole, some fraction, some exponent =>
        (Binary64.nearestDecimal false (ofDigits 10 (whole ++ fraction))
          (exponent - fraction.length)).isSome
      | _, _, _ => false

/-! ## Dates and times -/

/-- Reads a number of exactly so many decimal digits. -/
def readFixed : Nat → List Char → Option (Nat × List Char)
  | 0, s => some (0, s)
  | _ + 1, [] => none
  | count + 1, c :: s => do
    let d ← digit? 10 c
    let (n, rest) ← readFixed count s
    some (d * Nat.pow 10 count + n, rest)

/-- Reads a number of exactly so many digits that lies between two bounds. -/
def readBetween (count low high : Nat) (s : List Char) : Option (Nat × List Char) :=
  (readFixed count s).filter fun (n, _) => low ≤ n && n ≤ high

/-- Reads one character. -/
def readMark (c : Char) : List Char → Option (List Char)
  | [] => none
  | d :: s => if c = d then some s else none

/-- How many days a month has. -/
def daysIn (year month : Nat) : Nat :=
  if month = 2 then
    if year % 4 = 0 ∧ (year % 100 ≠ 0 ∨ year % 400 = 0) then 29 else 28
  else if month = 4 ∨ month = 6 ∨ month = 9 ∨ month = 11 then 30
  else 31

/-- Reads a date and leaves what follows it. -/
def readDate (s : List Char) : Option (List Char) := do
  let (year, s) ← readFixed 4 s
  let s ← readMark '-' s
  let (month, s) ← readBetween 2 1 12 s
  let s ← readMark '-' s
  let (_, s) ← readBetween 2 1 (daysIn year month) s
  some s

/-- Reads the decimals of a second, if a point comes next. -/
def readDecimals : List Char → Option (List Char)
  | '.' :: c :: s => (digit? 10 c).map fun _ => s.dropWhile Char.isDigit
  | '.' :: [] => none
  | s => some s

/-- Reads the seconds of a time, if a colon comes next. A second may be a leap second. -/
def readSeconds : List Char → Option (List Char)
  | ':' :: s => do
    let (_, s) ← readBetween 2 0 60 s
    readDecimals s
  | s => some s

/-- Reads a time of the day. -/
def readTime (s : List Char) : Option (List Char) := do
  let (_, s) ← readBetween 2 0 23 s
  let s ← readMark ':' s
  let (_, s) ← readBetween 2 0 59 s
  readSeconds s

/-- Whether a text is nothing, or an offset from universal time. -/
def isOffset (s : List Char) : Bool :=
  match s with
  | [] => true
  | c :: s =>
    if c = 'Z' ∨ c = 'z' then s.isEmpty
    else if c = '+' ∨ c = '-' then
      match readBetween 2 0 23 s with
      | none => false
      | some (_, s) =>
        match readMark ':' s with
        | none => false
        | some s =>
          match readBetween 2 0 59 s with
          | none => false
          | some (_, s) => s.isEmpty
    else false

/-- Whether a text is a time of the day with or without an offset. -/
def isOffsetTime (s : List Char) : Bool :=
  match readTime s with
  | some rest => isOffset rest
  | none => false

/-- Whether a word writes a date, a time, or both with or without an offset. -/
def isMoment (word : List Char) : Bool :=
  match readDate word with
  | some [] => true
  | some (c :: rest) => (c = 'T' || c = 't' || c = ' ') && isOffsetTime rest
  | none => readTime word = some []

/-! ## Words -/

/-- The characters of words. -/
def isWordCharacter (c : Char) : Bool :=
  c.isAlphanum || c = '+' || c = '-' || c = '_' || c = '.' || c = ':'

/-- Splits a text after its first word. -/
def splitWord (s : List Char) : List Char × List Char :=
  let word := s.takeWhile isWordCharacter
  match s.dropWhile isWordCharacter with
  | ' ' :: c :: rest =>
    if readDate word = some [] ∧ c.isDigit then
      (word ++ ' ' :: (c :: rest).takeWhile isWordCharacter, (c :: rest).dropWhile isWordCharacter)
    else (word, ' ' :: c :: rest)
  | rest => (word, rest)

/-- The value that a word writes. -/
def ofWord? (word : List Char) : Option Value :=
  if word = "true".toList then some (.boolean true)
  else if word = "false".toList then some (.boolean false)
  else if isMoment word then some .moment
  else if isReal word then some .real
  else (integer? word).map .integer

/-- Reads a scalar without quotes. -/
def readWord (s : List Char) : Option (Value × List Char) := do
  let (word, rest) := splitWord s
  let value ← ofWord? word
  some (value, rest)

end WikiMarkup.Toml
