-- SUMMARY: Reading JSON text: scanners for the tokens, readers for arrays and objects over any item reader, and the value reader.
import WikiMarkup.Json.Basic
import WikiMarkup.Text.Bytes

/-!
# Reading JSON

Every reader takes the characters that are left and gives a result with the characters after it.
A fault is told apart only as far as the program reports it: the text ended too early, or it is
not JSON. Arrays and objects are read by `readItems` and `foldMembers` over a reader for one item,
so that a typed reader can refuse an item before the text after it is looked at. Nesting is
bounded by `maxDepth`, on which `readValue` recurs; the lists inside one level recur on a count
that the length of the text bounds.
-/

namespace WikiMarkup.Json

/-- Why a text is not JSON. -/
inductive Fault where
  /-- The text ends inside a value, or holds none. -/
  | unfinished
  /-- The text breaks the grammar. -/
  | malformed
  deriving DecidableEq, Repr

/-- How deep arrays and objects may nest. -/
def maxDepth : Nat := 127

/-! ## Blanks and fixed texts -/

/-- Space, tab, line feed and carriage return. -/
def isBlank (c : Char) : Bool :=
  c = ' ' || c = '\t' || c = '\n' || c = '\r'

/-- The text after its leading blanks. -/
def skipBlanks (s : List Char) : List Char :=
  s.dropWhile isBlank

/-- Reads the characters of `word`. -/
def readWord : List Char → List Char → Except Fault (List Char)
  | [], s => .ok s
  | _ :: _, [] => .error .unfinished
  | w :: word, c :: s => if c = w then readWord word s else .error .malformed

/-- Reads the colon between a member's name and its value, with the blanks around it. -/
def readColon (s : List Char) : Except Fault (List Char) :=
  match skipBlanks s with
  | ':' :: rest => .ok (skipBlanks rest)
  | [] => .error .unfinished
  | _ => .error .malformed

/-- Accepts only blanks. -/
def readEnd (s : List Char) : Except Fault Unit :=
  if skipBlanks s = [] then .ok () else .error .malformed

/-! ## Strings -/

/-- The character that a one-letter escape stands for. -/
def shortEscape? (c : Char) : Option Char :=
  if c = '"' then some '"'
  else if c = '\\' then some '\\'
  else if c = '/' then some '/'
  else if c = 'b' then some '\x08'
  else if c = 'f' then some '\x0c'
  else if c = 'n' then some '\n'
  else if c = 'r' then some '\r'
  else if c = 't' then some '\t'
  else none

/-- Reads the four digits of a code unit. Fewer than four bytes before the end of the text are an
unfinished escape, whatever they are. -/
def readUnit (s : List Char) : Except Fault (Nat × List Char) :=
  match s with
  | a :: b :: c :: d :: rest =>
    match Text.hexValue? a, Text.hexValue? b, Text.hexValue? c, Text.hexValue? d with
    | some a, some b, some c, some d => .ok (((a * 16 + b) * 16 + c) * 16 + d, rest)
    | _, _, _, _ => .error .malformed
  | short =>
    if (String.ofList short).utf8ByteSize < 4 then .error .unfinished else .error .malformed

/-- Reads the character of a code unit escape after its `u`: one unit, or the two units of a pair,
of which neither may stand alone. -/
def readEscapedUnit (s : List Char) : Except Fault (Char × List Char) := do
  let (high, s) ← readUnit s
  if 0xDC00 ≤ high ∧ high ≤ 0xDFFF then .error .malformed
  else if high < 0xD800 ∨ 0xDBFF < high then .ok (Char.ofNat high, s)
  else
    match s with
    | '\\' :: 'u' :: s => do
      let (low, s) ← readUnit s
      if 0xDC00 ≤ low ∧ low ≤ 0xDFFF then
        .ok (Char.ofNat (0x10000 + (high - 0xD800) * 0x400 + (low - 0xDC00)), s)
      else .error .malformed
    | [] => .error .unfinished
    | ['\\'] => .error .unfinished
    | _ => .error .malformed

/-- Reads the rest of a string after its opening quote, up to and with the closing one. -/
def readCharacters : Nat → List Char → Except Fault (List Char × List Char)
  | 0, _ => .error .malformed
  | fuel + 1, s =>
    match s with
    | [] => .error .unfinished
    | '"' :: s => .ok ([], s)
    | ['\\'] => .error .unfinished
    | '\\' :: 'u' :: s => do
      let (c, s) ← readEscapedUnit s
      let (cs, s) ← readCharacters fuel s
      .ok (c :: cs, s)
    | '\\' :: e :: s =>
      match shortEscape? e with
      | none => .error .malformed
      | some c => do
        let (cs, s) ← readCharacters fuel s
        .ok (c :: cs, s)
    | c :: s =>
      if c.toNat < 0x20 then .error .malformed
      else do
        let (cs, s) ← readCharacters fuel s
        .ok (c :: cs, s)

/-- Reads the rest of a string after its opening quote. -/
def readString (s : List Char) : Except Fault (String × List Char) := do
  let (cs, rest) ← readCharacters (s.length + 1) s
  .ok (String.ofList cs, rest)

/-! ## Numbers -/

/-- The parts of a number as written. -/
structure Numeral where
  negative : Bool
  whole : List Nat
  /-- The digits after the point, if there is one. -/
  fraction : Option (List Nat)
  /-- Whether the exponent is negative, and its digits. -/
  exponent : Option (Bool × List Nat)
  deriving DecidableEq, Repr

def digit? (c : Char) : Option Nat :=
  if c.isDigit then some (c.toNat - 0x30) else none

/-- Reads as many digits as there are. -/
def readDigits : List Char → List Nat × List Char
  | [] => ([], [])
  | c :: s =>
    match digit? c with
    | some d => let (ds, rest) := readDigits s; (d :: ds, rest)
    | none => ([], c :: s)

/-- Reads one digit or more. -/
def readSomeDigits (s : List Char) : Except Fault (List Nat × List Char) :=
  match readDigits s with
  | ([], []) => .error .unfinished
  | ([], _) => .error .malformed
  | found => .ok found

/-- Reads the digits before the point: no zero stands in front of others. -/
def readWhole (s : List Char) : Except Fault (List Nat × List Char) := do
  let (ds, rest) ← readSomeDigits s
  match ds with
  | 0 :: _ :: _ => .error .malformed
  | _ => .ok (ds, rest)

/-- Reads a point and the digits after it, if a point comes next. -/
def readFraction : List Char → Except Fault (Option (List Nat) × List Char)
  | '.' :: s => do
    let (ds, rest) ← readSomeDigits s
    .ok (some ds, rest)
  | s => .ok (none, s)

/-- Reads an exponent, if one comes next. -/
def readExponent : List Char → Except Fault (Option (Bool × List Nat) × List Char)
  | c :: s =>
    if c = 'e' ∨ c = 'E' then
      match s with
      | '+' :: s => do
        let (ds, rest) ← readSomeDigits s
        .ok (some (false, ds), rest)
      | '-' :: s => do
        let (ds, rest) ← readSomeDigits s
        .ok (some (true, ds), rest)
      | s => do
        let (ds, rest) ← readSomeDigits s
        .ok (some (false, ds), rest)
    else .ok (none, c :: s)
  | [] => .ok (none, [])

/-- Reads a number without giving it a value. -/
def readNumeral (s : List Char) : Except Fault (Numeral × List Char) := do
  let (negative, s) := match s with
    | '-' :: s => (true, s)
    | s => (false, s)
  let (whole, s) ← readWhole s
  let (fraction, s) ← readFraction s
  let (exponent, s) ← readExponent s
  .ok (⟨negative, whole, fraction, exponent⟩, s)

/-- The integers of 64 bits lie below this. -/
def wordBound : Nat := 0x10000000000000000

/-- Appends digits to a significand while it stays below `wordBound`; from the first that does not
fit on, the digits are left out and counted. -/
def gather (significand : Nat) : List Nat → Nat × Nat
  | [] => (significand, 0)
  | d :: ds =>
    if significand * 10 + d < wordBound then gather (significand * 10 + d) ds
    else (significand, ds.length + 1)

/-- The greatest magnitude of an exponent that is given a value. -/
def maxWrittenExponent : Nat := 0x7fffffff

/-- The value of a number as written: an integer where it has neither point nor exponent and fits
64 bits, except that a negative zero is a floating-point number. None if it is too large. -/
def Numeral.value? (n : Numeral) : Option JsonNumber :=
  let (significand, dropped) := gather 0 n.whole
  match n.fraction, n.exponent, dropped with
  | none, none, 0 =>
    if ¬ n.negative then some (.integer significand)
    else if significand = 0 ∨ wordBound / 2 < significand then
      (Binary64.ofDecimal true significand 0).map .float
    else some (.integer (-significand))
  | _, _, _ =>
    let fraction := n.fraction.getD []
    let (significand, left) := gather significand fraction
    let scale : Int := dropped - (fraction.length - left : Nat)
    let (negative, digits) := n.exponent.getD (false, [0])
    let exponent := digits.foldl (fun e d => e * 10 + d) 0
    if maxWrittenExponent < exponent then
      if significand ≠ 0 ∧ ¬ negative then none else some (.float (Binary64.zero n.negative))
    else
      let exponent : Int := if negative then scale - exponent else scale + exponent
      (Binary64.ofDecimal n.negative significand exponent).map .float

/-- Reads a number. One that is too large breaks the grammar. -/
def readNumber (s : List Char) : Except Fault (JsonNumber × List Char) := do
  let (numeral, rest) ← readNumeral s
  match numeral.value? with
  | some value => .ok (value, rest)
  | none => .error .malformed

/-! ## Arrays and objects -/

variable {α ν σ ε : Type}

/-- Reads the items of an array after its first blank-free character is known not to close it. -/
def readItems (fault : Fault → ε) (item : List Char → Except ε (α × List Char)) :
    Nat → List Char → Except ε (List α × List Char)
  | 0, _ => .error (fault .malformed)
  | fuel + 1, s => do
    let (x, s) ← item s
    match skipBlanks s with
    | ',' :: s => do
      let (xs, s) ← readItems fault item fuel (skipBlanks s)
      .ok (x :: xs, s)
    | ']' :: s => .ok ([x], s)
    | [] => .error (fault .unfinished)
    | _ => .error (fault .malformed)

/-- Reads an array after its opening bracket. -/
def readArray (fault : Fault → ε) (item : List Char → Except ε (α × List Char))
    (s : List Char) : Except ε (List α × List Char) :=
  match skipBlanks s with
  | ']' :: s => .ok ([], s)
  | s => readItems fault item (s.length + 1) s

/-- Reads the members of an object after its first blank-free character is known not to close it.
`name` reads a name after its opening quote. `member` takes that name and the text after it, and
carries a state along. -/
def foldMembers (fault : Fault → ε) (name : List Char → Except ε (ν × List Char))
    (member : σ → ν → List Char → Except ε (σ × List Char)) :
    Nat → σ → List Char → Except ε (σ × List Char)
  | 0, _, _ => .error (fault .malformed)
  | fuel + 1, state, s =>
    match s with
    | '"' :: s => do
      let (n, s) ← name s
      let (state, s) ← member state n s
      match skipBlanks s with
      | ',' :: s => foldMembers fault name member fuel state (skipBlanks s)
      | '\x7d' :: s => .ok (state, s)
      | [] => .error (fault .unfinished)
      | _ => .error (fault .malformed)
    | [] => .error (fault .unfinished)
    | _ => .error (fault .malformed)

/-- Reads an object after its opening brace, from a first state. -/
def readObject (fault : Fault → ε) (name : List Char → Except ε (ν × List Char))
    (member : σ → ν → List Char → Except ε (σ × List Char)) (state : σ)
    (s : List Char) : Except ε (σ × List Char) :=
  match skipBlanks s with
  | '\x7d' :: s => .ok (state, s)
  | s => foldMembers fault name member (s.length + 1) state s

/-! ## Values -/

/-- Reads a value that starts at once and is neither an array nor an object. -/
def readScalar (s : List Char) : Except Fault (Json × List Char) :=
  match s with
  | 'n' :: rest => do
    let rest ← readWord "ull".toList rest
    .ok (.null, rest)
  | 't' :: rest => do
    let rest ← readWord "rue".toList rest
    .ok (.boolean true, rest)
  | 'f' :: rest => do
    let rest ← readWord "alse".toList rest
    .ok (.boolean false, rest)
  | '"' :: rest => do
    let (value, rest) ← readString rest
    .ok (.text value, rest)
  | [] => .error .unfinished
  | c :: _ =>
    if c = '-' ∨ c.isDigit then do
      let (value, rest) ← readNumber s
      .ok (.number value, rest)
    else .error .malformed

/-- Reads a member into a list of those before it, its value by `value`. -/
def readMember (value : List Char → Except Fault (Json × List Char))
    (before : List (String × Json)) (name : String) (s : List Char) :
    Except Fault (List (String × Json) × List Char) := do
  let s ← readColon s
  let (v, s) ← value s
  .ok (before ++ [(name, v)], s)

/-- Reads a value that starts at once, with at most `depth` levels of arrays and objects. -/
def readValue : Nat → List Char → Except Fault (Json × List Char)
  | 0, s =>
    match s with
    | '[' :: _ => .error .malformed
    | '\x7b' :: _ => .error .malformed
    | s => readScalar s
  | depth + 1, s =>
    match s with
    | '[' :: rest => do
      let (items, rest) ← readArray id (readValue depth) rest
      .ok (.array items, rest)
    | '\x7b' :: rest => do
      let (members, rest) ← readObject id readString (readMember (readValue depth)) [] rest
      .ok (.object members, rest)
    | s => readScalar s

/-- Reads a text that is one value with blanks around it. -/
def read (s : List Char) : Except Fault Json := do
  let (value, rest) ← readValue maxDepth (skipBlanks s)
  readEnd rest
  .ok value

end WikiMarkup.Json
