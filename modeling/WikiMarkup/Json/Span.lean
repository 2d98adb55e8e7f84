-- SUMMARY: Splitting the bytes of a JSON text into spans, of which only those that matter are decoded.
import WikiMarkup.Json.Reader

/-!
# Spans

A reader that needs only some members of an object splits the object into spans and decodes those.
The other spans are checked for the form of JSON only: their texts need not be UTF-8, their escapes
need not pair up, their numbers may be too large and they may nest to any depth. Bytes are scanned
as characters of the same number, since everything that steers the scan is ASCII.
-/

namespace WikiMarkup.Json

/-! ## Skipping -/

/-- Skips the rest of a string after its opening quote. -/
def skipCharacters : Nat → List Char → Except Fault (List Char)
  | 0, _ => .error .malformed
  | fuel + 1, s =>
    match s with
    | [] => .error .unfinished
    | '"' :: s => .ok s
    | ['\\'] => .error .unfinished
    | '\\' :: 'u' :: s => do
      let (_, s) ← readUnit s
      skipCharacters fuel s
    | '\\' :: e :: s => if (shortEscape? e).isSome then skipCharacters fuel s else .error .malformed
    | c :: s => if c.toNat < 0x20 then .error .malformed else skipCharacters fuel s

/-- Skips the rest of a string after its opening quote. -/
def skipString (s : List Char) : Except Fault (Unit × List Char) := do
  let rest ← skipCharacters (s.length + 1) s
  .ok ((), rest)

/-- Skips a value that starts at once and is neither an array nor an object. -/
def skipScalar (s : List Char) : Except Fault (Unit × List Char) :=
  match s with
  | 'n' :: rest => do
    let rest ← readWord "ull".toList rest
    .ok ((), rest)
  | 't' :: rest => do
    let rest ← readWord "rue".toList rest
    .ok ((), rest)
  | 'f' :: rest => do
    let rest ← readWord "alse".toList rest
    .ok ((), rest)
  | '"' :: rest => skipString rest
  | s => do
    let (_, rest) ← readNumeral s
    .ok ((), rest)

/-- Skips a member after its name, its value by `value`. -/
def skipMember (value : List Char → Except Fault (Unit × List Char)) (_ _ : Unit) (s : List Char) :
    Except Fault (Unit × List Char) := do
  let s ← readColon s
  value s

/-- Skips a value that starts at once, with at most `depth` levels of arrays and objects. -/
def skipValue : Nat → List Char → Except Fault (Unit × List Char)
  | 0, s => skipScalar s
  | depth + 1, s =>
    match s with
    | '[' :: rest => do
      let (_, rest) ← readArray id (skipValue depth) rest
      .ok ((), rest)
    | '\x7b' :: rest => readObject id skipString (skipMember (skipValue depth)) () rest
    | s => skipScalar s

/-! ## Spans -/

/-- Bytes as characters of the same number. -/
def ofByteChars (bytes : List UInt8) : List Char :=
  bytes.map fun b => Char.ofNat b.toNat

/-- The text that a span holds, if it is UTF-8. -/
def spanText? (span : List Char) : Option (List Char) :=
  (Text.ofBytes? (span.map fun c => UInt8.ofNat c.toNat)).map String.toList

/-- The part of a text before a rest of it. -/
def before (s rest : List Char) : List Char := s.take (s.length - rest.length)

/-- Splits off a value that starts at once. -/
def readSpan (s : List Char) : Except Fault (List Char × List Char) := do
  let (_, rest) ← skipValue s.length s
  .ok (before s rest, rest)

/-- Splits off a name after its opening quote, with its closing quote. -/
def readNameSpan (s : List Char) : Except Fault (List Char × List Char) := do
  let (_, rest) ← skipString s
  .ok (before s rest, rest)

/-- Splits off a member after its name and adds it to those before it. -/
def readMemberSpan (members : List (List Char × List Char)) (name s : List Char) :
    Except Fault (List (List Char × List Char) × List Char) := do
  let s ← readColon s
  let (value, rest) ← readSpan s
  .ok (members ++ [(name, value)], rest)

/-- The name in a span. -/
def spanName? (span : List Char) : Option String := do
  let text ← spanText? span
  match readString text with
  | .ok (name, []) => some name
  | _ => none

/-- The value in a span, with at most `depth` levels of arrays and objects. -/
def spanValue? (depth : Nat) (span : List Char) : Option Json := do
  let text ← spanText? span
  match readValue depth text with
  | .ok (value, []) => some value
  | _ => none

/-- The spans of the outermost object or array of a text. -/
inductive Outline where
  | members (members : List (List Char × List Char))
  | items (items : List (List Char))

/-- Splits a text that is one object or one array, with blanks around it. -/
def outline? (bytes : List UInt8) : Option Outline :=
  match skipBlanks (ofByteChars bytes) with
  | '\x7b' :: s =>
    match readObject id readNameSpan readMemberSpan [] s with
    | .ok (members, rest) => if skipBlanks rest = [] then some (.members members) else none
    | .error _ => none
  | '[' :: s =>
    match readArray id readSpan s with
    | .ok (items, rest) => if skipBlanks rest = [] then some (.items items) else none
    | .error _ => none
  | _ => none

end WikiMarkup.Json
