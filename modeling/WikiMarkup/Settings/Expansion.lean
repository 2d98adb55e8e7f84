-- SUMMARY: References to variables inside the texts of settings, and their expansion.
import WikiMarkup.Text.Property

/-!
# Expansion

A text that holds `$` followed by an opening brace is taken apart into pieces: what is copied, and
references to variables by name, with or without a default. Expansion replaces each reference by
the value of its variable. Other texts are left as they are. Neither values nor defaults are
searched for references.
-/

namespace WikiMarkup.Expansion

/-! ## Pieces -/

/-- A piece of a text. -/
inductive Piece where
  /-- Characters that stand for themselves. -/
  | copy (text : String)
  /-- The value of a variable, or the default where it is not set. -/
  | reference (name : String) (fallback : Option String)
  deriving DecidableEq, Repr

/-- The character that starts a reference. -/
def sign : Char := '$'

/-- The character after the sign that opens a name. -/
def opening : Char := '\x7b'

/-- The character that closes a name. -/
def closing : Char := '\x7d'

/-- Whether a text has references at all: the sign and an opening brace stand side by side. -/
def hasReference : List Char → Bool
  | [] => false
  | [_] => false
  | c :: d :: s => (c = sign && d = opening) || hasReference (d :: s)

/-- The characters of names that stand without braces. -/
def isNameCharacter (c : Char) : Bool :=
  Property.alphanumeric.holds c || c = '_'

/-- Splits a text at the first `:-`. -/
def splitDefault? : List Char → Option (List Char × List Char)
  | [] => none
  | [_] => none
  | c :: d :: s =>
    if c = ':' ∧ d = '-' then some ([], s)
    else (splitDefault? (d :: s)).map fun (before, after) => (c :: before, after)

/-- The reference whose text between braces is `body`. A default needs a name before it. -/
def ofBody (body : List Char) : Piece :=
  match splitDefault? body with
  | some (c :: name, fallback) =>
    .reference (String.ofList (c :: name)) (some (String.ofList fallback))
  | _ => .reference (String.ofList body) none

/-- Reads the piece that starts after a sign. A brace that is never closed stands for itself, and two
signs stand for one. -/
def readAfterSign : List Char → Piece × List Char
  | [] => (.copy (String.ofList [sign]), [])
  | c :: s =>
    if c = opening then
      match s.dropWhile (· ≠ closing) with
      | [] => (.copy (String.ofList [sign, opening]), s)
      | _ :: rest => (ofBody (s.takeWhile (· ≠ closing)), rest)
    else if isNameCharacter c then
      (.reference (String.ofList ((c :: s).takeWhile isNameCharacter)) none,
        (c :: s).dropWhile isNameCharacter)
    else if c = sign then (.copy (String.ofList [sign]), s)
    else (.copy (String.ofList [sign]), c :: s)

/-- Takes a text apart into at most `fuel` pieces. -/
def piecesWith : Nat → List Char → List Piece
  | 0, _ => []
  | _ + 1, [] => []
  | fuel + 1, c :: s =>
    if c = sign then
      let (piece, rest) := readAfterSign s
      piece :: piecesWith fuel rest
    else
      .copy (String.ofList ((c :: s).takeWhile (· ≠ sign)))
        :: piecesWith fuel ((c :: s).dropWhile (· ≠ sign))

/-- The pieces of a text. -/
def pieces (text : String) : List Piece :=
  if hasReference text.toList then piecesWith (text.length + 1) text.toList else [.copy text]

/-! ## Expansion -/

/-- The names of variables that a text refers to, in order. -/
def names (text : String) : List String :=
  (pieces text).filterMap fun
    | .copy _ => none
    | .reference name _ => some name

/-- What a piece stands for. A variable that is not set and has no default is an error, which is its
name. -/
def Piece.expand (lookup : String → Option String) : Piece → Except String String
  | .copy text => .ok text
  | .reference name fallback =>
    match lookup name, fallback with
    | some value, _ => .ok value
    | none, some fallback => .ok fallback
    | none, none => .error name

/-- The text with its references replaced, or the name of the first variable that is missing. -/
def expand (lookup : String → Option String) (text : String) : Except String String := do
  let parts ← (pieces text).mapM (Piece.expand lookup)
  .ok (String.join parts)

end WikiMarkup.Expansion
