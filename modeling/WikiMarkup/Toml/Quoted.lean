-- SUMMARY: Quoted texts of TOML: with escapes or as they stand, on one line or on several.
import WikiMarkup.Text.Bytes

/-!
# Quoted texts

A text between double quotes has escapes, one between single quotes has none. Between single or
double quotes written three times it may run over several lines; a line end right after the opening
quotes does not count, and up to two quotes right before the closing ones belong to the text. Every
reader starts after the opening quotes and leaves what follows the closing ones.
-/

namespace WikiMarkup.Toml

/-! ## Characters and escapes -/

/-- Control characters other than the tab, which may stand neither in texts nor in comments. -/
def isControl (c : Char) : Bool :=
  (c.toNat < 0x20 && c ≠ '\t') || c.toNat = 0x7f

/-- Space and tab. -/
def isBlank (c : Char) : Bool :=
  c = ' ' || c = '\t'

/-- The character of a one-letter escape. -/
def shortEscape? (c : Char) : Option Char :=
  if c = '"' then some '"'
  else if c = '\\' then some '\\'
  else if c = 'b' then some '\x08'
  else if c = 'e' then some '\x1b'
  else if c = 'f' then some '\x0c'
  else if c = 'n' then some '\n'
  else if c = 'r' then some '\r'
  else if c = 't' then some '\t'
  else none

/-- How many digits follow the letter of a code point escape. -/
def escapeWidth? (c : Char) : Option Nat :=
  if c = 'x' then some 2
  else if c = 'u' then some 4
  else if c = 'U' then some 8
  else none

/-- Reads a number of exactly so many hexadecimal digits. -/
def readHex : Nat → List Char → Option (Nat × List Char)
  | 0, s => some (0, s)
  | _ + 1, [] => none
  | count + 1, c :: s => do
    let d ← Text.hexValue? c
    let (n, rest) ← readHex count s
    some (d * Nat.pow 16 count + n, rest)

/-- Reads an escape after its backslash. -/
def readEscape : List Char → Option (Char × List Char)
  | [] => none
  | c :: s =>
    match escapeWidth? c with
    | none => (shortEscape? c).map (·, s)
    | some width => do
      let (n, rest) ← readHex width s
      if n.isValidChar then some (Char.ofNat n, rest) else none

/-! ## On one line -/

/-- Reads a text between single quotes. -/
def readLiteral : List Char → Option (List Char × List Char)
  | [] => none
  | c :: s =>
    if c = '\'' then some ([], s)
    else if isControl c then none
    else (readLiteral s).map fun (text, rest) => (c :: text, rest)

/-- Reads a text between double quotes, in at most `fuel` characters. -/
def readBasicWith : Nat → List Char → Option (List Char × List Char)
  | 0, _ => none
  | fuel + 1, s =>
    match s with
    | [] => none
    | c :: s =>
      if c = '"' then some ([], s)
      else if isControl c then none
      else do
        let (c, s) ← if c = '\\' then readEscape s else some (c, s)
        let (text, rest) ← readBasicWith fuel s
        some (c :: text, rest)

/-- Reads a text between double quotes. -/
def readBasic (s : List Char) : Option (List Char × List Char) :=
  readBasicWith (s.length + 1) s

/-! ## On several lines -/

/-- Drops a line end at the start. -/
def dropLineEnd : List Char → List Char
  | '\n' :: s => s
  | '\r' :: '\n' :: s => s
  | s => s

/-- Whether a text starts with a character that no text may hold. A carriage return is part of a
line end. -/
def startsForbidden : List Char → Bool
  | '\r' :: '\n' :: _ => false
  | '\n' :: _ => false
  | c :: _ => isControl c
  | [] => true

/-- Reads the closing quotes where three stand next, with the one or two before them that belong to
the text. -/
def readClosing? (quote : Char) (s : List Char) : Option (List Char × List Char) :=
  let run := (s.takeWhile (· = quote)).length
  if run < 3 then none
  else some (List.replicate (min (run - 3) 2) quote, s.drop (min run 5))

/-- The text after a backslash at the end of a line: all blanks and line ends are passed over. -/
def skipFold (s : List Char) : Option (List Char) :=
  match s.dropWhile isBlank with
  | '\n' :: s => some (s.dropWhile fun c => isBlank c || c = '\n' || c = '\r')
  | '\r' :: '\n' :: s => some (s.dropWhile fun c => isBlank c || c = '\n' || c = '\r')
  | _ => none

/-- Reads a text up to three closing quotes, in at most `fuel` steps. -/
def readLinesWith (quote : Char) (escapes : Bool) : Nat → List Char → Option (List Char × List Char)
  | 0, _ => none
  | fuel + 1, s =>
    match readClosing? quote s with
    | some found => some found
    | none =>
      if startsForbidden s then none
      else
        match s with
        | [] => none
        | c :: rest =>
          if escapes && c = '\\' then
            match skipFold rest with
            | some rest => readLinesWith quote escapes fuel rest
            | none => do
              let (c, rest) ← readEscape rest
              let (text, rest) ← readLinesWith quote escapes fuel rest
              some (c :: text, rest)
          else (readLinesWith quote escapes fuel rest).map fun (text, rest) => (c :: text, rest)

/-- Reads a text over several lines up to three closing quotes. -/
def readLines (quote : Char) (escapes : Bool) (s : List Char) : Option (List Char × List Char) :=
  let s := dropLineEnd s
  readLinesWith quote escapes (s.length + 1) s

end WikiMarkup.Toml
