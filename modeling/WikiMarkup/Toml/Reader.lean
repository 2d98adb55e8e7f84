-- SUMMARY: Reading TOML documents: blanks and comments, keys, values, headers and lines.
import WikiMarkup.Toml.Quoted
import WikiMarkup.Toml.Scalar

/-!
# Reading TOML

A document is read line by line into the table that it describes. All that can be wrong with it
makes `read?` give nothing, since the program does not tell faults in a document apart. Every
reader takes the characters that are left and gives a result with the characters after it. Values
nest at most `maxDepth` deep; what stands between brackets or braces recurs on a count that the
length of the text bounds.
-/

namespace WikiMarkup.Toml

/-! ## Blanks and comments -/

/-- The text after blanks on the same line. -/
def skipBlanks (s : List Char) : List Char :=
  s.dropWhile isBlank

/-- The text after blanks, line ends and comments. -/
def skipFiller (inComment : Bool) : List Char → Option (List Char)
  | [] => some []
  | '\n' :: s => skipFiller false s
  | '\r' :: '\n' :: s => skipFiller false s
  | c :: s =>
    if inComment then if isControl c then none else skipFiller true s
    else if isBlank c then skipFiller false s
    else if c = '#' then skipFiller true s
    else some (c :: s)

/-- The text after the end of the line, before which only blanks and a comment may stand. -/
def endLine (inComment : Bool) : List Char → Option (List Char)
  | [] => some []
  | '\n' :: s => some s
  | '\r' :: '\n' :: s => some s
  | c :: s =>
    if inComment then if isControl c then none else endLine true s
    else if isBlank c then endLine false s
    else if c = '#' then endLine true s
    else none

/-! ## Keys -/

/-- The characters of names without quotes. -/
def isNameCharacter (c : Char) : Bool :=
  c.isAlphanum || c = '_' || c = '-'

/-- Reads one name of a key. -/
def readName : List Char → Option (String × List Char)
  | '"' :: s => (readBasic s).map fun (name, rest) => (String.ofList name, rest)
  | '\'' :: s => (readLiteral s).map fun (name, rest) => (String.ofList name, rest)
  | s =>
    match s.takeWhile isNameCharacter with
    | [] => none
    | name => some (String.ofList name, s.dropWhile isNameCharacter)

/-- Reads a key of at most `fuel` names, with the blanks around each. -/
def readKeyWith : Nat → List Char → Option (List String × List Char)
  | 0, _ => none
  | fuel + 1, s => do
    let (name, s) ← readName (skipBlanks s)
    match skipBlanks s with
    | '.' :: s => do
      let (path, rest) ← readKeyWith fuel s
      some (name :: path, rest)
    | rest => some ([name], rest)

/-- Reads a key, with the blanks around it, as its names. -/
def readKey (s : List Char) : Option (List String × List Char) :=
  readKeyWith (s.length + 1) s

/-! ## Values -/

variable {α : Type}

/-- Reads items up to a closing character. Commas separate them, and one may stand after the last;
line ends and comments may stand anywhere between them. -/
def readSequenceWith (item : List Char → Option (α × List Char)) (close : Char) :
    Nat → List Char → Option (List α × List Char)
  | 0, _ => none
  | fuel + 1, s => do
    match ← skipFiller false s with
    | [] => none
    | c :: rest =>
      if c = close then some ([], rest)
      else do
        let (x, s) ← item (c :: rest)
        match ← skipFiller false s with
        | ',' :: s => do
          let (xs, rest) ← readSequenceWith item close fuel s
          some (x :: xs, rest)
        | c :: rest => if c = close then some ([x], rest) else none
        | [] => none

/-- Reads items up to a closing character. -/
def readSequence (item : List Char → Option (α × List Char)) (close : Char) (s : List Char) :
    Option (List α × List Char) :=
  readSequenceWith item close (s.length + 1) s

/-- Reads a key and its value on one line. -/
def readAssignment (value : List Char → Option (Value × List Char)) (s : List Char) :
    Option ((List String × Value) × List Char) := do
  let (path, s) ← readKey s
  match s with
  | '=' :: s => do
    let (v, rest) ← value (skipBlanks s)
    some ((path, v), rest)
  | _ => none

/-- Reads a value that starts at once and holds no others. -/
def readScalar (s : List Char) : Option (Value × List Char) :=
  let ofText := fun ((text, rest) : List Char × List Char) => (Value.text (String.ofList text), rest)
  match s with
  | '"' :: '"' :: '"' :: s => (readLines '"' true s).map ofText
  | '\'' :: '\'' :: '\'' :: s => (readLines '\'' false s).map ofText
  | '"' :: s => (readBasic s).map ofText
  | '\'' :: s => (readLiteral s).map ofText
  | s => readWord s

/-- How deep arrays and tables between braces may nest. -/
def maxDepth : Nat := 80

/-- Reads a value that starts at once, with at most `depth` levels of arrays and tables. -/
def readValue : Nat → List Char → Option (Value × List Char)
  | 0, s =>
    match s with
    | '[' :: _ => none
    | '\x7b' :: _ => none
    | s => readScalar s
  | depth + 1, s =>
    match s with
    | '[' :: s => do
      let (items, rest) ← readSequence (readValue depth) ']' s
      some (.array items, rest)
    | '\x7b' :: s => do
      let (assignments, rest) ← readSequence (readAssignment (readValue depth)) '\x7d' s
      let members ← Members.ofAssignments assignments
      some (.table .braced members, rest)
    | s => readScalar s

/-! ## Lines -/

/-- The table that a document has described so far, and the names of the header in force. -/
structure Draft where
  members : Members
  header : List String

namespace Draft

/-- A document of which nothing has been read. -/
def empty : Draft := ⟨[], []⟩

/-- Puts a header in force, after applying `f` to its last name in the table around it. -/
def enter (d : Draft) (f : String → Members → Option Members) (path : List String) :
    Option Draft := do
  let name ← path.getLast?
  let members ← Members.within (f name) path.dropLast d.members
  some ⟨members, path⟩

/-- Sets the value of a key under the header in force. -/
def assign (d : Draft) (path : List String) (value : Value) : Option Draft := do
  let members ← Members.within (Members.define value path) d.header d.members
  some { d with members }

/-- Reads what stands on one line, a value that runs over several included. -/
def readLine (d : Draft) (s : List Char) : Option (Draft × List Char) :=
  match s with
  | '[' :: '[' :: s => do
    let (path, s) ← readKey s
    match s with
    | ']' :: ']' :: rest => do
      let d ← d.enter Members.openElement path
      some (d, rest)
    | _ => none
  | '[' :: s => do
    let (path, s) ← readKey s
    match s with
    | ']' :: rest => do
      let d ← d.enter Members.openTable path
      some (d, rest)
    | _ => none
  | s => do
    let ((path, value), rest) ← readAssignment (readValue maxDepth) s
    let d ← d.assign path value
    some (d, rest)

/-- Reads the rest of a document of at most `fuel` lines. -/
def readLines : Nat → Draft → List Char → Option Draft
  | 0, _, _ => none
  | fuel + 1, d, s => do
    match ← skipFiller false s with
    | [] => some d
    | s => do
      let (d, s) ← d.readLine s
      let s ← endLine false s
      readLines fuel d s

end Draft

/-- The mark that may open a text in UTF-8. -/
def byteOrderMark : Char := Char.ofNat 0xfeff

/-- The members of the table that a document describes. -/
def read? (document : String) : Option Members :=
  let s := match document.toList with
    | [] => []
    | c :: s => if c = byteOrderMark then s else c :: s
  (Draft.readLines (s.length + 1) .empty s).map (·.members)

end WikiMarkup.Toml
