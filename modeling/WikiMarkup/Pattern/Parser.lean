-- SUMMARY: Reading the written form of a pattern.
import WikiMarkup.Pattern.Basic
import WikiMarkup.Text.Bytes

/-!
# Reading patterns

A character stands for itself unless it is one of the operators. There are groups, alternatives,
classes with ranges and set operations, escapes, conditions on positions, the repetitions `* + ?`
and counts in braces, and flags: `i` for any case, `m` for `^` and `$` at lines, `s` for a point
that matches a line end too, `R` for lines that also end with a carriage return, `x` for blanks and
comments in the pattern that do not count, and `u`, which turned off leaves only the classes, words
and cases of ASCII. The flag `U`, and a `?` behind a repetition, say which of several matches is
preferred, not whether there is one.

What looks around or back is refused, as is what would match part of a character. Classes of
characters by Unicode property (`\p`, `\P`) are not read here, for want of their tables, and are
refused too. A pattern may have `maxUnfolded` parts when its repetitions are written out, and may be
nested to any depth. Reading recurs on a count that the length of the text bounds.
-/

namespace WikiMarkup.Pattern

/-! ## Flags -/

/-- Flags that change what a pattern means. -/
structure Flags where
  anyCase : Bool
  lines : Bool
  dotAll : Bool
  /-- Lines also end with a carriage return. -/
  carriageReturn : Bool
  /-- Blanks and comments in the pattern do not count. -/
  verbose : Bool
  /-- Classes, words and cases are those of ASCII. -/
  ascii : Bool
  deriving DecidableEq, Repr

/-- No flag set. -/
def Flags.none : Flags := ⟨false, false, false, false, false, false⟩

/-- Sets or clears a flag. -/
def Flags.set? (f : Flags) (value : Bool) : Char → Option Flags
  | 'i' => some { f with anyCase := value }
  | 'm' => some { f with lines := value }
  | 's' => some { f with dotAll := value }
  | 'R' => some { f with carriageReturn := value }
  | 'x' => some { f with verbose := value }
  | 'u' => some { f with ascii := !value }
  | 'U' => some f
  | _ => .none

/-! ## Blanks and comments -/

/-- Whether a character is a blank. -/
def isBlank (c : Char) : Bool := Property.whitespace.holds c

/-- Drops blanks and comments. A comment goes from a number sign to the end of the line. -/
def dropComments (inside : Bool) : List Char → List Char
  | [] => []
  | c :: s =>
    if inside then dropComments (c ≠ '\n') s
    else if c = '#' then dropComments true s
    else if isBlank c then dropComments false s
    else c :: s

/-- Drops what does not count between two parts of a pattern. -/
def skip (flags : Flags) (s : List Char) : List Char :=
  if flags.verbose then dropComments false s else s

/-- Drops what does not count around a number, where blanks never do. -/
def skipBlanks (flags : Flags) (s : List Char) : List Char :=
  if flags.verbose then dropComments false s else s.dropWhile isBlank

/-- Takes up to `most` characters of a kind, each with what does not count behind it. -/
def takeKind (flags : Flags) (kind : Char → Bool) : Nat → List Char → List Char × List Char
  | 0, s => ([], s)
  | most + 1, s =>
    match s with
    | [] => ([], [])
    | c :: rest =>
      if kind c then
        let (taken, rest) := takeKind flags kind most (skip flags rest)
        (c :: taken, rest)
      else ([], s)

/-! ## Classes by name -/

/-- The characters between two, both included. -/
def span (first last : Char) : CharSet := .range first last

/-- The characters of ASCII. -/
def asciiSet : CharSet := span (Char.ofNat 0) '\x7f'

/-- Whether a character is one of ASCII. -/
def isAscii (c : Char) : Bool := asciiSet.contains c

def letterSet : CharSet := .union (span 'a' 'z') (span 'A' 'Z')

def digitSet : CharSet := span '0' '9'

def spaceSet : CharSet := .union (span '\t' '\r') (.single ' ')

def wordSet : CharSet := .union (.union letterSet digitSet) (.single '_')

/-- The set of a named class of ASCII characters. -/
def namedClass? (name : String) : Option CharSet :=
  match name with
  | "alnum" => some (.union letterSet digitSet)
  | "alpha" => some letterSet
  | "ascii" => some asciiSet
  | "blank" => some (.union (.single ' ') (.single '\t'))
  | "cntrl" => some (.union (span (Char.ofNat 0) '\x1f') (.single '\x7f'))
  | "digit" => some digitSet
  | "graph" => some (span '!' '~')
  | "lower" => some (span 'a' 'z')
  | "print" => some (span ' ' '~')
  | "punct" => some (.without (span '!' '~') (.union letterSet digitSet))
  | "space" => some spaceSet
  | "upper" => some (span 'A' 'Z')
  | "word" => some wordSet
  | "xdigit" => some (.union digitSet (.union (span 'a' 'f') (span 'A' 'F')))
  | _ => .none

/-- The set in any case, if the flag is set. -/
def Flags.fold (f : Flags) (s : CharSet) : CharSet :=
  if f.anyCase then if f.ascii then .inter (.anyCase s) asciiSet else .anyCase s else s

/-- The set or its complement. What is no character of ASCII is no character at all without the
others, so that a complement would match part of one. -/
def Flags.negate? (f : Flags) (negated : Bool) (s : CharSet) : Option CharSet :=
  if negated then if f.ascii then .none else some (.complement s) else some s

/-! ## Escapes -/

/-- What an escape stands for. -/
inductive Escaped where
  | literal (c : Char)
  | set (s : CharSet)
  | assertion (a : Assertion)

/-- The character of a hexadecimal number. -/
def charOfHex? (digits : List Char) : Option Char := do
  let n ← digits.foldlM (fun n c => (Text.hexValue? c).map (n * 16 + ·)) 0
  if digits.isEmpty then .none
  else if h : n.isValidChar then some (Char.ofNatAux n h)
  else .none

def isHexDigit (c : Char) : Bool := (Text.hexValue? c).isSome

/-- Reads a character number: `count` digits, or any number of them in braces. Two digits without
braces are a byte, which is a character of ASCII or part of another. -/
def readCharNumber (flags : Flags) (count : Nat) (s : List Char) :
    Option (Escaped × List Char) :=
  match skip flags s with
  | '\x7b' :: s =>
    let s := skip flags s
    match takeKind flags isHexDigit s.length s with
    | (digits, '\x7d' :: rest) => (charOfHex? digits).map fun c => (.literal c, rest)
    | _ => .none
  | s => do
    let (digits, rest) := takeKind flags isHexDigit count s
    let c ← charOfHex? digits
    if digits.length < count || flags.ascii && count = 2 && !isAscii c then .none
    else some (.literal c, rest)

/-- Characters that are operators somewhere. -/
def operators : List Char := "\\.+*?()|[]\x7b\x7d^$#&-~".toList

/-- Whether a backslash before the character makes it stand for itself. -/
def isEscapable (c : Char) : Bool :=
  operators.contains c || (isAscii c && !c.isAlphanum && c ≠ '<' && c ≠ '>')

/-- The edge of a word that has that name in braces. -/
def edgeNamed? (name : String) : Option WordEdge :=
  match name with
  | "start" => some .wordStart
  | "end" => some .wordEnd
  | "start-half" => some .startHalf
  | "end-half" => some .endHalf
  | _ => .none

/-- Reads the rest of `\b`: a name in braces, or nothing. What does not start as a name are the
counts of a repetition. -/
def readEdge (flags : Flags) (s : List Char) : Option (WordEdge × List Char) :=
  let isNameChar (c : Char) : Bool := c.isAlpha || c = '-'
  match s with
  | '\x7b' :: inside =>
    match takeKind flags isNameChar inside.length (skip flags inside) with
    | ([], _) => some (.boundary, s)
    | (name, '\x7d' :: rest) => (edgeNamed? (String.ofList name)).map (·, rest)
    | _ => .none
  | s => some (.boundary, s)

/-- The set of a class of one letter or, for its capital, the complement. -/
def letterClass? (flags : Flags) (negated : Bool) (c : Char) : Option CharSet :=
  let set? : Option CharSet :=
    match c with
    | 'd' => some (if flags.ascii then digitSet else .property .decimalDigit)
    | 's' => some (if flags.ascii then spaceSet else .property .whitespace)
    | 'w' => some (if flags.ascii then wordSet else .property .wordCharacter)
    | _ => .none
  set?.bind (flags.negate? negated)

/-- Reads what follows a backslash. -/
def readEscape (flags : Flags) (s : List Char) : Option (Escaped × List Char) :=
  match s with
  | [] => .none
  | c :: rest =>
    if isEscapable c then some (.literal c, rest)
    else
      match c with
      | 'x' => readCharNumber flags 2 rest
      | 'u' => readCharNumber flags 4 rest
      | 'U' => readCharNumber flags 8 rest
      | 'd' | 's' | 'w' => (letterClass? flags false c).map (.set ·, rest)
      | 'D' | 'S' | 'W' => (letterClass? flags true c.toLower).map (.set ·, rest)
      | 'a' => some (.literal '\x07', rest)
      | 'f' => some (.literal '\x0c', rest)
      | 't' => some (.literal '\t', rest)
      | 'n' => some (.literal '\n', rest)
      | 'r' => some (.literal '\r', rest)
      | 'v' => some (.literal '\x0b', rest)
      | 'A' => some (.assertion .textStart, rest)
      | 'z' => some (.assertion .textEnd, rest)
      | 'b' =>
        (readEdge flags rest).map fun (edge, rest) => (.assertion (.word edge flags.ascii), rest)
      | 'B' => some (.assertion (.word .notBoundary flags.ascii), rest)
      | '<' => some (.assertion (.word .wordStart flags.ascii), rest)
      | '>' => some (.assertion (.word .wordEnd flags.ascii), rest)
      | _ => .none

/-! ## Classes -/

/-- Reads a named class after its opening bracket. -/
def readNamedClass (s : List Char) : Option (Bool × CharSet × List Char) :=
  match s with
  | ':' :: s =>
    let (negated, s) := match s with
      | '^' :: s => (true, s)
      | s => (false, s)
    let name := s.takeWhile (· ≠ ':')
    match s.drop name.length with
    | ':' :: ']' :: rest => (namedClass? (String.ofList name)).map (negated, ·, rest)
    | _ => .none
  | _ => .none

/-- Reads a single character or a set in a class. -/
def readClassAtom (flags : Flags) (s : List Char) : Option (Escaped × List Char) := do
  let (atom, rest) ← match s with
    | [] => .none
    | '\\' :: s => readEscape flags s
    | c :: s => some (.literal c, s)
  match atom with
  | .literal c => if flags.ascii && !isAscii c then .none else some (atom, skip flags rest)
  | .set _ => some (atom, skip flags rest)
  | .assertion _ => .none

/-- What follows the hyphen of a range, if there is one. A hyphen before the end of the class stands
for itself, and two are an operation. -/
def afterHyphen? (flags : Flags) (s : List Char) : Option (List Char) :=
  match s with
  | '-' :: rest =>
    match skip flags rest with
    | ']' :: _ => .none
    | '-' :: _ => .none
    | rest => some rest
  | _ => .none

/-- Reads a character, a set or a range in a class. -/
def readClassItem (flags : Flags) (s : List Char) : Option (CharSet × List Char) := do
  let (atom, rest) ← readClassAtom flags s
  match atom, afterHyphen? flags rest with
  | .literal first, some rest =>
    match ← readClassAtom flags rest with
    | (.literal last, rest) => if first ≤ last then some (span first last, rest) else .none
    | _ => .none
  | .literal c, .none => some (.single c, rest)
  | .set set, .none => some (set, rest)
  | _, _ => .none

/-- Reads the start of a class after its opening bracket: the sign of a complement, and the hyphens
and the closing bracket that stand for themselves there. -/
def readClassStart (flags : Flags) (s : List Char) : Bool × CharSet × List Char :=
  let (negated, s) := match skip flags s with
    | '^' :: s => (true, skip flags s)
    | s => (false, s)
  match takeKind flags (· = '-') s.length s with
  | ([], ']' :: rest) => (negated, .single ']', rest)
  | ([], s) => (negated, .none, s)
  | (_, rest) => (negated, .single '-', rest)

/-- An operation on two sets in any case, if the flag is set, with its first operand. -/
def Flags.combine (f : Flags) (operation : CharSet → CharSet → CharSet) (left right : CharSet) :
    CharSet :=
  operation (f.fold left) (f.fold right)

/-- What is in one of two sets, but not in both. -/
def symmetricDifference (s t : CharSet) : CharSet := .union (s.without t) (t.without s)

/-- Reads the rest of a class. `combine` applies the operation before the current operand, and `set`
is that operand so far. -/
def readClassRest (flags : Flags) (negated : Bool) :
    Nat → (CharSet → CharSet) → CharSet → List Char → Option (CharSet × List Char)
  | 0, _, _, _ => .none
  | fuel + 1, combine, set, s =>
    match skip flags s with
    | [] => .none
    | ']' :: rest => (flags.negate? negated (flags.fold (combine set))).map (·, rest)
    | '&' :: '&' :: rest =>
      readClassRest flags negated fuel (flags.combine .inter (combine set)) .none rest
    | '-' :: '-' :: rest =>
      readClassRest flags negated fuel (flags.combine .without (combine set)) .none rest
    | '~' :: '~' :: rest =>
      readClassRest flags negated fuel (flags.combine symmetricDifference (combine set)) .none rest
    | '[' :: rest =>
      match readNamedClass rest with
      | some (complemented, named, rest) => do
        let named ← flags.negate? complemented (flags.fold named)
        readClassRest flags negated fuel combine (.union set named) rest
      | .none => do
        let (inner, start, rest) := readClassStart flags rest
        let (nested, rest) ← readClassRest flags inner fuel id start rest
        readClassRest flags negated fuel combine (.union set nested) rest
    | s => do
      let (item, rest) ← readClassItem flags s
      readClassRest flags negated fuel combine (.union set item) rest

/-- Reads a class after its opening bracket. -/
def readClass (flags : Flags) (s : List Char) : Option (CharSet × List Char) :=
  let (negated, start, rest) := readClassStart flags s
  readClassRest flags negated (rest.length + 1) id start rest

/-! ## Repetition -/

/-- Drops the mark that makes a repetition take as little as it can. -/
def skipLazy : List Char → List Char
  | '?' :: s => s
  | s => s

/-- The least number that is too large for a count. -/
def countBound : Nat := 0x100000000

/-- Reads a count with blanks around it. -/
def readCount (flags : Flags) (s : List Char) : Option (Nat × List Char) :=
  let (digits, rest) := takeKind flags Char.isDigit s.length (skipBlanks flags s)
  let n := digits.foldl (fun n c => n * 10 + (c.toNat - 0x30)) 0
  if digits.isEmpty || countBound ≤ n then .none else some (n, skipBlanks flags rest)

/-- Reads the counts of a repetition after its opening brace. -/
def readCounts (flags : Flags) (s : List Char) : Option (Nat × Option Nat × List Char) := do
  let (least, s) ← readCount flags s
  match s with
  | '\x7d' :: rest => some (least, some least, rest)
  | ',' :: s =>
    match skip flags s with
    | '\x7d' :: rest => some (least, .none, rest)
    | s => do
      let (most, s) ← readCount flags s
      match s with
      | '\x7d' :: rest => if least ≤ most then some (least, some most, rest) else .none
      | _ => .none
  | _ => .none

/-! ## Groups -/

/-- How a group starts. -/
inductive GroupHead where
  /-- Flags for the rest of the group around it. -/
  | flags (flags : Flags)
  /-- A group of its own with these flags, and with a name or without. -/
  | inside (flags : Flags) (name : Option (List Char))

/-- Reads flags after the question mark. Each may occur once, and a minus sign turns those behind it
off. -/
def readFlags (flags : Flags) (value : Bool) (seen : List Char) :
    List Char → Option (GroupHead × List Char)
  | [] => .none
  | ')' :: rest =>
    if seen.isEmpty || seen.head? = some '-' then .none else some (.flags flags, rest)
  | ':' :: rest =>
    if seen.head? = some '-' then .none else some (.inside flags .none, rest)
  | c :: rest =>
    if seen.contains c then .none
    else if c = '-' then readFlags flags false (c :: seen) rest
    else do
      let flags ← flags.set? value c
      readFlags flags value (c :: seen) rest

/-- Whether a character may stand in the name of a group, or be its first. -/
def isNameChar (first : Bool) (c : Char) : Bool :=
  let isNumber := Property.decimalDigit.holds c || Property.otherNumber.holds c
  c = '_' || Property.alphanumeric.holds c && !(first && isNumber)
    || !first && (c = '.' || c = '[' || c = ']')

/-- Reads the name of a group up to its closing bracket. -/
def readGroupName (flags : Flags) (s : List Char) : Option (GroupHead × List Char) :=
  let name := s.takeWhile (· ≠ '>')
  match name, s.drop name.length with
  | c :: cs, '>' :: rest =>
    if isNameChar true c && cs.all (isNameChar false) then some (.inside flags (some name), rest)
    else .none
  | _, _ => .none

/-- Reads the start of a group after its opening parenthesis. -/
def readGroupHead (flags : Flags) (s : List Char) : Option (GroupHead × List Char) :=
  match skip flags s with
  | '?' :: '=' :: _ => .none
  | '?' :: '!' :: _ => .none
  | '?' :: '<' :: '=' :: _ => .none
  | '?' :: '<' :: '!' :: _ => .none
  | '?' :: 'P' :: '<' :: rest => readGroupName flags rest
  | '?' :: '<' :: rest => readGroupName flags rest
  | '?' :: rest => readFlags flags true [] rest
  | s => some (.inside flags .none, s)

/-! ## Patterns -/

/-- A character of the pattern, in any case if the flag is set. -/
def literal (flags : Flags) (c : Char) : Pattern :=
  .one (if flags.ascii && !isAscii c then .single c else flags.fold (.single c))

/-- What an escape matches. -/
def ofEscaped (flags : Flags) : Escaped → Pattern
  | .literal c => literal flags c
  | .set s => .one s
  | .assertion a => .assertion a

/-- What the point matches. With ASCII only it would match part of a character. -/
def dot? (flags : Flags) : Option Pattern :=
  let lineEnds : CharSet :=
    if flags.carriageReturn then .union (.single '\r') (.single '\n') else .single '\n'
  (flags.negate? true (if flags.dotAll then .none else lineEnds)).map .one

/-- The sequence of the parts of an alternative, last one first; flags leave no part. -/
def sequence (parts : List (Option Pattern)) : Pattern :=
  parts.foldl (fun p part =>
    match part with
    | some q => .both q p
    | .none => p) .empty

/-- The choice between alternatives, last one first. -/
def choose : List Pattern → Pattern
  | [] => .empty
  | [p] => p
  | p :: earlier => .either (choose earlier) p

/-- Repeats the last part. There has to be one, and it must not be flags. -/
def repeatLast (least : Nat) (most : Option Nat) :
    List (Option Pattern) → Option (List (Option Pattern))
  | some p :: parts => some (some (.repeated p least most) :: parts)
  | _ => .none

/-- How far reading has come in a group. -/
structure Progress where
  flags : Flags
  /-- The names of the groups so far, in the whole pattern. -/
  names : List (List Char)
  /-- The alternatives before the current one, last one first. -/
  earlier : List Pattern
  /-- The parts of the current alternative, last one first. -/
  parts : List (Option Pattern)

namespace Progress

/-- At the beginning of a group. -/
def start (flags : Flags) (names : List (List Char)) : Progress := ⟨flags, names, [], []⟩

/-- With one part more. -/
def add (p : Progress) (part : Pattern) : Progress := { p with parts := some part :: p.parts }

/-- With the last part repeated. -/
def repeated? (p : Progress) (least : Nat) (most : Option Nat) : Option Progress :=
  (repeatLast least most p.parts).map fun parts => { p with parts }

/-- At the beginning of the next alternative. -/
def nextAlternative (p : Progress) : Progress :=
  { p with earlier := sequence p.parts :: p.earlier, parts := [] }

/-- What is read so far. -/
def pattern (p : Progress) : Pattern := choose (sequence p.parts :: p.earlier)

/-- With the name of a group, which no group before may have. -/
def withName? (p : Progress) : Option (List Char) → Option Progress
  | .none => some p
  | some name => if p.names.contains name then .none else some { p with names := name :: p.names }

end Progress

/-- Reads alternatives up to a closing parenthesis or the end. -/
def readAlternatives : Nat → Progress → List Char → Option (Progress × List Char)
  | 0, _, _ => .none
  | fuel + 1, p, s =>
    match skip p.flags s with
    | [] => some (p, [])
    | ')' :: s => some (p, ')' :: s)
    | '|' :: s => readAlternatives fuel p.nextAlternative s
    | '(' :: s => do
      let (head, s) ← readGroupHead p.flags s
      match head with
      | .flags flags => readAlternatives fuel { p with flags, parts := .none :: p.parts } s
      | .inside flags name => do
        let p ← p.withName? name
        let (inner, s) ← readAlternatives fuel (.start flags p.names) s
        match s with
        | ')' :: s => readAlternatives fuel ({ p with names := inner.names }.add inner.pattern) s
        | _ => .none
    | '*' :: s => do
      let p ← p.repeated? 0 .none
      readAlternatives fuel p (skipLazy s)
    | '+' :: s => do
      let p ← p.repeated? 1 .none
      readAlternatives fuel p (skipLazy s)
    | '?' :: s => do
      let p ← p.repeated? 0 (some 1)
      readAlternatives fuel p (skipLazy s)
    | '\x7b' :: s => do
      let (least, most, s) ← readCounts p.flags s
      let p ← p.repeated? least most
      readAlternatives fuel p (skipLazy (skip p.flags s))
    | '[' :: s => do
      let (set, s) ← readClass p.flags s
      readAlternatives fuel (p.add (.one set)) s
    | '\\' :: s => do
      let (escaped, s) ← readEscape p.flags s
      readAlternatives fuel (p.add (ofEscaped p.flags escaped)) s
    | '.' :: s => do
      let dot ← dot? p.flags
      readAlternatives fuel (p.add dot) s
    | '^' :: s =>
      let a := if p.flags.lines then Assertion.lineStart p.flags.carriageReturn else .textStart
      readAlternatives fuel (p.add (.assertion a)) s
    | '$' :: s =>
      let a := if p.flags.lines then Assertion.lineEnd p.flags.carriageReturn else .textEnd
      readAlternatives fuel (p.add (.assertion a)) s
    | c :: s => readAlternatives fuel (p.add (literal p.flags c)) s

/-- How many characters and conditions a pattern has when every repetition is written out. -/
def unfolded : Pattern → Nat
  | empty => 0
  | one _ => 1
  | assertion _ => 1
  | both p q => p.unfolded + q.unfolded
  | either p q => p.unfolded + q.unfolded
  | repeated p least most => (max 1 (most.getD least)) * (p.unfolded + 1)

/-- The greatest size, written out, of a pattern that is accepted. -/
def maxUnfolded : Nat := 0x40000

/-- The pattern that a text writes, if it is one. -/
def ofText? (text : String) : Option Pattern :=
  match readAlternatives (text.length + 1) (.start .none []) text.toList with
  | some (p, []) => if p.pattern.unfolded ≤ maxUnfolded then some p.pattern else .none
  | _ => .none

instance : PatternSyntax := ⟨ofText?⟩

end WikiMarkup.Pattern
