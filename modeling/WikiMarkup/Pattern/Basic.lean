-- SUMMARY: Patterns over texts: sets of characters, assertions, sequences, alternatives and repetitions, and what they match.
import WikiMarkup.Text.Property
import WikiMarkup.Text.CaseFold

/-!
# Patterns

A pattern matches a stretch of a text. What it matches from a position on is given by the
positions at which the stretch can end. Repetition goes on until no new position is found, which
happens after as many rounds as the text has positions.

How patterns are written is left open here (`PatternSyntax`): whatever reads patterns takes it as a
parameter.
-/

namespace WikiMarkup

/-! ## Sets of characters -/

/-- A set of characters. -/
inductive CharSet where
  | none
  | range (first last : Char)
  | property (p : Property)
  | complement (s : CharSet)
  | union (s t : CharSet)
  | inter (s t : CharSet)
  /-- The characters that are in the set in some case. -/
  | anyCase (s : CharSet)

namespace CharSet

/-- Whether a character is in the set. -/
def contains : CharSet → Char → Bool
  | none, _ => false
  | range first last, c => first ≤ c && c ≤ last
  | property p, c => p.holds c
  | complement s, c => !s.contains c
  | union s t, c => s.contains c || t.contains c
  | inter s t, c => s.contains c && t.contains c
  | anyCase s, c => s.contains c || (CaseFold.variants c.toNat).any fun n => s.contains (Char.ofNat n)

/-- The set of one character. -/
def single (c : Char) : CharSet := range c c

/-- The characters of the first set that are not in the second. -/
def without (s t : CharSet) : CharSet := inter s (complement t)

end CharSet

/-! ## Patterns -/

/-- How words stand to a position. -/
inductive WordEdge where
  /-- There is a word on one side only. -/
  | boundary
  | notBoundary
  | wordStart
  | wordEnd
  /-- There is no word before. -/
  | startHalf
  /-- There is no word behind. -/
  | endHalf
  deriving DecidableEq, Repr

/-- A condition on a position. Lines end with a line feed, or also with a carriage return, and the
two together are one end. Words have the characters of all scripts, or only those of ASCII. -/
inductive Assertion where
  | textStart
  | textEnd
  | lineStart (carriageReturn : Bool)
  | lineEnd (carriageReturn : Bool)
  | word (edge : WordEdge) (ascii : Bool)
  deriving DecidableEq, Repr

/-- A pattern. -/
inductive Pattern where
  | empty
  | one (set : CharSet)
  | assertion (a : Assertion)
  | both (first second : Pattern)
  | either (first second : Pattern)
  /-- At least `least` times, and at most `most` times if that is given. -/
  | repeated (p : Pattern) (least : Nat) (most : Option Nat)

/-- Whether words stand so to a position that has one before and one behind or not. -/
def WordEdge.holds (before behind : Bool) : WordEdge → Bool
  | boundary => before != behind
  | notBoundary => before == behind
  | wordStart => !before && behind
  | wordEnd => before && !behind
  | startHalf => !before
  | endHalf => !behind

namespace Assertion

/-- Whether a character is one of a word. -/
def isWord (ascii : Bool) (c : Char) : Bool :=
  if ascii then c.isAlphanum || c = '_' else Property.wordCharacter.holds c

/-- Whether the condition holds between two characters, where there are any. -/
def holdsBetween (before behind : Option Char) : Assertion → Bool
  | textStart => before.isNone
  | textEnd => behind.isNone
  | lineStart carriageReturn =>
    before.isNone || before = some '\n'
      || carriageReturn && before = some '\r' && behind ≠ some '\n'
  | lineEnd carriageReturn =>
    if carriageReturn then
      behind.isNone || behind = some '\r' || behind = some '\n' && before ≠ some '\r'
    else behind.isNone || behind = some '\n'
  | word edge ascii => edge.holds (before.any (isWord ascii)) (behind.any (isWord ascii))

/-- Whether the condition holds before the character at index `i`. -/
def holds (text : Array Char) (i : Nat) (a : Assertion) : Bool :=
  a.holdsBetween (if i = 0 then none else text[i - 1]?) text[i]?

end Assertion

namespace Pattern

/-- Adds positions to a list, each once. -/
def merge (positions : List Nat) (more : List Nat) : List Nat :=
  more.foldl (fun found i => if found.contains i then found else i :: found) positions

/-- The positions reached from some position by exactly `n` steps. -/
def afterExactly (step : Nat → List Nat) : Nat → List Nat → List Nat
  | 0, places => places
  | n + 1, places => afterExactly step n (merge [] (places.flatMap step))

/-- The positions reached by at most `n` steps, from those reached so far. -/
def afterAtMost (step : Nat → List Nat) : Nat → List Nat → List Nat
  | 0, reached => reached
  | n + 1, reached =>
    let next := merge reached (reached.flatMap step)
    if next.length = reached.length then reached else afterAtMost step n next

/-- Where a match that begins at index `i` can end. -/
def ends (text : Array Char) : Pattern → Nat → List Nat
  | empty, i => [i]
  | one set, i =>
    match text[i]? with
    | some c => if set.contains c then [i + 1] else []
    | none => []
  | assertion a, i => if a.holds text i then [i] else []
  | both p q, i => merge [] ((ends text p i).flatMap (ends text q))
  | either p q, i => merge (ends text p i) (ends text q i)
  | repeated p least most, i =>
    let reached := afterExactly (ends text p) least [i]
    match most with
    | some most => afterAtMost (ends text p) (most - least) reached
    | none => afterAtMost (ends text p) (text.size + 1) reached

/-- Whether the pattern matches somewhere in a text. -/
def isMatch (p : Pattern) (text : String) : Bool :=
  let chars := text.toList.toArray
  (List.range (chars.size + 1)).any fun i => !(ends chars p i).isEmpty

end Pattern

/-- How patterns are written: which pattern a text is read as, if it is one. -/
class PatternSyntax where
  read? : String → Option Pattern

end WikiMarkup
