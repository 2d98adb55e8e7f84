-- SUMMARY: What lists, definition lists, quotations and tables remember in order to know which separator comes next.
import WikiMarkup.Document.Event

/-!
# Layout

Blocks are separated by a blank line, items and nested containers by a single line end. Which one
is due is known only when the next construct begins, so each family remembers what it has seen.
The four families are independent of each other.
-/

namespace WikiMarkup

/-- What is due before a construct. -/
inductive Separator where
  | none
  /-- One line end. -/
  | newline
  /-- A blank line, except before the first block. -/
  | block
  deriving DecidableEq, Repr

/-! ## Items -/

/-- Whether an item of a family has begun and whether one has ended since. -/
structure Items where
  begun : Bool
  ended : Bool
  deriving DecidableEq, Repr

namespace Items

def initial : Items := ⟨false, false⟩

/-- Whether an item has begun and none has ended since. -/
def isOpen (i : Items) : Bool := i.begun && !i.ended

/-- What is due before a container: inside an open item, only a line end. -/
def containerSeparator (i : Items) : Separator := if i.isOpen then .newline else .block

/-- The flags after a container begins. -/
def enterContainer (i : Items) : Items := if i.isOpen then { i with begun := false } else i

/-- What is due before an item: a line end after one that has ended. -/
def itemSeparator (i : Items) : Separator := if i.ended then .newline else .none

/-- The flags after an item begins, whatever they were. -/
def beginItem (_ : Items) : Items := ⟨true, false⟩

/-- The flags after an item ends. -/
def endItem (i : Items) : Items := { i with ended := true }

end Items

/-! ## Lists -/

/-- The open lists, innermost first, and their items. -/
structure Lists where
  kinds : List ListKind
  items : Items
  deriving DecidableEq, Repr

namespace Lists

def initial : Lists := ⟨[], .initial⟩

def enter (kind : ListKind) (l : Lists) : Lists := ⟨kind :: l.kinds, l.items.enterContainer⟩

/-- Leaves the innermost list, if one is open. With none left the items are forgotten. -/
def leave (l : Lists) : Lists :=
  match l.kinds with
  | [] => ⟨[], .initial⟩
  | [_] => ⟨[], .initial⟩
  | _ :: kinds => { l with kinds }

/-- How many lists are open. -/
def depth (l : Lists) : Nat := l.kinds.length

def sign : ListKind → Char
  | .bulleted => '*'
  | .numbered => '1'

/-- The marker of an item: the signs of the open lists from the outermost on, and a point if any of
them is numbered. -/
def marker (l : Lists) : String :=
  String.ofList (l.kinds.reverse.map sign) ++ if l.kinds.contains .numbered then "." else ""

end Lists

/-! ## Definition lists and quotations -/

/-- How many containers of a family are open, and their items. -/
structure Nested where
  depth : Nat
  items : Items
  deriving DecidableEq, Repr

namespace Nested

def initial : Nested := ⟨0, .initial⟩

def enter (n : Nested) : Nested := ⟨n.depth + 1, n.items.enterContainer⟩

/-- Leaves the innermost container, if one is open. With none left the items are forgotten. -/
def leave (n : Nested) : Nested :=
  match n.depth with
  | 0 => n
  | 1 => ⟨0, .initial⟩
  | d + 1 => { n with depth := d }

end Nested

/-! ## Tables -/

/-- For each open table, innermost first, whether one of its rows has ended. -/
structure Tables where
  rowsEnded : List Bool
  deriving DecidableEq, Repr

namespace Tables

def initial : Tables := ⟨[]⟩

def enter (t : Tables) : Tables := ⟨false :: t.rowsEnded⟩

/-- Leaves the innermost table, if one is open. -/
def leave (t : Tables) : Tables := ⟨t.rowsEnded.tail⟩

/-- What is due before a row: a line end after one that has ended. -/
def rowSeparator (t : Tables) : Separator :=
  match t.rowsEnded with
  | true :: _ => .newline
  | _ => .none

/-- Ends a row of the innermost table, if one is open. -/
def endRow (t : Tables) : Tables :=
  match t.rowsEnded with
  | [] => t
  | _ :: outer => ⟨true :: outer⟩

/-- How many tables are open. -/
def depth (t : Tables) : Nat := t.rowsEnded.length

end Tables

/-! ## All families -/

/-- What all families remember, and whether a block has begun. -/
structure Layout where
  lists : Lists
  definitions : Nested
  quotations : Nested
  tables : Tables
  blockBegun : Bool
  deriving DecidableEq, Repr

namespace Layout

/-- Nothing seen. -/
def initial : Layout := ⟨.initial, .initial, .initial, .initial, false⟩

/-- Whether no container of any family is open. -/
def isBalanced (l : Layout) : Bool :=
  l.lists.depth = 0 && l.definitions.depth = 0 && l.quotations.depth = 0 && l.tables.depth = 0

def separatorText (l : Layout) : Separator → String
  | .none => ""
  | .newline => "\n"
  | .block => if l.blockBegun then "\n\n" else ""

/-- The layout once a separator is written: after a block separator, a block has begun. -/
def afterSeparator (l : Layout) : Separator → Layout
  | .block => { l with blockBegun := true }
  | _ => l

/-- What is due before a definition list: directly inside an open list item, a line end. -/
def definitionSeparator (l : Layout) : Separator :=
  if l.lists.items.isOpen then .newline else l.definitions.items.containerSeparator

/-- The marker of a term or description: that of the enclosing list items, one colon for each
definition list around the innermost, and the sign of the item. -/
def definitionMarker (l : Layout) (sign : String) : String :=
  l.lists.marker ++ String.ofList (List.replicate (l.definitions.depth - 1) ':') ++ sign

/-- The marker of a quotation line: one sign for each open quotation. -/
def quotationMarker (l : Layout) : String :=
  String.ofList (List.replicate l.quotations.depth '>')

end Layout

end WikiMarkup
