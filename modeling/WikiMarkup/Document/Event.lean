-- SUMMARY: Document events: entering and leaving containers, and content between them.
import WikiMarkup.Document.Parameters
import WikiMarkup.Document.Target

/-!
# Document events

A document arrives as a list of events in reading order. A container is entered and left, and both
events carry its data; content is a single event. Nothing forces a list of events to nest.
-/

namespace WikiMarkup

/-! ## Data of events -/

/-- The kind of a list. -/
inductive ListKind where
  | bulleted
  | numbered
  deriving DecidableEq, Repr

/-- The kind of a formatting span. -/
inductive Format where
  | bold
  | italic
  | strikeout
  | underline
  | superscript
  | subscript
  | monospace
  deriving DecidableEq, Repr

/-- The level of a section heading, from 1 to 6. -/
structure SectionLevel where
  toNat : Nat
  one_le : 1 ≤ toNat
  le_six : toNat ≤ 6
  deriving DecidableEq, Repr

/-- The section level of that number, if it is one. -/
def SectionLevel.ofNat? (n : Nat) : Option SectionLevel :=
  if h : 1 ≤ n ∧ n ≤ 6 then some ⟨n, h.1, h.2⟩ else none

/-- The message about a number that is no section level. -/
def SectionLevel.rangeMessage (n : Nat) : String :=
  "section level must be between 1 and 6, got " ++ toString n

/-- A raw markup node. -/
inductive MarkupNode where
  | element (name : String) (attributes : Parameters)
  | text (text : String)
  | comment (text : String)
  | cdata (text : String)
  deriving DecidableEq

/-- The invocation of a macro. No content and empty content are different. -/
structure MacroCall where
  name : String
  parameters : Parameters
  content : Option String
  deriving DecidableEq

/-! ## Events -/

/-- A construct that other events can stand inside. -/
inductive Container where
  | document
  | paragraph (parameters : Parameters)
  | heading (level : SectionLevel) (parameters : Parameters)
  | list (kind : ListKind) (parameters : Parameters)
  | listItem
  | definitionList (parameters : Parameters)
  | definitionTerm
  | definitionDescription
  | quotation (parameters : Parameters)
  | quotationLine
  | table (parameters : Parameters)
  | tableRow (parameters : Parameters)
  | tableCell (parameters : Parameters)
  | tableHeadCell (parameters : Parameters)
  | link (link : Link) (freeStanding : Bool) (parameters : Parameters)
  | format (format : Format) (parameters : Parameters)
  /-- The content that a macro expanded to. -/
  | macroMarker (call : MacroCall)
  | markupNode (node : MarkupNode)
  | error (message : String) (description : String)
  deriving DecidableEq

/-- Content that nothing stands inside. -/
inductive Content where
  | word (text : String)
  | space
  | specialSymbol (symbol : Char)
  | escape (text : String)
  | lineBreak
  | newLine
  | emptyLines (count : UInt64)
  | horizontalLine (parameters : Parameters)
  | inlineMacro (call : MacroCall)
  | standaloneMacro (call : MacroCall)
  | image (image : Image) (freeStanding : Bool) (parameters : Parameters)
  | id (name : String)
  | verbatimInline (text : String)
  | verbatimStandalone (text : String) (parameters : Parameters)
  deriving DecidableEq

/-- A document event. -/
inductive Event where
  | enter (container : Container)
  | leave (container : Container)
  | content (content : Content)
  deriving DecidableEq

end WikiMarkup
