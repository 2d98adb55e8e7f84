-- SUMMARY: The renderer: its state, what each event does to it, and the text and warnings at the end.
import WikiMarkup.Render.Layout
import WikiMarkup.Render.Sinks
import WikiMarkup.Syntax.Forms

/-!
# Renderer

Events are delivered in document order, and each appends to the sinks and changes the layout. A
link opens a scope that collects its label, a macro marker one that drops what the macro expanded
to; closing a scope that is not open is the only failure. The parameters of a formatting span that
has ended stay pending: the next text is preceded by the reset mark, unless a span with the same
parameters follows at once.
-/

namespace WikiMarkup

/-! ## Warnings and errors -/

/-- An irregularity that rendering tolerates. -/
inductive Warning where
  | unmatchedListEnd
  | unmatchedDefinitionListEnd
  | unmatchedQuotationEnd
  | unmatchedTableEnd
  | rowOutsideTable
  /-- So many scopes are open at the end, and what they hold is lost. -/
  | openScopes (count : Nat)
  /-- Some list, quotation or table is open at the end. -/
  | openContainers
  deriving DecidableEq, Repr

def Warning.message : Warning → String
  | unmatchedListEnd => "end of list without a matching begin"
  | unmatchedDefinitionListEnd => "end of definition list without a matching begin"
  | unmatchedQuotationEnd => "end of quotation without a matching begin"
  | unmatchedTableEnd => "end of table without a matching begin"
  | rowOutsideTable => "table row outside of a table"
  | openScopes count =>
    toString count ++ " link or macro marker scope(s) left open at end of document"
  | openContainers => "lists, quotations or tables left open at end of document"

/-- Why an event cannot be delivered. -/
inductive RenderError where
  /-- A link ends and no scope is open. -/
  | noLabelScope
  /-- A macro marker ends and no scope is open. -/
  | noExpansionScope
  deriving DecidableEq, Repr

def RenderError.message : RenderError → String
  | noLabelScope => "output sink stack underflow: no capture sink to close"
  | noExpansionScope => "output sink stack underflow: no discard sink to close"

/-! ## State -/

/-- The state between two events. -/
structure Renderer where
  sinks : Sinks
  layout : Layout
  /-- The parameters of the last span that ended, while they still apply. -/
  pending : Option Parameters
  warnings : List Warning
  deriving DecidableEq

/-- What rendering results in. -/
structure Rendered where
  text : String
  warnings : List Warning
  deriving DecidableEq, Repr

namespace Renderer

/-- Before the first event. -/
def initial : Renderer := ⟨.empty, .initial, none, []⟩

/-- Writes text, after the reset mark if parameters are pending. Empty text does nothing. -/
def print (text : String) (r : Renderer) : Renderer :=
  if text.isEmpty then r
  else if r.pending.isSome then
    { r with sinks := (r.sinks.write resetMark).write text, pending := none }
  else { r with sinks := r.sinks.write text }

/-- Writes the parameters before a construct. -/
def printBlock (p : Parameters) (newline : Bool) (r : Renderer) : Renderer :=
  r.print (p.block newline)

def separate (separator : Separator) (r : Renderer) : Renderer :=
  { r with layout := r.layout.afterSeparator separator }.print (r.layout.separatorText separator)

def mapLayout (f : Layout → Layout) (r : Renderer) : Renderer := { r with layout := f r.layout }

def warn (w : Warning) (r : Renderer) : Renderer := { r with warnings := r.warnings ++ [w] }

def warnIf (condition : Bool) (w : Warning) (r : Renderer) : Renderer :=
  if condition then r.warn w else r

/-- Forgets pending parameters without a mark. -/
def dropPending (r : Renderer) : Renderer := { r with pending := none }

/-! ## Entering containers -/

/-- Begins a formatting span. With the same parameters still applying, only its mark is written. -/
def enterFormat (f : Format) (p : Parameters) (r : Renderer) : Renderer :=
  match r.pending with
  | some q =>
    if q.agrees p then r.dropPending.print f.delimiter
    else (r.print f.delimiter).printBlock p false
  | none => (r.print f.delimiter).printBlock p false

/-- Begins a term or description. -/
def enterDefinitionItem (sign : String) (r : Renderer) : Renderer :=
  let separator := r.layout.definitions.items.itemSeparator
  let r := r.mapLayout fun l =>
    { l with definitions := { l.definitions with items := l.definitions.items.beginItem } }
  let r := r.separate separator
  r.print (r.layout.definitionMarker sign)

def enter (c : Container) (r : Renderer) : Renderer :=
  match c with
  | .document => r
  | .paragraph p => (r.separate .block).printBlock p true
  | .heading level p => ((r.separate .block).printBlock p true).print (level.marker ++ " ")
  | .list kind p =>
    let separator := r.layout.lists.items.containerSeparator
    let r := r.mapLayout fun l => { l with lists := l.lists.enter kind }
    (r.separate separator).printBlock p true
  | .listItem =>
    let separator := r.layout.lists.items.itemSeparator
    let r := r.mapLayout fun l =>
      { l with lists := { l.lists with items := l.lists.items.beginItem } }
    let r := r.separate separator
    r.print (r.layout.lists.marker ++ " ")
  | .definitionList p =>
    let separator := r.layout.definitionSeparator
    let r := r.mapLayout fun l => { l with definitions := l.definitions.enter }
    (r.separate separator).printBlock p true
  | .definitionTerm => r.enterDefinitionItem "; "
  | .definitionDescription => r.enterDefinitionItem ": "
  | .quotation p =>
    let separator := r.layout.quotations.items.containerSeparator
    let r := r.mapLayout fun l => { l with quotations := l.quotations.enter }
    (r.separate separator).printBlock p true
  | .quotationLine =>
    let separator := r.layout.quotations.items.itemSeparator
    let r := r.mapLayout fun l =>
      { l with quotations := { l.quotations with items := l.quotations.items.beginItem } }
    let r := r.separate separator
    r.print r.layout.quotationMarker
  | .table p =>
    ((r.separate .block).printBlock p true).mapLayout fun l => { l with tables := l.tables.enter }
  | .tableRow p => (r.separate r.layout.tables.rowSeparator).printBlock p false
  | .tableCell p => (r.print "|").printBlock p false
  | .tableHeadCell p => (r.print "|=").printBlock p false
  | .link l freeStanding _ =>
    let r := r.print (l.opening freeStanding)
    { r with sinks := r.sinks.enter (.collect "") }
  | .format f p => r.enterFormat f p
  | .macroMarker _ => { r with sinks := r.sinks.enter .drop }
  | .markupNode _ => r
  | .error _ _ => r

/-! ## Leaving containers -/

/-- Ends a formatting span: its parameters, if it has any, become pending. -/
def leaveFormat (f : Format) (p : Parameters) (r : Renderer) : Renderer :=
  let r := r.print f.delimiter
  if p.isEmpty then r else { r with pending := some p }

/-- Ends a link: closes the innermost scope and writes the rest of the link around its text. -/
def leaveLink (l : Link) (freeStanding : Bool) (p : Parameters) (r : Renderer) :
    Except RenderError Renderer :=
  match r.sinks.leave? with
  | none => .error .noLabelScope
  | some (label, sinks) =>
    .ok (({ r with sinks }.print (l.labelled freeStanding label)).print (l.closing freeStanding p))

/-- Ends a macro marker: closes the innermost scope and writes the call instead. -/
def leaveMacroMarker (call : MacroCall) (r : Renderer) : Except RenderError Renderer :=
  match r.sinks.leave? with
  | none => .error .noExpansionScope
  | some (_, sinks) => .ok ({ r with sinks }.print call.written)

def leave (c : Container) (r : Renderer) : Except RenderError Renderer :=
  match c with
  | .document => .ok r
  | .paragraph _ => .ok r.dropPending
  | .heading level _ => .ok (r.print (" " ++ level.marker))
  | .list _ _ =>
    .ok ((r.mapLayout fun l => { l with lists := l.lists.leave }).warnIf
      (r.layout.lists.depth = 0) .unmatchedListEnd)
  | .listItem =>
    .ok (r.mapLayout fun l => { l with lists := { l.lists with items := l.lists.items.endItem } })
  | .definitionList _ =>
    .ok ((r.mapLayout fun l => { l with definitions := l.definitions.leave }).warnIf
      (r.layout.definitions.depth = 0) .unmatchedDefinitionListEnd)
  | .definitionTerm | .definitionDescription =>
    .ok (r.mapLayout fun l =>
      { l with definitions := { l.definitions with items := l.definitions.items.endItem } })
  | .quotation _ =>
    .ok ((r.mapLayout fun l => { l with quotations := l.quotations.leave }).warnIf
      (r.layout.quotations.depth = 0) .unmatchedQuotationEnd)
  | .quotationLine =>
    .ok (r.mapLayout fun l =>
      { l with quotations := { l.quotations with items := l.quotations.items.endItem } })
  | .table _ =>
    .ok ((r.mapLayout fun l => { l with tables := l.tables.leave }).warnIf
      (r.layout.tables.depth = 0) .unmatchedTableEnd)
  | .tableRow _ =>
    .ok ((r.mapLayout fun l => { l with tables := l.tables.endRow }).warnIf
      (r.layout.tables.depth = 0) .rowOutsideTable)
  | .tableCell _ | .tableHeadCell _ => .ok r.dropPending
  | .link l freeStanding p => r.leaveLink l freeStanding p
  | .format f p => .ok (r.leaveFormat f p)
  | .macroMarker call => r.leaveMacroMarker call
  | .markupNode _ => .ok r
  | .error _ _ => .ok r

/-! ## Content -/

def write (c : Content) (r : Renderer) : Renderer :=
  match c with
  | .word text => r.print text
  | .space => r.print " "
  | .specialSymbol symbol => r.print (String.singleton symbol)
  | .escape text => text.toList.foldl (fun r c => r.print (escaped c)) r
  | .lineBreak => r.print "\n"
  | .newLine => r.print "\\"
  | .emptyLines count => r.print (String.ofList (List.replicate count.toNat '\n'))
  | .horizontalLine p => ((r.separate .block).printBlock p true).print "----"
  | .inlineMacro call => r.print call.written
  | .standaloneMacro call => (r.separate .block).print call.written
  | .image i freeStanding p =>
    (r.print (i.toLink.opening freeStanding)).print (i.toLink.closing freeStanding p)
  | .id name => r.print (idMacro name)
  | .verbatimInline text => r.print (verbatim text)
  | .verbatimStandalone text p => ((r.separate .block).printBlock p true).print (verbatim text)

/-! ## Delivery -/

def deliver (r : Renderer) : Event → Except RenderError Renderer
  | .enter c => .ok (r.enter c)
  | .leave c => r.leave c
  | .content c => .ok (r.write c)

/-- Delivers events up to the first that fails. -/
def deliverAll (r : Renderer) : List Event → Except RenderError Renderer
  | [] => .ok r
  | e :: events => do
    let r ← r.deliver e
    deliverAll r events

/-- Delivers an event, or ignores it if it fails. -/
def attempt (r : Renderer) (e : Event) : Renderer :=
  match r.deliver e with
  | .ok r => r
  | .error _ => r

/-- Delivers events and ignores those that fail. -/
def attemptAll (r : Renderer) (events : List Event) : Renderer := events.foldl attempt r

/-- The base text, with warnings for what is still open. -/
def finish (r : Renderer) : Rendered :=
  let r := (r.warnIf (0 < r.sinks.depth) (.openScopes r.sinks.depth)).warnIf
    (!r.layout.isBalanced) .openContainers
  ⟨r.sinks.base, r.warnings⟩

end Renderer

def render (events : List Event) : Except RenderError Rendered := do
  let r ← Renderer.initial.deliverAll events
  .ok r.finish

end WikiMarkup
