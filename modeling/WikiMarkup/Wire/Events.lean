-- SUMMARY: The event format: the fields of every event, link, image and markup node, and reading a text as a list of events.
import WikiMarkup.Wire.Record
import WikiMarkup.Wire.Decode
import WikiMarkup.Json.Printer

/-!
# The event format

A text of events is a JSON array. Each event is an object whose member `event` is its tag, or an
array that starts with the tag. Events are read one after the other, and the first problem in the
text counts: a tag is checked where it stands, and all other members of an event once the event
has ended.
-/

namespace WikiMarkup

/-! ## Fields -/

namespace Field

def text (name : String) : Field := ⟨name, String, Codec.text, .required⟩

def optionalText (name : String) : Field :=
  ⟨name, Option String, Codec.optionalText, .optional none⟩

/-- A field that holds parameters, none if it is left out. -/
def parameters (name : String) : Field := ⟨name, Parameters, Codec.parameters, .default .empty⟩

/-- The flag of references that stand without delimiters. -/
def freeStanding : Field := ⟨"free_standing_uri", Bool, Codec.flag, .default false⟩

end Field

/-! ## Links, images and markup nodes -/

/-- The record of a link: every field may be left out. -/
def linkRecord : Record Link where
  title := "struct Link"
  fields := [
    ⟨"reference", String, Codec.text, .default ""⟩,
    ⟨"link_type", LinkKind, Codec.linkKind, .default .document⟩,
    ⟨"anchor", Option String, Codec.optionalText, .default none⟩,
    ⟨"query_string", Option String, Codec.optionalText, .default none⟩,
    ⟨"interwiki_alias", Option String, Codec.optionalText, .default none⟩]
  build := fun (target, kind, anchor, queryString, interwikiAlias, ()) =>
    ⟨target, kind, anchor, queryString, interwikiAlias⟩
  split l := (l.target, l.kind, l.anchor, l.queryString, l.interwikiAlias, ())

inductive ImageTag where
  | attachment
  | url
  deriving DecidableEq, Repr

def ImageTag.fields : ImageTag → List Field
  | attachment => [Field.optionalText "document", Field.text "attachment"]
  | url => [Field.text "url"]

def imageFamily : Family Image where
  title := "Image"
  key := "type"
  Tag := ImageTag
  tags := [.attachment, .url]
  tagName
    | .attachment => "document"
    | .url => "url"
  fields := ImageTag.fields
  build
    | .attachment, (document, name, ()) => .attachment document name
    | .url, (address, ()) => .url address
  split
    | .attachment document name => ⟨.attachment, (document, name, ())⟩
    | .url address => ⟨.url, (address, ())⟩

inductive MarkupNodeTag where
  | element
  | text
  | comment
  | cdata
  deriving DecidableEq, Repr

def MarkupNodeTag.fields : MarkupNodeTag → List Field
  | element => [Field.text "name", Field.parameters "attributes"]
  | text => [Field.text "text"]
  | comment => [Field.text "text"]
  | cdata => [Field.text "text"]

def markupNodeFamily : Family MarkupNode where
  title := "XmlNode"
  key := "type"
  Tag := MarkupNodeTag
  tags := [.element, .text, .comment, .cdata]
  tagName
    | .element => "element"
    | .text => "text"
    | .comment => "comment"
    | .cdata => "c_data"
  fields := MarkupNodeTag.fields
  build
    | .element, (name, attributes, ()) => .element name attributes
    | .text, (text, ()) => .text text
    | .comment, (text, ()) => .comment text
    | .cdata, (text, ()) => .cdata text
  split
    | .element name attributes => ⟨.element, (name, attributes, ())⟩
    | .text text => ⟨.text, (text, ())⟩
    | .comment text => ⟨.comment, (text, ())⟩
    | .cdata text => ⟨.cdata, (text, ())⟩

/-! ## Containers -/

inductive ContainerTag where
  | document
  | paragraph
  | heading
  | list
  | listItem
  | definitionList
  | definitionTerm
  | definitionDescription
  | quotation
  | quotationLine
  | table
  | tableRow
  | tableCell
  | tableHeadCell
  | link
  | format
  | macroMarker
  | markupNode
  | error
  deriving DecidableEq, Repr

namespace ContainerTag

/-- All kinds, in the order in which messages list them. -/
def all : List ContainerTag :=
  [document, paragraph, heading, list, listItem, definitionList, definitionTerm,
    definitionDescription, quotation, quotationLine, table, tableRow, tableCell, tableHeadCell,
    link, format, macroMarker, markupNode, error]

/-- The name behind `begin_` and `end_`. -/
def name : ContainerTag → String
  | document => "document"
  | paragraph => "paragraph"
  | heading => "section"
  | list => "list"
  | listItem => "list_item"
  | definitionList => "definition_list"
  | definitionTerm => "definition_term"
  | definitionDescription => "definition_description"
  | quotation => "quotation"
  | quotationLine => "quotation_line"
  | table => "table"
  | tableRow => "table_row"
  | tableCell => "table_cell"
  | tableHeadCell => "table_head_cell"
  | link => "link"
  | format => "format"
  | macroMarker => "macro_marker"
  | markupNode => "xml_node"
  | error => "error"

def fields : ContainerTag → List Field
  | document => []
  | paragraph => [Field.parameters "parameters"]
  | heading =>
    [⟨"level", SectionLevel, Codec.sectionLevel, .required⟩, Field.parameters "parameters"]
  | list => [⟨"list_type", ListKind, Codec.listKind, .required⟩, Field.parameters "parameters"]
  | listItem => []
  | definitionList => [Field.parameters "parameters"]
  | definitionTerm => []
  | definitionDescription => []
  | quotation => [Field.parameters "parameters"]
  | quotationLine => []
  | table => [Field.parameters "parameters"]
  | tableRow => [Field.parameters "parameters"]
  | tableCell => [Field.parameters "parameters"]
  | tableHeadCell => [Field.parameters "parameters"]
  | link =>
    [⟨"link", Link, linkRecord.codec, .required⟩, Field.freeStanding, Field.parameters "parameters"]
  | format => [⟨"format", Format, Codec.format, .required⟩, Field.parameters "parameters"]
  | macroMarker =>
    [Field.text "name", Field.parameters "parameters", Field.optionalText "content"]
  | markupNode => [⟨"node", MarkupNode, markupNodeFamily.codec, .required⟩]
  | error =>
    [Field.text "message", ⟨"description", String, Codec.text, .default ""⟩]

/-- The container of that kind with the given values. -/
def build : (tag : ContainerTag) → Values tag.fields → Container
  | document, () => .document
  | paragraph, (p, ()) => .paragraph p
  | heading, (level, p, ()) => .heading level p
  | list, (kind, p, ()) => .list kind p
  | listItem, () => .listItem
  | definitionList, (p, ()) => .definitionList p
  | definitionTerm, () => .definitionTerm
  | definitionDescription, () => .definitionDescription
  | quotation, (p, ()) => .quotation p
  | quotationLine, () => .quotationLine
  | table, (p, ()) => .table p
  | tableRow, (p, ()) => .tableRow p
  | tableCell, (p, ()) => .tableCell p
  | tableHeadCell, (p, ()) => .tableHeadCell p
  | link, (l, freeStanding, p, ()) => .link l freeStanding p
  | format, (f, p, ()) => .format f p
  | macroMarker, (name, p, content, ()) => .macroMarker ⟨name, p, content⟩
  | markupNode, (node, ()) => .markupNode node
  | error, (message, description, ()) => .error message description

end ContainerTag

/-- The kind of a container with its values. -/
def Container.split : Container → (tag : ContainerTag) × Values tag.fields
  | document => ⟨.document, ()⟩
  | paragraph p => ⟨.paragraph, (p, ())⟩
  | heading level p => ⟨.heading, (level, p, ())⟩
  | list kind p => ⟨.list, (kind, p, ())⟩
  | listItem => ⟨.listItem, ()⟩
  | definitionList p => ⟨.definitionList, (p, ())⟩
  | definitionTerm => ⟨.definitionTerm, ()⟩
  | definitionDescription => ⟨.definitionDescription, ()⟩
  | quotation p => ⟨.quotation, (p, ())⟩
  | quotationLine => ⟨.quotationLine, ()⟩
  | table p => ⟨.table, (p, ())⟩
  | tableRow p => ⟨.tableRow, (p, ())⟩
  | tableCell p => ⟨.tableCell, (p, ())⟩
  | tableHeadCell p => ⟨.tableHeadCell, (p, ())⟩
  | link l freeStanding p => ⟨.link, (l, freeStanding, p, ())⟩
  | format f p => ⟨.format, (f, p, ())⟩
  | macroMarker call => ⟨.macroMarker, (call.name, call.parameters, call.content, ())⟩
  | markupNode node => ⟨.markupNode, (node, ())⟩
  | error message description => ⟨.error, (message, description, ())⟩

/-! ## Content -/

inductive ContentTag where
  | word
  | space
  | specialSymbol
  | escape
  | lineBreak
  | newLine
  | emptyLines
  | horizontalLine
  | inlineMacro
  | standaloneMacro
  | image
  | id
  | verbatimInline
  | verbatimStandalone
  deriving DecidableEq, Repr

namespace ContentTag

/-- All kinds, in the order in which messages list them. -/
def all : List ContentTag :=
  [word, space, specialSymbol, escape, lineBreak, newLine, emptyLines, horizontalLine,
    inlineMacro, standaloneMacro, image, id, verbatimInline, verbatimStandalone]

/-- The name behind `on_`. -/
def name : ContentTag → String
  | word => "word"
  | space => "space"
  | specialSymbol => "special_symbol"
  | escape => "escape"
  | lineBreak => "line_break"
  | newLine => "new_line"
  | emptyLines => "empty_lines"
  | horizontalLine => "horizontal_line"
  | inlineMacro => "inline_macro"
  | standaloneMacro => "standalone_macro"
  | image => "image"
  | id => "id"
  | verbatimInline => "verbatim_inline"
  | verbatimStandalone => "verbatim_standalone"

def fields : ContentTag → List Field
  | word => [Field.text "word"]
  | space => []
  | specialSymbol => [⟨"symbol", Char, Codec.character, .required⟩]
  | escape => [Field.text "escaped"]
  | lineBreak => []
  | newLine => []
  | emptyLines => [⟨"count", UInt64, Codec.count, .required⟩]
  | horizontalLine => [Field.parameters "parameters"]
  | inlineMacro =>
    [Field.text "name", Field.parameters "parameters", Field.optionalText "content"]
  | standaloneMacro =>
    [Field.text "name", Field.parameters "parameters", Field.optionalText "content"]
  | image =>
    [⟨"image", Image, imageFamily.codec, .required⟩, Field.freeStanding,
      Field.parameters "parameters"]
  | id => [Field.text "name"]
  | verbatimInline => [Field.text "protected"]
  | verbatimStandalone => [Field.text "protected", Field.parameters "parameters"]

/-- The content of that kind with the given values. -/
def build : (tag : ContentTag) → Values tag.fields → Content
  | word, (text, ()) => .word text
  | space, () => .space
  | specialSymbol, (symbol, ()) => .specialSymbol symbol
  | escape, (text, ()) => .escape text
  | lineBreak, () => .lineBreak
  | newLine, () => .newLine
  | emptyLines, (count, ()) => .emptyLines count
  | horizontalLine, (p, ()) => .horizontalLine p
  | inlineMacro, (name, p, content, ()) => .inlineMacro ⟨name, p, content⟩
  | standaloneMacro, (name, p, content, ()) => .standaloneMacro ⟨name, p, content⟩
  | image, (i, freeStanding, p, ()) => .image i freeStanding p
  | id, (name, ()) => .id name
  | verbatimInline, (text, ()) => .verbatimInline text
  | verbatimStandalone, (text, p, ()) => .verbatimStandalone text p

end ContentTag

/-- The kind of content with its values. -/
def Content.split : Content → (tag : ContentTag) × Values tag.fields
  | word text => ⟨.word, (text, ())⟩
  | space => ⟨.space, ()⟩
  | specialSymbol symbol => ⟨.specialSymbol, (symbol, ())⟩
  | escape text => ⟨.escape, (text, ())⟩
  | lineBreak => ⟨.lineBreak, ()⟩
  | newLine => ⟨.newLine, ()⟩
  | emptyLines count => ⟨.emptyLines, (count, ())⟩
  | horizontalLine p => ⟨.horizontalLine, (p, ())⟩
  | inlineMacro call => ⟨.inlineMacro, (call.name, call.parameters, call.content, ())⟩
  | standaloneMacro call => ⟨.standaloneMacro, (call.name, call.parameters, call.content, ())⟩
  | image i freeStanding p => ⟨.image, (i, freeStanding, p, ())⟩
  | id name => ⟨.id, (name, ())⟩
  | verbatimInline text => ⟨.verbatimInline, (text, ())⟩
  | verbatimStandalone text p => ⟨.verbatimStandalone, (text, p, ())⟩

/-! ## Events -/

inductive EventTag where
  | enter (container : ContainerTag)
  | leave (container : ContainerTag)
  | content (content : ContentTag)
  deriving DecidableEq, Repr

namespace EventTag

/-- All kinds: the two of each container, then content. -/
def all : List EventTag :=
  ContainerTag.all.flatMap (fun c => [enter c, leave c]) ++ ContentTag.all.map content

/-- The tag of an event. -/
def name : EventTag → String
  | enter c => "begin_" ++ c.name
  | leave c => "end_" ++ c.name
  | content c => "on_" ++ c.name

/-- The fields of an event: both events of a container have those of the container. -/
def fields : EventTag → List Field
  | enter c => c.fields
  | leave c => c.fields
  | content c => c.fields

/-- The event of that kind with the given values. -/
def build : (tag : EventTag) → Values tag.fields → Event
  | enter c, values => .enter (c.build values)
  | leave c, values => .leave (c.build values)
  | content c, values => .content (c.build values)

end EventTag

/-- The kind of an event with its values. -/
def Event.split : Event → (tag : EventTag) × Values tag.fields
  | enter c => ⟨.enter c.split.1, c.split.2⟩
  | leave c => ⟨.leave c.split.1, c.split.2⟩
  | content c => ⟨.content c.split.1, c.split.2⟩

def eventFamily : Family Event where
  title := "Event"
  key := "event"
  Tag := EventTag
  tags := EventTag.all
  tagName := EventTag.name
  fields := EventTag.fields
  build := EventTag.build
  split := Event.split

/-! ## Reading text -/

namespace Events

/-- How deep arrays and objects may nest in a member of an event. -/
def memberDepth : Nat := Json.maxDepth - 2

/-- Reads any value in a member of an event. -/
def readAny (s : List Char) : Except DecodeError (Json × List Char) :=
  (Json.readValue memberDepth s).mapError .fault

def readTag (s : List Char) : Except DecodeError (EventTag × List Char) :=
  match s with
  | '"' :: rest => do
    let (name, rest) ← Json.readName rest
    let tag ← (eventFamily.tagOfName name).mapError .shape
    .ok (tag, rest)
  | s => .error (.ofWrongStart "variant identifier" s)

/-- Reads a member of an event: the tag is checked, all else set aside. -/
def readMember (found : Option EventTag × List (String × Json)) (name : String) (s : List Char) :
    Except DecodeError ((Option EventTag × List (String × Json)) × List Char) :=
  if name = eventFamily.key then
    match found.1 with
    | some _ => .error (.shape (.duplicateField eventFamily.key))
    | none => do
      let s ← (Json.readColon s).mapError .fault
      let (tag, s) ← readTag s
      .ok ((some tag, found.2), s)
  else do
    let s ← (Json.readColon s).mapError .fault
    let (value, s) ← readAny s
    .ok ((found.1, found.2 ++ [(name, value)]), s)

/-- Reads the values after the tag of an event that is an array. -/
def readItemsAfterTag (s : List Char) : Except DecodeError (List Json × List Char) :=
  match Json.skipBlanks s with
  | ',' :: s => Json.readItems .fault readAny (s.length + 1) (Json.skipBlanks s)
  | ']' :: s => .ok ([], s)
  | [] => .error (.fault .unfinished)
  | _ => .error (.fault .malformed)

def readEvent (s : List Char) : Except DecodeError (Event × List Char) :=
  match s with
  | '\x7b' :: rest => do
    let (found, rest) ← Json.readObject .fault Json.readName readMember (none, []) rest
    let event ← (eventFamily.ofCollected found).mapError .shape
    .ok (event, rest)
  | '[' :: rest =>
    match Json.skipBlanks rest with
    | ']' :: _ => .error (.shape (.missingField eventFamily.key))
    | rest => do
      let (tag, rest) ← readTag rest
      let (items, rest) ← readItemsAfterTag rest
      let event ← (eventFamily.ofItems tag items).mapError .shape
      .ok (event, rest)
  | s => .error (.ofWrongStart ("internally tagged enum " ++ eventFamily.title) s)

/-- Reads a text of events. -/
def read (s : List Char) : Except DecodeError (List Event) :=
  match Json.skipBlanks s with
  | '[' :: rest => do
    let (events, rest) ← Json.readArray .fault readEvent rest
    (Json.readEnd rest).mapError .fault
    .ok events
  | s => .error (.ofWrongStart "a sequence" s)

/-- Reads a text of events. -/
def decode (source : String) : Except DecodeError (List Event) :=
  read source.toList

/-- The JSON form of a list of events. -/
def toJson (events : List Event) : Json :=
  .array (events.map eventFamily.codec.encode)

/-- The text of a list of events: each as an object, tag first and every field after it. -/
def encode (events : List Event) : String :=
  (toJson events).toText

end Events

end WikiMarkup
