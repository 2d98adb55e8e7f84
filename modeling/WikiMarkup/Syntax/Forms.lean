-- SUMMARY: Written forms of parameters, macro calls, formats, headings and links in wiki syntax.
import WikiMarkup.Document.Event

/-!
# Written forms

The forms are plain concatenations: nothing in a value is escaped. A link is written in three
parts, because its label is known only after everything inside it has been written.
-/

namespace WikiMarkup

/-! ## Parameters -/

namespace Parameters

/-- One parameter: the name, and the text between quotes. -/
def pair (entry : String × String) : String :=
  entry.1 ++ "=\"" ++ entry.2 ++ "\""

/-- All parameters with a space between them. -/
def pairs (p : Parameters) : String :=
  " ".intercalate (p.entries.map pair)

/-- The parameters as a block before a construct, on a line of its own if `newline` is set. Without
parameters there is no block. -/
def block (p : Parameters) (newline : Bool) : String :=
  if p.isEmpty then ""
  else "(%" ++ String.join (p.entries.map fun entry => " " ++ pair entry) ++ " %)"
    ++ if newline then "\n" else ""

end Parameters

/-- The mark that ends the effect of a span's parameters. -/
def resetMark : String := "(%%)"

/-! ## Macros -/

/-- A macro call: with content a pair of tags around it, without content a single tag. -/
def MacroCall.written (call : MacroCall) : String :=
  let head := "\x7b\x7b" ++ call.name
    ++ if call.parameters.isEmpty then "" else " " ++ call.parameters.pairs
  match call.content with
  | some content => head ++ "\x7d\x7d" ++ content ++ "\x7b\x7b/" ++ call.name ++ "\x7d\x7d"
  | none => head ++ "/\x7d\x7d"

/-! ## Formats, headings and small content -/

/-- The mark on both sides of a formatting span. -/
def Format.delimiter : Format → String
  | bold => "**"
  | italic => "//"
  | strikeout => "--"
  | underline => "__"
  | superscript => "^^"
  | subscript => ",,"
  | monospace => "##"

/-- The mark on both sides of a heading: one sign for each level. -/
def SectionLevel.marker (level : SectionLevel) : String :=
  String.ofList (List.replicate level.toNat '=')

/-- A character behind the escape sign. -/
def escaped (c : Char) : String := String.ofList ['~', c]

/-- Text that is not read as syntax. -/
def verbatim (text : String) : String := "\x7b\x7b\x7b" ++ text ++ "\x7d\x7d\x7d"

/-- An anchor of that name. -/
def idMacro (name : String) : String := "\x7b\x7bid name=\"" ++ name ++ "\"\x7d\x7d"

/-! ## Links -/

namespace Link

/-- What stands before the label. A free-standing link is its reference alone. -/
def opening (l : Link) (freeStanding : Bool) : String :=
  if freeStanding then l.reference else "[["

/-- The label and its mark. There is none on a free-standing link, and none that says no more than
the reference does. -/
def labelled (l : Link) (freeStanding : Bool) (label : String) : String :=
  if freeStanding || label.isEmpty || label = l.reference then "" else label ++ ">>"

/-- What stands behind the label: reference, parameters and closing brackets. -/
def closing (l : Link) (freeStanding : Bool) (p : Parameters) : String :=
  if freeStanding then ""
  else l.reference ++ (if p.isEmpty then "" else "||" ++ p.pairs) ++ "]]"

end Link

end WikiMarkup
