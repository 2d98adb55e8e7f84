-- SUMMARY: What each event of a list adds to the rendered text.
import WikiMarkup.Render.Renderer

/-!
# Traces

A trace follows a list of events and ignores those that fail. Each step says what rendering would
end with if the document ended there: how the text grew, and the warnings.
-/

namespace WikiMarkup

/-- How the text of a step follows from the one before. -/
inductive Growth where
  /-- The earlier text stands before `text`. -/
  | added (text : String)
  /-- The earlier text is not its beginning. -/
  | replaced (text : String)
  deriving DecidableEq, Repr

/-- From one text to the next. -/
def Growth.between (before after : String) : Growth :=
  if before.toList.isPrefixOf after.toList then
    .added (String.ofList (after.toList.drop before.length))
  else .replaced after

/-- What one event does. -/
structure TraceStep where
  growth : Growth
  warnings : List Warning
  /-- Why the event failed, if it did. -/
  failure : Option RenderError
  deriving DecidableEq, Repr

/-- Delivering a single event, seen from outside. -/
def TraceStep.of (r : Renderer) (e : Event) : TraceStep where
  growth := .between r.finish.text (r.attempt e).finish.text
  warnings := (r.attempt e).finish.warnings
  failure :=
    match r.deliver e with
    | .ok _ => none
    | .error error => some error

/-- The steps of a list of events from a given state on. -/
def Renderer.trace (r : Renderer) : List Event → List TraceStep
  | [] => []
  | e :: events => .of r e :: (r.attempt e).trace events

end WikiMarkup
