-- SUMMARY: Where rendered text goes: a base text and the scopes opened above it, which collect or drop what is written.

/-!
# Sinks

Text is appended to the innermost open scope, or to the base text if none is open. A collecting
scope keeps what is written until it is closed; a dropping scope keeps nothing. The base is never
closed.
-/

namespace WikiMarkup

/-- A scope for written text. -/
inductive Sink where
  | collect (text : String)
  | drop
  deriving DecidableEq, Repr

namespace Sink

/-- The sink after `text` is written to it. -/
def write (text : String) : Sink → Sink
  | collect before => collect (before ++ text)
  | drop => drop

/-- What the sink has kept. -/
def kept : Sink → String
  | collect text => text
  | drop => ""

end Sink

/-- The base text and the open scopes, innermost first. -/
structure Sinks where
  base : String
  scopes : List Sink
  deriving DecidableEq, Repr

namespace Sinks

/-- Nothing written and no scope open. -/
def empty : Sinks := ⟨"", []⟩

/-- Appends to the innermost scope, or to the base. -/
def write (text : String) (s : Sinks) : Sinks :=
  match s.scopes with
  | [] => { s with base := s.base ++ text }
  | top :: below => { s with scopes := top.write text :: below }

def enter (sink : Sink) (s : Sinks) : Sinks := { s with scopes := sink :: s.scopes }

/-- Closes the innermost scope and gives what it has kept, whatever its kind. -/
def leave? (s : Sinks) : Option (String × Sinks) :=
  match s.scopes with
  | [] => none
  | top :: below => some (top.kept, { s with scopes := below })

/-- How many scopes are open. -/
def depth (s : Sinks) : Nat := s.scopes.length

end Sinks

end WikiMarkup
