-- SUMMARY: Values of a TOML document and the three ways in which a document adds to its tables.

/-!
# TOML values

A document is a table that grows line by line. A key sets a value, a header opens a table, and a
doubled header opens one more table in a list of tables. Which of these may touch a table that is
already there depends on its origin, so a table keeps it.
-/

namespace WikiMarkup.Toml

/-! ## Values -/

/-- How a table came about. -/
inductive Origin where
  /-- Opened by a header. -/
  | opened
  /-- Passed through by the header of a table inside it. -/
  | passed
  /-- Made by a dotted key. -/
  | dotted
  /-- Written between braces. It is complete. -/
  | braced
  deriving DecidableEq, Repr

/-- A value. Of a floating-point number and of a date or time nothing is kept. -/
inductive Value where
  | text (value : String)
  | integer (value : Int)
  | real
  | boolean (value : Bool)
  | moment
  | array (items : List Value)
  | table (origin : Origin) (members : List (String × Value))
  /-- The tables under a doubled header, in order. -/
  | tables (elements : List (List (String × Value)))
  deriving Repr

/-- The members of a table, in order of appearance. -/
abbrev Members := List (String × Value)

namespace Members

/-- The value under a name. -/
def get? (name : String) (members : Members) : Option Value :=
  (members.find? (·.1 = name)).map (·.2)

/-- Puts the value that `f` makes of the present one under a name, unless `f` refuses. -/
def alter (name : String) (f : Option Value → Option Value) : Members → Option Members
  | [] => (f none).map fun value => [(name, value)]
  | (n, present) :: rest =>
    if n = name then (f (some present)).map fun value => (n, value) :: rest
    else (alter name f rest).map ((n, present) :: ·)

/-! ## Headers -/

/-- Applies `f` to the last of a list of tables. -/
def alterLast (f : Members → Option Members) : List Members → Option (List Members)
  | [] => none
  | [last] => (f last).map ([·])
  | element :: rest => (alterLast f rest).map (element :: ·)

/-- Applies `f` to the table that the names of a header lead to. Tables that are missing on the way
are made, and of a list of tables the last is meant. -/
def within (f : Members → Option Members) : List String → Members → Option Members
  | [], members => f members
  | name :: path, members =>
    alter name (fun
      | none => (within f path []).map (.table .passed)
      | some (.table .braced _) => none
      | some (.table origin inner) => (within f path inner).map (.table origin)
      | some (.tables elements) => (alterLast (within f path) elements).map .tables
      | some _ => none) members

/-- Opens the table of a header: a new one, or one that was only passed through so far. -/
def openTable (name : String) : Members → Option Members :=
  alter name fun
    | none => some (.table .opened [])
    | some (.table .passed inner) => some (.table .opened inner)
    | some _ => none

/-- Opens one more table under a doubled header. -/
def openElement (name : String) : Members → Option Members :=
  alter name fun
    | none => some (.tables [[]])
    | some (.tables elements) => some (.tables (elements ++ [[]]))
    | some _ => none

/-! ## Keys -/

/-- Sets the value of a dotted key, given by its names. The table that gets the value has to be one
that dotted keys made, and a value is set once. -/
def define (value : Value) : List String → Members → Option Members
  | [], _ => none
  | [name], members =>
    alter name (fun
      | none => some value
      | some _ => none) members
  | name :: next :: path, members =>
    alter name (fun
      | none => (define value (next :: path) []).map (.table .dotted)
      | some (.table .dotted inner) => (define value (next :: path) inner).map (.table .dotted)
      | some (.table .passed inner) =>
        if path = [] then none else (define value (next :: path) inner).map (.table .passed)
      | some (.tables elements) =>
        if path = [] then none
        else (alterLast (define value (next :: path)) elements).map .tables
      | some _ => none) members

/-- The members that a list of keys and values sets. -/
def ofAssignments (assignments : List (List String × Value)) : Option Members :=
  assignments.foldlM (fun members (path, value) => define value path members) []

end Members

end WikiMarkup.Toml
