-- SUMMARY: Command line arguments: options, switches and the input, and what they ask the program to do.

/-!
# Arguments

The program has one command, `render`. Its arguments are read from left to right by a machine that
takes one argument at a time. An option takes its value from the same argument or from the next
one. The first fault, or the first request for help, ends the reading.
-/

namespace WikiMarkup

/-! ## What can be asked for -/

/-- The options that take a value. -/
inductive ValueOption where
  | document
  | action
  | locale
  | parameter
  | config
  | cacheDirectory
  deriving DecidableEq, Repr

/-- The options that take none. -/
inductive Switch where
  | noCache
  | verbose
  deriving DecidableEq, Repr

/-- The arguments of the command `render`. -/
structure RenderArguments where
  /-- The path of the input. Without one standard input is read. -/
  input : Option String
  document : Option String
  action : Option String
  locale : Option String
  /-- The parameters of the request, in order. -/
  parameters : List (String × String)
  /-- The path of the settings. -/
  config : Option String
  cacheDirectory : Option String
  noCache : Bool
  verbose : Bool
  deriving DecidableEq, Repr

/-- What a list of arguments asks for. -/
inductive Invocation where
  | render (arguments : RenderArguments)
  | help
  | version
  /-- The arguments make no sense. -/
  | invalid
  deriving DecidableEq, Repr

namespace ValueOption

def ofLong? (name : String) : Option ValueOption :=
  if name = "document" then some .document
  else if name = "action" then some .action
  else if name = "locale" then some .locale
  else if name = "param" then some .parameter
  else if name = "config" then some .config
  else if name = "cache-dir" then some .cacheDirectory
  else none

def ofShort? (c : Char) : Option ValueOption :=
  if c = 'd' then some .document
  else if c = 'a' then some .action
  else if c = 'l' then some .locale
  else if c = 'P' then some .parameter
  else if c = 'c' then some .config
  else none

end ValueOption

namespace Switch

def ofLong? (name : String) : Option Switch :=
  if name = "no-cache" then some .noCache
  else if name = "verbose" then some .verbose
  else none

def ofShort? (c : Char) : Option Switch :=
  if c = 'v' then some .verbose else none

end Switch

/-! ## Giving values -/

namespace RenderArguments

def empty : RenderArguments :=
  ⟨none, none, none, none, [], none, none, false, false⟩

/-- The variable that holds the cache directory where no argument gives it. -/
def cacheDirectoryVariable : String := "WR_CACHE_DIR"

/-- Splits a parameter at its first equals sign. -/
def splitAssignment? : List Char → Option (List Char × List Char)
  | [] => none
  | c :: s =>
    if c = '=' then some ([], s)
    else (splitAssignment? s).map fun (name, value) => (c :: name, value)

/-- A value that is given once. -/
def once (present : Option String) (value : String) : Except Invocation (Option String) :=
  if present.isSome then .error .invalid else .ok (some value)

/-- A path that is given once. The empty text is no path. -/
def oncePath (present : Option String) (value : String) : Except Invocation (Option String) :=
  if value.isEmpty then .error .invalid else once present value

/-- Gives an option its value. Parameters may be given several times. -/
def give (a : RenderArguments) (option : ValueOption) (value : String) :
    Except Invocation RenderArguments :=
  match option with
  | .document => do return { a with document := ← once a.document value }
  | .action => do return { a with action := ← once a.action value }
  | .locale => do return { a with locale := ← once a.locale value }
  | .config => do return { a with config := ← oncePath a.config value }
  | .cacheDirectory => do return { a with cacheDirectory := ← oncePath a.cacheDirectory value }
  | .parameter =>
    match splitAssignment? value.toList with
    | some (name, value) =>
      .ok { a with
        parameters := a.parameters ++ [(String.ofList name, String.ofList value)] }
    | none => .error .invalid

/-- Gives the input. -/
def giveInput (a : RenderArguments) (path : String) : Except Invocation RenderArguments := do
  return { a with input := ← oncePath a.input path }

/-- Turns a switch on, which may happen once. -/
def turnOn (a : RenderArguments) : Switch → Except Invocation RenderArguments
  | .noCache => if a.noCache then .error .invalid else .ok { a with noCache := true }
  | .verbose => if a.verbose then .error .invalid else .ok { a with verbose := true }

/-- Takes the cache directory from a variable where no argument gave it. -/
def withVariable (a : RenderArguments) : Option String → Except Invocation RenderArguments
  | some value => if a.cacheDirectory.isSome then .ok a else a.give .cacheDirectory value
  | none => .ok a

end RenderArguments

/-! ## Reading -/

/-- Arguments half read. -/
structure ArgumentReader where
  arguments : RenderArguments
  /-- The option that waits for its value. -/
  pending : Option ValueOption
  /-- Whether all that follows is input. -/
  inputOnly : Bool
  deriving DecidableEq, Repr

namespace ArgumentReader

/-- A reader that has read nothing. -/
def initial : ArgumentReader := ⟨.empty, none, false⟩

/-- Gives an option the value that stands in the same argument, or makes it wait for the next. -/
def giveOrWait (r : ArgumentReader) (option : ValueOption) :
    Option (List Char) → Except Invocation ArgumentReader
  | some value => do return { r with arguments := ← r.arguments.give option (String.ofList value) }
  | none => .ok { r with pending := some option }

/-- The value behind a letter: all that follows it, less an equals sign at its start. -/
def attached : List Char → Option (List Char)
  | [] => none
  | '=' :: value => some value
  | value => some value

/-- Reads letters after a single dash: switches, and at the end an option with its value. -/
def takeLetters (r : ArgumentReader) : List Char → Except Invocation ArgumentReader
  | [] => .ok r
  | c :: s =>
    if c = 'h' then .error .help
    else
      match ValueOption.ofShort? c, Switch.ofShort? c with
      | some option, _ => r.giveOrWait option (attached s)
      | none, some switch => do
        takeLetters { r with arguments := ← r.arguments.turnOn switch } s
      | none, none => .error .invalid

/-- Reads a long name, with its value if an equals sign follows it. -/
def takeLong (r : ArgumentReader) (name : String) (value : Option (List Char)) :
    Except Invocation ArgumentReader :=
  match ValueOption.ofLong? name, Switch.ofLong? name, value with
  | some option, _, value => r.giveOrWait option value
  | none, some switch, none => do return { r with arguments := ← r.arguments.turnOn switch }
  | none, none, none => if name = "help" then .error .help else .error .invalid
  | none, _, some _ => .error .invalid

/-- Splits what follows two dashes into a name and the value after an equals sign. -/
def splitLong (s : List Char) : String × Option (List Char) :=
  match RenderArguments.splitAssignment? s with
  | some (name, value) => (String.ofList name, some value)
  | none => (String.ofList s, none)

/-- Reads an input. -/
def takeInput (r : ArgumentReader) (path : List Char) : Except Invocation ArgumentReader := do
  return { r with arguments := ← r.arguments.giveInput (String.ofList path) }

/-- Reads an argument where options may stand and none waits. A single dash is an input. -/
def takeFree (r : ArgumentReader) : List Char → Except Invocation ArgumentReader
  | ['-', '-'] => .ok { r with inputOnly := true }
  | '-' :: '-' :: s => r.takeLong (splitLong s).1 (splitLong s).2
  | '-' :: c :: s => r.takeLetters (c :: s)
  | path => r.takeInput path

/-- Reads an argument. A value that waits is not given by an argument that looks like an option. -/
def take (r : ArgumentReader) (argument : String) : Except Invocation ArgumentReader :=
  if r.inputOnly then r.takeInput argument.toList
  else
    match r.pending, argument.toList with
    | some _, '-' :: _ :: _ => .error .invalid
    | some option, value => { r with pending := none }.giveOrWait option (some value)
    | none, s => r.takeFree s

/-- The arguments that were read, unless an option still waits for its value. -/
def finish (r : ArgumentReader) : Except Invocation RenderArguments :=
  if r.pending.isSome then .error .invalid else .ok r.arguments

end ArgumentReader

namespace Invocation

/-- What the arguments of `render` ask for, with the variable of the cache directory. -/
def ofRender (variableValue : Option String) (arguments : List String) : Invocation :=
  let found : Except Invocation RenderArguments := do
    let reader ← arguments.foldlM ArgumentReader.take .initial
    (← reader.finish).withVariable variableValue
  match found with
  | .ok arguments => .render arguments
  | .error stop => stop

/-- What a list of arguments asks for, with the variable of the cache directory. -/
def ofArguments (variableValue : Option String) : List String → Invocation
  | [] => .invalid
  | ["help"] => .help
  | command :: rest =>
    if command = "render" then ofRender variableValue rest
    else if command = "--help" ∨ command.startsWith "-h" then .help
    else if command = "--version" ∨ command.startsWith "-V" then .version
    else .invalid

end Invocation

end WikiMarkup
