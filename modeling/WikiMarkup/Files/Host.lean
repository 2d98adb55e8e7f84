-- SUMMARY: What the program asks of the host it runs on, and the host made of a file tree and fixed variables.
import WikiMarkup.Files.Tree

/-!
# Hosts

The program reads and writes files, looks up variables and reads its input only through the class
`Host`. A `World` is a host as a value: a file tree, a current directory, variables and an
input, on which every run can be followed.
-/

namespace WikiMarkup

/-- Whether a path leads to a file or to a directory. -/
inductive NodeKind where
  | file
  | directory
  deriving DecidableEq, Repr

/-- What the program can do outside itself. -/
class Host (m : Type → Type) where
  readFile (path : String) : ExceptT FileError m (List UInt8)
  writeFile (path : String) (contents : List UInt8) : ExceptT FileError m Unit
  /-- Makes one directory, whose parent exists. -/
  makeDirectory (path : String) : ExceptT FileError m Unit
  /-- Removes a directory with everything in it. -/
  removeTree (path : String) : ExceptT FileError m Unit
  kind? (path : String) : m (Option NodeKind)
  /-- The path of the current directory. -/
  currentDirectory : m String
  /-- The text of a variable, if it is set. -/
  lookupVariable (name : String) : m (Option String)
  /-- Everything on standard input. -/
  readInput : ExceptT FileError m (List UInt8)

namespace Host

variable {m : Type → Type} [Monad m] [Host m]

/-! ## Derived operations -/

/-- Bytes that have to be text. -/
def asText (bytes : List UInt8) : ExceptT FileError m String :=
  match Text.ofBytes? bytes with
  | some text => pure text
  | none => throw .notText

/-- The contents of a file as text. -/
def readText (path : String) : ExceptT FileError m String := do
  asText (← readFile path)

/-- Whether a path leads to a directory. -/
def isDirectory (path : String) : m Bool := do
  return (← kind? path) = some .directory

/-- Whether a path leads to a file. -/
def isFile (path : String) : m Bool := do
  return (← kind? path) = some .file

/-- Whether a path leads to anything. -/
def pathExists (path : String) : m Bool := do
  return (← kind? path).isSome

/-- Makes a directory, or finds one there. -/
def ensureDirectory (path : String) : ExceptT FileError m Unit :=
  tryCatch (makeDirectory path) fun e => do
    if ← (isDirectory path : m Bool) then pure () else throw e

/-- Makes the first of a list of paths, each the parent of the one before it, and as many of the
others as are missing. The empty path is always there. -/
def ensureFirst : List String → ExceptT FileError m Unit
  | [] => throw (.other "failed to create whole tree")
  | path :: parents =>
    if path.isEmpty then pure ()
    else
      tryCatch (makeDirectory path) fun e => do
        if e = .notFound then
          ensureFirst parents
          ensureDirectory path
        else if ← (isDirectory path : m Bool) then pure ()
        else throw e

/-- Makes a directory and its parents as far as they are missing. -/
def makeDirectories (path : String) : ExceptT FileError m Unit :=
  ensureFirst (Path.ancestors path)

end Host

/-! ## Worlds -/

/-- A host as a value. -/
structure World where
  tree : Tree
  /-- The current directory. -/
  directory : Location
  /-- The variables that are set. Of a name given twice the later one counts. -/
  environment : List (String × String)
  input : List UInt8
  deriving Repr

namespace World

/-- The path of a location. -/
def path (place : Location) : String := "/" ++ "/".intercalate place

/-- The text of a variable. A name that is empty or holds `=` or NUL is never set. -/
def lookupVariable (w : World) (name : String) : Option String :=
  if name.isEmpty || name.toList.contains '=' || name.toList.contains (Char.ofNat 0) then none
  else (w.environment.reverse.find? (·.1 = name)).map (·.2)

/-- Applies an operation that leaves a new tree. -/
def update (f : Tree → Location → Except FileError Tree) (w : World) :
    Except FileError Unit × World :=
  match f w.tree w.directory with
  | .ok tree => (.ok (), { w with tree })
  | .error e => (.error e, w)

instance : Host (StateM World) where
  readFile path := fun w => (w.tree.readFile w.directory path, w)
  writeFile path contents := update fun t d => t.writeFile d path contents
  makeDirectory path := update fun t d => t.makeDirectory d path
  removeTree path := fun w =>
    let (result, tree) := w.tree.removeTree w.directory path
    (result, { w with tree })
  kind? path := fun w =>
    let kind := (w.tree.find? w.directory path).map fun
      | .file _ => NodeKind.file
      | .directory => NodeKind.directory
    (kind, w)
  currentDirectory := fun w => (World.path w.directory, w)
  lookupVariable name := fun w => (w.lookupVariable name, w)
  readInput := fun w => (.ok w.input, w)

end World

end WikiMarkup
