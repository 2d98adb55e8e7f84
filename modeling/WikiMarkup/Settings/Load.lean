-- SUMMARY: Finding the file of the settings and loading it.
import WikiMarkup.Settings.Written

/-!
# Loading settings

Settings come from the file that was asked for, or from the nearest file of the usual name in the
current directory or one above it, or they are the defaults. What the command line says is put in
force last.
-/

namespace WikiMarkup.Settings

variable {m : Type → Type} [Monad m] [Host m]

/-- The name of the file that is searched for. -/
def fileName : String := "wr.toml"

/-- The first path of a list that leads to a file. -/
def firstFile? : List String → m (Option String)
  | [] => return none
  | path :: paths => do
    if ← Host.isFile path then return some path else firstFile? paths

/-- The nearest file of the usual name, from a directory upwards. -/
def discoverFrom (directory : String) : m (Option String) :=
  firstFile? ((Path.ancestors directory).map (Path.join · fileName))

/-- The values of variables that are set among `names`. -/
def lookUp : List String → m (List (String × String))
  | [] => return []
  | name :: names => do
    let value ← Host.lookupVariable name
    let rest ← lookUp names
    return match value with
      | some value => (name, value) :: rest
      | none => rest

/-- The value of a variable among those that were looked up. -/
def lookedUp (values : List (String × String)) (name : String) : Option String :=
  (values.find? (·.1 = name)).map (·.2)

/-- The settings that a document under a path writes, with the values of variables. -/
def ofDocument [PatternSyntax] (path : String) (values : List (String × String))
    (w : WrittenSettings) : Except SettingsError Settings := do
  let w ← w.expand (lookedUp values)
  let settings := w.resolve path
  settings.validate
  .ok settings

/-- Loads the settings of a file. -/
def loadFile [PatternSyntax] (path : String) : m (Except SettingsError Settings) := do
  let read ← (Host.readText path : ExceptT FileError m String).run
  match read with
  | .error e => return .error (.unreadable e)
  | .ok document =>
    match WrittenSettings.read? document with
    | none => return .error .malformed
    | some w => return ofDocument path (← lookUp w.names) w

/-- Loads the settings of the file that was asked for, or of the nearest one, or the defaults. -/
def loadBase [PatternSyntax] (path : Option String) : m (Except SettingsError Settings) := do
  match path with
  | some path =>
    if ← Host.pathExists path then loadFile path else return .error (.missing path)
  | none => do
    let directory ← Host.currentDirectory
    match ← discoverFrom directory with
    | some found => loadFile found
    | none => return .ok (defaults directory)

/-- Loads settings and puts those of the command line in force. -/
def load [PatternSyntax] (path : Option String) (overrides : Overrides) :
    m (Except SettingsError Settings) := do
  return (← loadBase path).map (·.override overrides)

end WikiMarkup.Settings
