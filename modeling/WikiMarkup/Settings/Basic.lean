-- SUMMARY: Settings of the program, their defaults and checks, and the errors of reading them.
import WikiMarkup.Files.Host
import WikiMarkup.Pattern.Parser
import WikiMarkup.Text.Quoted

/-!
# Settings

Settings say whether and where renderings are stored, for which documents, and what a request is
rendered for when it does not say so itself. Which texts are patterns is up to the syntax of
patterns in force.
-/

namespace WikiMarkup

/-! ## Settings -/

/-- The settings in force. -/
structure Settings where
  /-- Whether renderings are stored. -/
  caching : Bool
  /-- The directory of the store. -/
  directory : String
  /-- Patterns of the documents whose renderings are stored. -/
  documents : List String
  /-- The version of the store. Entries of another version are dropped. -/
  version : String
  defaultAction : String
  defaultLocale : String
  /-- The file that the settings were read from. -/
  source : Option String
  deriving DecidableEq, Repr

/-! ## Errors -/

/-- Why settings cannot be used. -/
inductive SettingsError where
  /-- There is no file under the path that was asked for. -/
  | missing (path : String)
  /-- The file cannot be read. -/
  | unreadable (error : FileError)
  /-- The file is not TOML, or a setting has a value of a wrong type. -/
  | malformed
  /-- A setting that needs a value has none. -/
  | emptySetting (name : String)
  /-- A text among the document patterns is no pattern. -/
  | invalidPattern (text : String)
  /-- A setting refers to a variable that is not set. -/
  | unsetVariable (setting variableName : String)
  deriving DecidableEq, Repr

def SettingsError.message : SettingsError → String
  | missing path => "Configuration file not found: " ++ path
  | unreadable error => "I/O error: " ++ error.message
  | malformed => "TOML parse error"
  | emptySetting name => "Configuration error: " ++ name ++ " cannot be empty"
  | invalidPattern text =>
    "Configuration error: cache.documents: invalid pattern " ++ Text.quote text
  | unsetVariable setting name =>
    "Environment variable error in " ++ setting ++ ": $\x7b" ++ name ++ "\x7d not set"

/-! ## Defaults -/

namespace Settings

/-- The version of the program, which is also that of stores for which none is set. -/
def programVersion : String := "0.1.0"

/-- The directory of the store, seen from that of the settings. -/
def defaultDirectory : String := ".wr/cache"

/-- The action of requests where none is set. -/
def standardAction : String := "view"

/-- The settings that hold without a file, seen from a directory. -/
def defaults (base : String) : Settings where
  caching := true
  directory := Path.join base defaultDirectory
  documents := []
  version := programVersion
  defaultAction := standardAction
  defaultLocale := ""
  source := none

/-! ## Checks -/

/-- The patterns that a list of texts writes, or an error for the first text that is none. -/
def patternsOf [PatternSyntax] (texts : List String) : Except SettingsError (List Pattern) :=
  texts.mapM fun text =>
    match PatternSyntax.read? text with
    | some pattern => .ok pattern
    | none => .error (.invalidPattern text)

/-- The patterns of the documents whose renderings are stored. -/
def patterns [PatternSyntax] (s : Settings) : Except SettingsError (List Pattern) :=
  patternsOf s.documents

/-- Refuses the empty text. -/
def requireText (name value : String) : Except SettingsError Unit :=
  if value.isEmpty then .error (.emptySetting name) else .ok ()

/-- Accepts settings that have an action, a version and only valid patterns. -/
def validate [PatternSyntax] (s : Settings) : Except SettingsError Unit := do
  requireText "render.default_action" s.defaultAction
  requireText "cache.version" s.version
  let _ ← s.patterns
  .ok ()

/-! ## Overrides -/

/-- Settings from the command line, which win over those of the file. -/
structure Overrides where
  caching : Option Bool
  directory : Option String
  deriving DecidableEq, Repr

/-- The settings with overrides in force. -/
def override (s : Settings) (o : Overrides) : Settings :=
  { s with
    caching := o.caching.getD s.caching
    directory := o.directory.getD s.directory }

end Settings

end WikiMarkup
