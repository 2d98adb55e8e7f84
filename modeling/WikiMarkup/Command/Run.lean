-- SUMMARY: A run of the program: settings, cache, input and rendering, and what is shown at the end.
import WikiMarkup.Command.Arguments
import WikiMarkup.Render.Renderer
import WikiMarkup.Settings.Load
import WikiMarkup.Store.Renderings
import WikiMarkup.Wire.Events

/-!
# Runs

A run loads the settings, opens the cache if there is a document to store a rendering for, reads the
input, and renders it unless its rendering is stored. What fails on the way ends the run.
-/

namespace WikiMarkup

/-! ## Errors and reports -/

/-- Why a run ends early. -/
inductive RunError where
  | settings (error : SettingsError)
  /-- The input cannot be read. -/
  | input (error : FileError)
  /-- The input is not a list of events. -/
  | events (error : DecodeError)
  | render (error : RenderError)
  deriving Repr

def RunError.message : RunError → String
  | settings error => error.message
  | input error => error.message
  | events _ => "invalid event stream"
  | render error => error.message

/-- What a run leaves to be shown. -/
structure Report where
  /-- The exit status. -/
  status : Nat
  /-- What goes to standard output. -/
  output : String
  warnings : List Warning
  /-- What ended the run early. -/
  error : Option String
  deriving DecidableEq, Repr

namespace Report

/-- The lines for standard error. -/
def notes (r : Report) : List String :=
  r.warnings.map (fun w => "warning: " ++ w.message)
    ++ r.error.toList.map (fun message => "Error: " ++ message)

/-- The report of a rendering: its warnings, and its text with a line end. -/
def ofRendered (r : Rendered) : Report := ⟨0, r.text ++ "\n", r.warnings, none⟩

/-- The report of an error. -/
def ofError (e : RunError) : Report := ⟨1, "", [], some e.message⟩

/-- The report of arguments that make no sense. -/
def invalid : Report := ⟨2, "", [], some "invalid arguments, see wr --help"⟩

/-- The report of a request for help. -/
def help : Report :=
  ⟨0, "Usage: wr render [OPTIONS] [INPUT]\n\n"
    ++ "Renders a JSON array of events to wiki markup. Without INPUT, standard input is read.\n\n"
    ++ "  -d, --document DOCUMENT  the document the events belong to; needed for caching\n"
    ++ "  -a, --action ACTION      the action the document is rendered for\n"
    ++ "  -l, --locale LOCALE      the locale the document is rendered in\n"
    ++ "  -P, --param KEY=VALUE    a request parameter; refresh=1 passes over the cache\n"
    ++ "  -c, --config PATH        the configuration file\n"
    ++ "      --cache-dir PATH     the cache directory\n"
    ++ "      --no-cache           render without a cache\n"
    ++ "  -v, --verbose            say more\n"
    ++ "  -h, --help               show this text\n", [], none⟩

/-- The report of a request for the version. -/
def version : Report := ⟨0, "wr " ++ Settings.programVersion ++ "\n", [], none⟩

end Report

/-! ## Rendering a source -/

/-- Decodes a source and renders it. -/
def renderFresh (source : String) : Except RunError Rendered := do
  let events ← (Events.decode source).mapError .events
  (render events).mapError .render

variable {m : Type → Type} [Monad m] [Host m]

/-- Renders a source for a request unless its rendering is stored, and stores the new one. A stored
rendering has no warnings. -/
def renderThrough (cache : RenderingCache) (request : RenderRequest) (source : String) :
    m (Except RunError Rendered) := do
  match ← cache.find? request source with
  | some found => return .ok ⟨found.rendered, []⟩
  | none =>
    match renderFresh source with
    | .error e => return .error e
    | .ok rendered => do
      cache.insert request source rendered.text []
      return .ok rendered

/-- Renders a source, through a cache if there is one. -/
def renderSource (cache : Option (RenderingCache × RenderRequest)) (source : String) :
    m (Except RunError Rendered) :=
  match cache with
  | some (cache, request) => renderThrough cache request source
  | none => return renderFresh source

/-! ## The command -/

namespace RenderArguments

/-- The settings that the arguments override. -/
def overrides (a : RenderArguments) : Settings.Overrides :=
  ⟨if a.noCache then some false else none, a.cacheDirectory⟩

/-- The request for the document of the arguments. What they do not say comes from the settings. -/
def request? (a : RenderArguments) (s : Settings) : Option RenderRequest :=
  a.document.map fun document =>
    ⟨document, some (a.action.getD s.defaultAction), a.locale.getD s.defaultLocale,
      .ofList a.parameters⟩

/-- Reads the input. -/
def readInput (a : RenderArguments) : ExceptT FileError m String :=
  match a.input with
  | some path => Host.readText path
  | none => do Host.asText (← Host.readInput)

/-- Opens the cache for a request, if there is one and settings allow it. -/
def openCache [PatternSyntax] (s : Settings) (request : Option RenderRequest) :
    ExceptT RunError m (Option (RenderingCache × RenderRequest)) := do
  match request with
  | none => return none
  | some request =>
    if s.caching then
      let patterns ← (s.patterns.mapError .settings : Except RunError (List Pattern))
      let store ← (Store.openAt s.directory s.version : m Store)
      return some (⟨store, patterns⟩, request)
    else return none

/-- Does what the arguments ask for. -/
def execute [PatternSyntax] (a : RenderArguments) : ExceptT RunError m Rendered := do
  let settings ← ExceptT.adapt .settings (ExceptT.mk (Settings.load a.config a.overrides))
  let cache ← openCache settings (a.request? settings)
  let source ← ExceptT.adapt .input a.readInput
  ExceptT.mk (renderSource cache source)

end RenderArguments

/-- Runs the program on a list of arguments. -/
def run [PatternSyntax] (arguments : List String) : m Report := do
  let directory ← Host.lookupVariable RenderArguments.cacheDirectoryVariable
  match Invocation.ofArguments directory arguments with
  | .invalid => return .invalid
  | .help => return .help
  | .version => return .version
  | .render a => do
    match ← a.execute.run with
    | .ok rendered => return .ofRendered rendered
    | .error e => return .ofError e

end WikiMarkup
