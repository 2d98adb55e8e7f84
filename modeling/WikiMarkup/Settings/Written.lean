-- SUMMARY: The settings that a TOML document writes, before variables and paths are put in.
import WikiMarkup.Settings.Basic
import WikiMarkup.Settings.Expansion
import WikiMarkup.Toml.Reader

/-!
# Written settings

A document has two sections, `cache` and `render`. A section may also be an array, whose items are
the settings in their order. Members that are not known are passed over, and a value of a wrong type
makes the whole document malformed.
-/

namespace WikiMarkup

/-- The settings as a document writes them. -/
structure WrittenSettings where
  caching : Option Bool
  directory : Option String
  documents : List String
  version : Option String
  defaultAction : String
  defaultLocale : String
  deriving DecidableEq, Repr

namespace WrittenSettings

open Toml

/-! ## Values -/

/-- The value of a text. -/
def text? : Value → Option String
  | .text value => some value
  | _ => none

/-- The value of a truth value. -/
def boolean? : Value → Option Bool
  | .boolean value => some value
  | _ => none

/-- The items of an array of texts. -/
def texts? : Value → Option (List String)
  | .array items => items.mapM text?
  | _ => none

/-- Reads a setting that may be missing. -/
def optional {α : Type} (read : Value → Option α) : Option Value → Option (Option α)
  | none => some none
  | some value => (read value).map some

/-! ## Sections -/

/-- The values of a section for a list of names. A table gives them by name and an array by position.
A section that is missing, or that is a date or a time, has none. -/
def sectionValues (names : List String) : Option Value → Option (List (Option Value))
  | none => some (names.map fun _ => none)
  | some (.table _ members) => some (names.map (Members.get? · members))
  | some (.array items) => some ((List.range names.length).map (items[·]?))
  | some (.tables elements) =>
    some ((List.range names.length).map fun i => (elements[i]?).map (.table .opened))
  | some .moment => some (names.map fun _ => none)
  | some _ => none

/-- The settings that the members of a document write. -/
def ofMembers? (members : Members) : Option WrittenSettings := do
  let cache ← sectionValues ["enabled", "dir", "documents", "version"]
    (Members.get? "cache" members)
  let render ← sectionValues ["default_action", "default_locale"]
    (Members.get? "render" members)
  match cache, render with
  | [caching, directory, documents, version], [action, locale] => do
    let caching ← optional boolean? caching
    let directory ← optional text? directory
    let documents ← optional texts? documents
    let version ← optional text? version
    let action ← optional text? action
    let locale ← optional text? locale
    some ⟨caching, directory, documents.getD [], version,
      action.getD Settings.standardAction, locale.getD ""⟩
  | _, _ => none

/-- The settings that a document writes. -/
def read? (document : String) : Option WrittenSettings :=
  (Toml.read? document).bind ofMembers?

/-! ## Variables and paths -/

/-- Expands the references in the value of a setting. -/
def expandSetting (lookup : String → Option String) (setting value : String) :
    Except SettingsError String :=
  (Expansion.expand lookup value).mapError (.unsetVariable setting)

/-- Expands the references in the value of a setting that may be missing. -/
def expandOptional (lookup : String → Option String) (setting : String) :
    Option String → Except SettingsError (Option String)
  | none => .ok none
  | some value => (expandSetting lookup setting value).map some

/-- The settings with references expanded in the directory, the version and the locale, in this
order. -/
def expand (lookup : String → Option String) (w : WrittenSettings) :
    Except SettingsError WrittenSettings := do
  let directory ← expandOptional lookup "cache.dir" w.directory
  let version ← expandOptional lookup "cache.version" w.version
  let defaultLocale ← expandSetting lookup "render.default_locale" w.defaultLocale
  .ok { w with directory, version, defaultLocale }

/-- The variables that the settings refer to. -/
def names (w : WrittenSettings) : List String :=
  (w.directory.map Expansion.names).getD [] ++ (w.version.map Expansion.names).getD []
    ++ Expansion.names w.defaultLocale

/-- The settings in force for those of a file: paths are seen from its directory, and what is not
written has its default. -/
def resolve (w : WrittenSettings) (path : String) : Settings :=
  let base := (Path.parent? path).getD "."
  let defaults := Settings.defaults base
  { caching := w.caching.getD defaults.caching
    directory := (w.directory.map (Path.join base)).getD defaults.directory
    documents := w.documents
    version := w.version.getD defaults.version
    defaultAction := w.defaultAction
    defaultLocale := w.defaultLocale
    source := some path }

end WrittenSettings

end WikiMarkup
