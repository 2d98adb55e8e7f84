-- SUMMARY: A store of entries in files: opened with a version, read and written under a bucket, a key and a tag.
import WikiMarkup.Files.Host
import WikiMarkup.Json.Canonical
import WikiMarkup.Json.Reader
import WikiMarkup.Json.Printer

/-!
# Entry stores

A store is a directory with a version file and one directory for each bucket. An entry is a file:
its tag on the first line, then its bytes. Opening with another version than the stored one empties
the store. Nothing here fails: what cannot be read is a miss, what cannot be written is dropped.
-/

namespace WikiMarkup

/-! ## Entries -/

namespace Entry

/-- The byte that ends the first line. -/
def lineEnd : UInt8 := 10

/-- The contents of the file of an entry. -/
def encode (tag : String) (value : List UInt8) : List UInt8 :=
  Text.bytes tag ++ lineEnd :: value

/-- The bytes of the first line, and those behind its end. Without a line end all are on it. -/
def splitLine : List UInt8 → List UInt8 × List UInt8
  | [] => ([], [])
  | b :: bytes =>
    if b = lineEnd then ([], bytes)
    else ((b :: (splitLine bytes).1), (splitLine bytes).2)

/-- The bytes of an entry, if it was stored under that tag. The empty tag accepts any entry whose
first line is text. -/
def decode? (tag : String) (contents : List UInt8) : Option (List UInt8) := do
  let (line, value) := splitLine contents
  let stored ← Text.ofBytes? line
  if tag ≠ "" ∧ stored ≠ tag then none else some value

end Entry

/-! ## Stores -/

/-- A place for entries. -/
inductive Store where
  /-- Keeps nothing. -/
  | none
  /-- Keeps entries in files below a directory. -/
  | files (root : String)
  deriving DecidableEq, Repr

namespace Store

variable {m : Type → Type} [Monad m] [Host m]

/-- The path of the version file. -/
def versionPath (root : String) : String := Path.join root "VERSION"

/-- The path of an entry. -/
def entryPath (root bucket key : String) : String := Path.join (Path.join root bucket) key

/-- The version that is stored, if it can be read. -/
def storedVersion (root : String) : m (Option String) := do
  let read ← (Host.readText (versionPath root) : ExceptT FileError m String).run
  return match read with
    | .ok version => some version
    | .error _ => Option.none

/-- Empties the store unless it holds that version, and stores the version. -/
def prepare (root version : String) : ExceptT FileError m Unit := do
  let stored ← (storedVersion root : m (Option String))
  if stored = some version then pure ()
  else
    if ← (Host.pathExists root : m Bool) then Host.removeTree root
    Host.makeDirectories root
    Host.writeFile (versionPath root) (Text.bytes version)

/-- Opens the store at a directory with a version. -/
def openAt (root version : String) : m Store := do
  let _ ← (prepare root version : ExceptT FileError m Unit).run
  return .files root

/-- The bytes stored under a bucket and a key with that tag. -/
def get? (s : Store) (bucket key tag : String) : m (Option (List UInt8)) :=
  match s with
  | .none => return Option.none
  | .files root => do
    let read ← (Host.readFile (entryPath root bucket key) : ExceptT FileError m (List UInt8)).run
    return match read with
      | .ok contents => Entry.decode? tag contents
      | .error _ => Option.none

/-- Writes a file, and the directories above it as far as they are missing. -/
def writeWithParents (path : String) (contents : List UInt8) : ExceptT FileError m Unit := do
  match Path.parent? path with
  | some parent => Host.makeDirectories parent
  | Option.none => pure ()
  Host.writeFile path contents

/-- Stores bytes under a bucket and a key with a tag, in place of those there. A tag of several
lines is refused, since it could not be read back. -/
def put (s : Store) (bucket key tag : String) (value : List UInt8) : m Unit :=
  match s with
  | .none => return ()
  | .files root =>
    if tag.toList.contains '\n' then return ()
    else do
      let _ ← (writeWithParents (entryPath root bucket key) (Entry.encode tag value) :
        ExceptT FileError m Unit).run
      return ()

/-! ## Texts and values -/

/-- The text stored under a bucket and a key. What is not text is a miss. -/
def getText? (s : Store) (bucket key tag : String) : m (Option String) := do
  return (← s.get? bucket key tag).bind Text.ofBytes?

/-- Stores a text. -/
def putText (s : Store) (bucket key tag text : String) : m Unit :=
  s.put bucket key tag (Text.bytes text)

/-- The JSON value that bytes hold, in canonical order. -/
def valueOfBytes? (bytes : List UInt8) : Option Json := do
  let text ← Text.ofBytes? bytes
  match Json.read text.toList with
  | .ok value => some value.canonical
  | .error _ => Option.none

/-- The JSON value stored under a bucket and a key. What is not JSON is a miss. -/
def getValue? (s : Store) (bucket key tag : String) : m (Option Json) := do
  return (← s.get? bucket key tag).bind valueOfBytes?

/-- Stores a JSON value in canonical order. -/
def putValue (s : Store) (bucket key tag : String) (value : Json) : m Unit :=
  s.put bucket key tag (Text.bytes value.canonical.toText)

end Store

end WikiMarkup
