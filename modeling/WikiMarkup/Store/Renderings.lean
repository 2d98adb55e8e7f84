-- SUMMARY: The cache of renderings: requests and their keys, stored renderings with extension states, lookup and storing.
import WikiMarkup.Store.Entries
import WikiMarkup.Json.Span
import WikiMarkup.Digest.Sha256
import WikiMarkup.Document.Parameters
import WikiMarkup.Pattern.Basic

/-!
# Renderings

A rendering is stored under a key made of everything that selects it: document, action, locale and
parameters. Its tag is the digest of the source, so that another source is a miss. The states of
extensions are stored beside the text, and a hit gives them back by name.
-/

namespace WikiMarkup

/-! ## Requests -/

/-- What is rendered and for whom. -/
structure RenderRequest where
  document : String
  /-- The action, or none for the default one. -/
  action : Option String
  locale : String
  parameters : Parameters
  deriving DecidableEq

namespace RenderRequest

/-- The action of requests that name none. -/
def defaultAction : String := "view"

/-- The parameter that asks for a fresh rendering. It is no part of the key. -/
def refreshParameter : String := "refresh"

/-- The action, the default one if none is named. -/
def effectiveAction (r : RenderRequest) : String := r.action.getD defaultAction

/-- Whether stored renderings are to be passed over. -/
def isRefresh (r : RenderRequest) : Bool :=
  r.parameters.get? refreshParameter = some "1"

/-- The parameters that select the rendering, sorted by name. -/
def selecting (r : RenderRequest) : List (String × String) :=
  Json.sortByName (r.parameters.erase refreshParameter).entries

/-- A part of the key: its bytes and a zero byte. -/
def keyPart (text : String) : List UInt8 := Text.bytes text ++ [0]

/-- The bytes whose digest is the key. -/
def keyBytes (r : RenderRequest) : List UInt8 :=
  keyPart r.document ++ keyPart r.effectiveAction ++ keyPart r.locale
    ++ r.selecting.flatMap fun (name, value) => keyPart (name ++ "=" ++ value)

def key (r : RenderRequest) : String := Sha256.hexDigest r.keyBytes

end RenderRequest

/-- The tag of renderings of a source. -/
def sourceTag (source : String) : String := Sha256.hexDigest (Text.bytes source)

/-! ## Stored renderings -/

/-- A rendered text with the states of extensions, sorted by name. -/
structure StoredRendering where
  rendered : String
  extensions : List (String × Json)

namespace StoredRendering

/-- The rendering with the states of a list of extensions. Of a repeated name the last counts. -/
def ofStates (rendered : String) (states : List (String × Json)) : StoredRendering :=
  ⟨rendered, Json.sortByName (Json.canonicalMembers states)⟩

def toJson (r : StoredRendering) : Json :=
  .object [("rendered", .text r.rendered), ("extensions", .object r.extensions)]

def toBytes (r : StoredRendering) : List UInt8 := Text.bytes r.toJson.toText

/-- How deep a member of the stored object may nest. -/
def memberDepth : Nat := Json.maxDepth - 1

/-- The rendering whose text is in one span and whose states, if any, in another. -/
def ofSpans? (rendered : List Char) (extensions : Option (List Char)) : Option StoredRendering := do
  match ← Json.spanValue? memberDepth rendered with
  | .text text =>
    match extensions with
    | none => some ⟨text, []⟩
    | some span =>
      match ← Json.spanValue? memberDepth span with
      | .object states => some (ofStates text states)
      | _ => none
  | _ => none

/-- The rendering in the members of an object: the text once, the states at most once. Other members
are not looked at. -/
def ofMembers? (members : List (String × List Char)) : Option StoredRendering :=
  match members.filter (·.1 = "rendered"), members.filter (·.1 = "extensions") with
  | [(_, rendered)], [] => ofSpans? rendered none
  | [(_, rendered)], [(_, extensions)] => ofSpans? rendered (some extensions)
  | _, _ => none

/-- The rendering in the items of an array: the text, and the states if there is a second item. -/
def ofItems? : List (List Char) → Option StoredRendering
  | [rendered] => ofSpans? rendered none
  | [rendered, extensions] => ofSpans? rendered (some extensions)
  | _ => none

/-- The rendering that bytes hold. -/
def ofBytes? (bytes : List UInt8) : Option StoredRendering := do
  match ← Json.outline? bytes with
  | .members members =>
    let named ← members.mapM fun (name, value) => (Json.spanName? name).map (·, value)
    ofMembers? named
  | .items items => ofItems? items

/-- Hands out states by name: each extension gets the state stored under its name, and a state is
handed out once. -/
def handOut (states : List (String × Json)) : List String → List (String × Option Json)
  | [] => []
  | name :: names =>
    let state := (states.find? (·.1 = name)).map (·.2)
    (name, state) :: handOut (states.filter (·.1 ≠ name)) names

end StoredRendering

/-! ## The cache -/

/-- A store of renderings, and patterns for the documents whose renderings it holds. -/
structure RenderingCache where
  store : Store
  documents : List Pattern

namespace RenderingCache

variable {m : Type → Type} [Monad m] [Host m]

def bucket : String := "rendering"

/-- Whether renderings of a document are stored: if any pattern matches, or there is none. -/
def isCacheable (c : RenderingCache) (document : String) : Bool :=
  c.documents.isEmpty || c.documents.any (·.isMatch document)

/-- The stored rendering of a source for a request. -/
def find? (c : RenderingCache) (request : RenderRequest) (source : String) :
    m (Option StoredRendering) := do
  if !c.isCacheable request.document || request.isRefresh then return none
  else return (← c.store.get? bucket request.key (sourceTag source)).bind StoredRendering.ofBytes?

/-- The stored text, and for each extension the state that it gets back. On a miss there is no text
and no extension gets a state. -/
def lookup (c : RenderingCache) (request : RenderRequest) (source : String)
    (extensions : List String) : m (Option String × List (String × Option Json)) := do
  match ← c.find? request source with
  | some found => return (some found.rendered, StoredRendering.handOut found.extensions extensions)
  | none => return (none, extensions.map (·, none))

/-- Stores the rendering of a source for a request, with the states of extensions. -/
def insert (c : RenderingCache) (request : RenderRequest) (source rendered : String)
    (states : List (String × Json)) : m Unit :=
  if c.isCacheable request.document then
    c.store.put bucket request.key (sourceTag source)
      (StoredRendering.ofStates rendered states).toBytes
  else return ()

end RenderingCache

end WikiMarkup
