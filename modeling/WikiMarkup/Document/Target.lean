-- SUMMARY: What links and images point to, and the references they are written as.

/-!
# Link and image targets

A link names a wiki document or a URI, with optional query string, anchor and interwiki alias. An
image is an attachment of a document or has a URL. `reference` is the written form of either.
-/

namespace WikiMarkup

/-! ## Links -/

/-- What a link's reference names. -/
inductive LinkKind where
  /-- A wiki document (`Space.Page`). -/
  | document
  /-- A full URI. -/
  | uri
  deriving DecidableEq, Repr

/-- The target of a link. -/
structure Link where
  /-- The document name or the URI. -/
  target : String
  kind : LinkKind
  anchor : Option String
  queryString : Option String
  /-- The alias of the wiki against which the target is resolved. -/
  interwikiAlias : Option String
  deriving DecidableEq, Repr

namespace Link

def document (name : String) : Link := ⟨name, .document, none, none, none⟩

def uri (address : String) : Link := ⟨address, .uri, none, none, none⟩

/-- The same link to a place inside its target. -/
def withAnchor (l : Link) (anchor : String) : Link := { l with anchor := some anchor }

/-- The same link with a query string. -/
def withQueryString (l : Link) (query : String) : Link := { l with queryString := some query }

/-- The same link resolved against another wiki. -/
def withInterwikiAlias (l : Link) (wiki : String) : Link :=
  { l with interwikiAlias := some wiki }

end Link

/-- An optional part of a reference: the mark and the text, or nothing. -/
def referencePart (mark : String) : Option String → String
  | some text => mark ++ text
  | none => ""

/-- The written reference: target, then `?query`, `#anchor` and `@alias` as far as given. -/
def Link.reference (l : Link) : String :=
  l.target ++ referencePart "?" l.queryString ++ referencePart "#" l.anchor
    ++ referencePart "@" l.interwikiAlias

/-! ## Images -/

inductive Image where
  /-- An attachment of a wiki document, the current one if none is named. -/
  | attachment (document : Option String) (name : String)
  | url (address : String)
  deriving DecidableEq, Repr

/-- The written reference: `document@attachment`, the attachment alone, or the URL. -/
def Image.reference : Image → String
  | .attachment (some document) name => document ++ "@" ++ name
  | .attachment none name => name
  | .url address => address

/-- The link that stands for an image: its reference behind `image:`. -/
def Image.toLink (i : Image) : Link := Link.uri ("image:" ++ i.reference)

end WikiMarkup
