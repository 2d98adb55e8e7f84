-- SUMMARY: Paths as texts: pieces between slashes, joining, and the parent of a path.

/-!
# Paths

A path is a text. Its pieces are what stands between slashes, empty ones included; an absolute path
has an empty first piece. Joining and taking the parent work on the text alone: nothing is
normalised and no file is looked at.
-/

namespace WikiMarkup.Path

/-! ## Pieces -/

/-- Splits a list of characters at every slash. There is always at least one part. -/
def splitChars : List Char → List (List Char)
  | [] => [[]]
  | c :: s =>
    if c = '/' then [] :: splitChars s
    else
      match splitChars s with
      | [] => [[c]]
      | part :: parts => (c :: part) :: parts

/-- What stands between the slashes of a path. -/
def pieces (path : String) : List String :=
  (splitChars path.toList).map String.ofList

/-- Whether a path starts at the root. -/
def isAbsolute (path : String) : Bool :=
  path.toList.head? = some '/'

/-- Whether a path ends with a slash. -/
def endsWithSlash (path : String) : Bool :=
  path.toList.getLast? = some '/'

/-! ## Joining and parents -/

/-- The path `right` seen from `left`. An absolute path stands for itself. Joining nothing leaves a
slash at the end. -/
def join (left right : String) : String :=
  if isAbsolute right then right
  else if left.isEmpty || endsWithSlash left then left ++ right
  else left ++ "/" ++ right

/-- Drops pieces, last one first, that do not name anything: empty ones and single points. The first
piece of the path stays. -/
def dropSilent : List String → List String
  | [] => []
  | [first] => [first]
  | piece :: rest => if piece = "" ∨ piece = "." then dropSilent rest else piece :: rest

/-- The path without its last piece. The root and the empty path have no parent, and the parent of a
single name is the empty path. -/
def parent? (path : String) : Option String :=
  match dropSilent (pieces path).reverse with
  | [] => none
  | [""] => none
  | [_] => some ""
  | _ :: rest =>
    match dropSilent rest with
    | [""] => some "/"
    | rest => some ("/".intercalate rest.reverse)

/-- A path, its parent, the parent of that, and so on, at most `fuel` of them. -/
def ancestorsFrom : Nat → String → List String
  | 0, _ => []
  | fuel + 1, path =>
    match parent? path with
    | none => [path]
    | some parent => path :: ancestorsFrom fuel parent

/-- A path, its parent, the parent of that, and so on to the last. -/
def ancestors (path : String) : List String :=
  ancestorsFrom (path.length + 2) path

end WikiMarkup.Path
