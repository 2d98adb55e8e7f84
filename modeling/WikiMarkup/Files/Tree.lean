-- SUMMARY: A tree of files and directories as a value, and the file operations on it with their errors.
import WikiMarkup.Files.Path
import WikiMarkup.Text.Bytes

/-!
# File trees

A tree is a list of the files and directories below the root, each with its location, the names
that lead to it. A path is followed from a current directory piece by piece: every piece but the
last has to be a directory, and `..` leads back. The operations fail where a file system does.
-/

namespace WikiMarkup

/-! ## Errors -/

/-- Why a file operation fails. -/
inductive FileError where
  | notFound
  | alreadyExists
  | notDirectory
  | isDirectory
  | invalidArgument
  | nameTooLong
  | notEmpty
  /-- The path holds a NUL character. -/
  | invalidName
  /-- The contents are not text. -/
  | notText
  /-- Any other failure, with its message. -/
  | other (message : String)
  deriving DecidableEq, Repr

def FileError.message : FileError → String
  | notFound => "No such file or directory (os error 2)"
  | alreadyExists => "File exists (os error 17)"
  | notDirectory => "Not a directory (os error 20)"
  | isDirectory => "Is a directory (os error 21)"
  | invalidArgument => "Invalid argument (os error 22)"
  | nameTooLong => "File name too long (os error 36)"
  | notEmpty => "Directory not empty (os error 39)"
  | invalidName => "file name contained an unexpected NUL byte"
  | notText => "stream did not contain valid UTF-8"
  | other message => message

/-! ## Trees -/

/-- A file or a directory. -/
inductive Node where
  | file (contents : List UInt8)
  | directory
  deriving DecidableEq, Repr

/-- The names from the root to a node. The root has none. -/
abbrev Location := List String

/-- The nodes below the root. -/
structure Tree where
  nodes : List (Location × Node)
  deriving DecidableEq, Repr

namespace Tree

def empty : Tree := ⟨[]⟩

/-- The node at a location. -/
def get? (t : Tree) (place : Location) : Option Node :=
  if place = [] then some .directory
  else (t.nodes.find? (·.1 = place)).map (·.2)

/-- Puts a node at a location, in place of the one there. -/
def set (t : Tree) (place : Location) (node : Node) : Tree :=
  ⟨(place, node) :: t.nodes.filter (·.1 ≠ place)⟩

/-- Removes what is below a location, but not what is there. -/
def clear (t : Tree) (place : Location) : Tree :=
  ⟨t.nodes.filter fun entry => ¬ (place.isPrefixOf entry.1 ∧ entry.1 ≠ place)⟩

/-- Removes the node at a location. -/
def erase (t : Tree) (place : Location) : Tree :=
  ⟨t.nodes.filter (·.1 ≠ place)⟩

/-! ## Following paths -/

/-- The greatest length of a name in bytes. -/
def maxName : Nat := 255

/-- The length in bytes from which on a path is too long. -/
def maxPath : Nat := 4096

/-- Follows one piece of a path from a location. -/
def step (t : Tree) (here : Location) (piece : String) : Except FileError Location :=
  match t.get? here with
  | none => .error .notFound
  | some (.file _) => .error .notDirectory
  | some .directory =>
    if piece = "" ∨ piece = "." then .ok here
    else if piece = ".." then .ok here.dropLast
    else if maxName < piece.utf8ByteSize then .error .nameTooLong
    else if (t.get? (here ++ [piece])).isSome then .ok (here ++ [piece])
    else .error .notFound

/-- Follows pieces one after the other. -/
def follow (t : Tree) : Location → List String → Except FileError Location
  | here, [] => .ok here
  | here, piece :: rest => do
    let next ← t.step here piece
    t.follow next rest

/-- Refuses paths that name nothing, whatever the tree. -/
def checkPath (path : String) : Except FileError Unit :=
  if path.toList.contains (Char.ofNat 0) then .error .invalidName
  else if path.isEmpty then .error .notFound
  else if maxPath ≤ path.utf8ByteSize then .error .nameTooLong
  else .ok ()

/-- The directory from which a path is followed. -/
def start (directory : Location) (path : String) : Location :=
  if Path.isAbsolute path then [] else directory

/-- The location of what a path names, seen from a directory. -/
def locate (t : Tree) (directory : Location) (path : String) : Except FileError Location := do
  checkPath path
  t.follow (start directory path) (Path.pieces path)

/-- The node that a path names. -/
def find? (t : Tree) (directory : Location) (path : String) : Option Node :=
  match t.locate directory path with
  | .ok place => t.get? place
  | .error _ => none

/-- The directory in which a path places its last piece, and that piece. Every piece but the last
is followed. -/
def locateNew (t : Tree) (directory : Location) (path : String) (pieces : List String) :
    Except FileError (Location × String) := do
  checkPath path
  match pieces.getLast? with
  | none => .error .alreadyExists
  | some name =>
    let place ← t.follow (start directory path) pieces.dropLast
    match t.get? place with
    | some .directory => .ok (place, name)
    | some (.file _) => .error .notDirectory
    | none => .error .notFound

/-! ## Operations -/

/-- The contents of a file. -/
def readFile (t : Tree) (directory : Location) (path : String) : Except FileError (List UInt8) := do
  let place ← t.locate directory path
  match t.get? place with
  | some (.file contents) => .ok contents
  | some .directory => .error .isDirectory
  | none => .error .notFound

/-- The pieces of a path without empty ones at its end. -/
def trimmedPieces (path : String) : List String :=
  ((Path.pieces path).reverse.dropWhile (· = "")).reverse

/-- Writes a file, in place of the one there. Its directory has to exist, and a slash at the end asks
for a directory. -/
def writeFile (t : Tree) (directory : Location) (path : String) (contents : List UInt8) :
    Except FileError Tree := do
  let (place, name) ← t.locateNew directory path (trimmedPieces path)
  if Path.endsWithSlash path ∨ name = "." ∨ name = ".." then .error .isDirectory
  else if maxName < name.utf8ByteSize then .error .nameTooLong
  else
    match t.get? (place ++ [name]) with
    | some .directory => .error .isDirectory
    | _ => .ok (t.set (place ++ [name]) (.file contents))

/-- Makes a directory where there is nothing. Slashes at the end do not count. -/
def makeDirectory (t : Tree) (directory : Location) (path : String) : Except FileError Tree := do
  let (place, name) ← t.locateNew directory path (trimmedPieces path)
  if name = "." ∨ name = ".." then .error .alreadyExists
  else if maxName < name.utf8ByteSize then .error .nameTooLong
  else if (t.get? (place ++ [name])).isSome then .error .alreadyExists
  else .ok (t.set (place ++ [name]) .directory)

/-- Removes a directory with everything in it. What is in it is removed even where the directory
itself cannot be: a path that ends in `.` or `..`, or the root. -/
def removeTree (t : Tree) (directory : Location) (path : String) : Except FileError Unit × Tree :=
  match t.locate directory path with
  | .error e => (.error e, t)
  | .ok place =>
    match t.get? place with
    | some .directory =>
      let cleared := t.clear place
      match (trimmedPieces path).getLast? with
      | none => (.error (.other "Device or resource busy (os error 16)"), cleared)
      | some "." => (.error .invalidArgument, cleared)
      | some ".." => (.error .notEmpty, cleared)
      | some _ => (.ok (), cleared.erase place)
    | some (.file _) => (.error .notDirectory, t)
    | none => (.error .notFound, t)

/-! ## Listing -/

/-- Everything below a location: the path from there, with a slash behind a directory, and the
contents of a file. The list is sorted by path. -/
def listing (t : Tree) (place : Location) : List (String × Option (List UInt8)) :=
  let below := t.nodes.filterMap fun (found, node) =>
    if place.isPrefixOf found ∧ found ≠ place then
      let path := "/".intercalate (found.drop place.length)
      match node with
      | .file contents => some (path, some contents)
      | .directory => some (path ++ "/", none)
    else none
  below.mergeSort fun a b => decide (a.1 ≤ b.1)

end Tree

end WikiMarkup
