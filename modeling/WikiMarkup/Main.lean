-- SUMMARY: The program on a real host: files, variables and standard input, and the report written out.
import WikiMarkup.Command.Run

/-!
# The program

`main` runs `WikiMarkup.run` on the host at hand and writes its report. Here are the only effects of
the library.
-/

namespace WikiMarkup

/-! ## The host at hand -/

/-- The number of an error. Some operations of the host give it negated. -/
def errorNumber (code : UInt32) : Nat := min code.toNat (0 - code).toNat

/-- The file error for an error of the host. -/
def FileError.ofHost (e : IO.Error) : FileError :=
  match e with
  | .noFileOrDirectory _ _ _ => .notFound
  | .alreadyExists _ code _ => if errorNumber code = 39 then .notEmpty else .alreadyExists
  | .inappropriateType _ code _ =>
    if errorNumber code = 20 then .notDirectory
    else if errorNumber code = 21 then .isDirectory
    else .other (toString e)
  | .invalidArgument _ code _ =>
    if errorNumber code = 36 then .nameTooLong
    else if errorNumber code = 22 then .invalidArgument
    else .other (toString e)
  | e => .other (toString e)

/-- An action of the host with its errors as file errors. -/
def guarded {α : Type} (action : IO α) : ExceptT FileError IO α :=
  ExceptT.mk do
    try
      return .ok (← action)
    catch e =>
      return .error (.ofHost e)

/-- Everything that is left on a stream. -/
partial def readAll (stream : IO.FS.Stream) (before : ByteArray) : IO ByteArray := do
  let chunk ← stream.read 65536
  if chunk.isEmpty then return before else readAll stream (before ++ chunk)

/-- What a path leads to. -/
def kindOnHost? (path : String) : IO (Option NodeKind) := do
  try
    let info ← (← IO.FS.realPath path).metadata
    return some (if info.type == .dir then .directory else .file)
  catch _ => return none

instance : Host IO where
  readFile path := guarded do return (← IO.FS.readBinFile path).data.toList
  writeFile path contents := guarded (IO.FS.writeBinFile path ⟨contents.toArray⟩)
  makeDirectory path := guarded (IO.FS.createDir path)
  removeTree path := guarded (IO.FS.removeDirAll path)
  kind? := kindOnHost?
  currentDirectory := do return (← IO.currentDir).toString
  lookupVariable name := IO.getEnv name
  readInput := guarded do return (← readAll (← IO.getStdin) .empty).data.toList

end WikiMarkup

/-! ## The entry point -/

/-- Runs the program and writes its report: the notes to standard error, the output to standard
output. -/
def main (arguments : List String) : IO UInt32 := do
  let report ← WikiMarkup.run arguments
  for note in report.notes do
    IO.eprintln note
  IO.print report.output
  return report.status.toUInt32
