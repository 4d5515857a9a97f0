import GladeGo.CommandLine.Run
import Std.Time.DateTime.Timestamp

/-! # The command `wxg-to-go`

Answers the requests of a run from the operating system, and shows its records as they are made. -/

namespace GladeGo.CommandLine

/-- The number of an error of the operating system. Some operations report it with a minus sign. -/
def errorNumber (code : UInt32) : Nat := code.toInt32.toInt.natAbs

/-- The file fault that an error of the operating system is. -/
def faultOfError (error : IO.Error) : FileFault :=
  let other := FileFault.other (toString error)
  match error with
  | .noFileOrDirectory .. => .notFound
  | .alreadyExists .. => .alreadyExists
  | .resourceBusy code _ => if errorNumber code = 16 then .busy else other
  | .inappropriateType _ code _ =>
    if errorNumber code = 20 then .notDirectory
    else if errorNumber code = 21 then .isDirectory
    else other
  | .invalidArgument _ code _ => if errorNumber code = 36 then .nameTooLong else other
  | _ => other

/-- The result of an action, with an error as a file fault. -/
def attempt {α : Type} (action : IO α) : IO (Except FileFault α) := do
  try
    return .ok (← action)
  catch error =>
    return .error (faultOfError error)

/-- The kind of what a path leads to. -/
def fileType (path : String) : IO (Option IO.FS.FileType) := do
  match ← attempt (System.mkFilePath [path]).metadata with
  | .ok metadata => return some metadata.type
  | .error _ => return none

/-- The path of a temporary file in a directory, from the top, with random letters in its name. -/
def temporaryPath (directory : String) : IO String := do
  let current := (← IO.currentDir).toString
  let folder :=
    if FilePath.isAbsolute directory then directory else FilePath.inside current directory
  let letters ← FilePath.temporaryName.toList.mapM fun c => do
    if c = 'X' then return Char.ofNat (← IO.rand 'a'.toNat 'z'.toNat) else return c
  return FilePath.inside folder (String.ofList letters)

/-- Writes a temporary file in a directory. Returns its path. -/
def writeTemporary (directory : String) (content : ByteArray) : IO String := do
  let path ← temporaryPath directory
  let handle ← IO.FS.Handle.mk path .writeNew
  handle.write content
  handle.flush
  return path

/-- Moves a file to the end of a path. A file there is replaced only if it may; otherwise the move
is made by a link, which the operating system refuses to make over a file. -/
def moveFile (source path : String) (replace : Bool) : IO Unit := do
  if replace then IO.FS.rename source path
  else
    IO.FS.hardLink source path
    IO.FS.removeFile source

/-- Answers one request. -/
def answer : (request : Request String) → IO request.Answer
  | .isFile path => return (← fileType path) == some .file
  | .isThere path => return (← fileType path).isSome
  | .read path => attempt (IO.FS.readBinFile path)
  | .now => return (← Std.Time.Timestamp.now).toSecondsSinceUnixEpoch.val
  | .createTemporary directory content => attempt (writeTemporary directory content)
  | .persist temporary path replace => attempt (moveFile temporary path replace)
  | .discard temporary => discard (attempt (IO.FS.removeFile temporary))

/-- Runs a program, showing the records that `isShown` selects. -/
def execute {ε α : Type} (isShown : Record → Bool) : Program String ε α → IO (Except ε α)
  | .done value => return .ok value
  | .fail fault => return .error fault
  | .log record rest => do
    if isShown record then IO.eprint record.line
    execute isShown rest
  | .ask request rest => do
    let received ← answer request
    execute isShown (rest received)

/-- The text that explains the command. -/
def helpText : String :=
  "Convert a wxGlade .wxg document into Go source for wxGo\n\n" ++
  "Usage: wxg-to-go [OPTIONS] --in <FILE>\n\n" ++
  "Options:\n" ++
  "      --in <FILE>            wxGlade document to convert\n" ++
  "      --out <FILE>           Go file to write\n" ++
  "  -f, --force                Replace the output file if it already exists\n" ++
  "      --package-name <NAME>  Package clause of the generated file\n" ++
  "      --wx-import <PATH>     Import path of the wxGo wx package\n" ++
  "      --dump-units           Print the resolved windows as JSON instead of writing Go\n" ++
  "  -v, --verbose...           Increase log verbosity (-v info, -vv debug, -vvv trace)\n" ++
  "  -h, --help                 Print help\n" ++
  "  -V, --version              Print version\n"

end GladeGo.CommandLine

open GladeGo GladeGo.CommandLine in
/-- Runs the command with its arguments. The exit code is 0 if it succeeds, 1 if it fails and 2 if
the arguments are not understood. -/
def main (arguments : List String) : IO UInt32 := do
  match readInvocation arguments with
  | .error fault =>
    IO.eprint ("error: " ++ fault.message ++ "\n")
    return 2
  | .ok .help =>
    IO.print helpText
    return 0
  | .ok .version =>
    IO.print "wxg-to-go 0.1.0\n"
    return 0
  | .ok (.run arguments) =>
    let (filter, faults) := logFilter (← IO.getEnv settingName) arguments.verbosity
    for fault in faults do
      IO.eprint fault.line
    let result ← execute filter.shows (runCommand arguments)
    let exit := exitOf [] result
    IO.print exit.standardOutput
    IO.eprint exit.standardError
    return exit.code.toUInt32
