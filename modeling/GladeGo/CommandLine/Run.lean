import GladeGo.CommandLine.Arguments
import GladeGo.Conversion.File
import GladeGo.Log.Filter
import GladeGo.Window.Dump

/-! # Running the command

A run checks the input, and either shows the plans of the document's windows or writes a Go file. It
ends with an exit code, a text for standard output, and log lines and faults for standard error. -/

namespace GladeGo.CommandLine

variable {τ : Type}

/-- Why a run fails. -/
inductive CommandFault where
  | inputNotFound (path : String)
  | outputExists (path : String)
  | conversion (failure : ConversionFailure)
  deriving Repr, DecidableEq

/-- The wording of a command fault. -/
def CommandFault.message : CommandFault → String
  | .inputNotFound path => "Input file '" ++ path ++ "' not found"
  | .outputExists path =>
    "Output file '" ++ path ++ "' already exists; pass --force to replace it"
  | .conversion failure => failure.message

/-- The fault of a conversion that fails. That the output exists is the same fault whether it is
found before the conversion or when the output is written. -/
def CommandFault.ofFailure : ConversionFailure → CommandFault
  | .outputExists path => .outputExists path
  | failure => .conversion failure

/-- The options of a conversion with the given arguments. -/
def Arguments.options (arguments : Arguments) : ConversionOptions :=
  ⟨⟨arguments.packageName, arguments.wxImport⟩, ConversionOptions.standard.tool⟩

/-- Shows the plans of a document's windows. -/
def showPlans (input : String) : Program τ CommandFault String :=
  Program.mapFault .ofFailure do
    let text ← readText input
    let plans ← Program.ofLogged (planWindows text)
    .done (dumpPlans plans ++ "\n")

/-- Writes the Go file for a document. -/
def writeFile (arguments : Arguments) (output : String) : Program τ CommandFault Unit := do
  let isThere ← Program.request (.isThere output)
  if isThere && !arguments.force then .fail (.outputExists output)
  else
    Program.record .info .command ("converting " ++ arguments.input ++ " -> " ++ output)
    (convertFile arguments.input output arguments.options arguments.force).mapFault .ofFailure

/-- A run with the given arguments. Its value is the text for standard output. -/
def runCommand (arguments : Arguments) : Program τ CommandFault String := do
  Program.record .debug .setup "logging initialized"
  let isFile ← Program.request (.isFile arguments.input)
  if isFile then
    match arguments.task with
    | .dump => showPlans arguments.input
    | .write output => do
      writeFile arguments output
      .done ""
  else .fail (.inputNotFound arguments.input)

/-! ### What a run shows -/

/-- The level of the least important records that are shown. -/
def levelOfVerbosity : Nat → Level
  | 0 => .warn
  | 1 => .info
  | 2 => .debug
  | _ => .trace

/-- The filter of a run's log, and what is wrong with it. The setting of the environment, if there
is one, replaces what the arguments ask for. -/
def logFilter (setting : Option String) (verbosity : Nat) : LogFilter × List FilterFault :=
  match setting with
  | some setting => LogFilter.read setting
  | none => (.upTo (levelOfVerbosity verbosity), [])

/-- The line that reports a fault. -/
def faultLine (fault : CommandFault) : String := "wxg-to-go: " ++ fault.message ++ "\n"

/-- How a process ends. -/
structure Exit where
  code : Nat
  standardOutput : String
  standardError : String
  deriving Repr, DecidableEq

/-- How the process of a run ends, from the lines that it logs and its result. -/
def exitOf (lines : List String) (result : Except CommandFault String) : Exit :=
  match result with
  | .ok text => ⟨0, text, String.join lines⟩
  | .error fault => ⟨1, "", String.join lines ++ faultLine fault⟩

/-- Why the process of a run is not started. -/
inductive StartFault where
  /-- A text for the process has the character U+0000, where the operating system ends it. -/
  | zeroCharacter
  | textTooLong
  deriving Repr, DecidableEq

/-- The size of the longest text for a process, in bytes of UTF-8. -/
def maxTextSize : Nat := 131071

/-- The name of the setting in the environment that says what is shown. -/
def settingName : String := "RUST_LOG"

/-- Why a process with the given arguments and setting is not started, if so. -/
def startFault? (setting : Option String) (arguments : List String) : Option StartFault :=
  let texts := (setting.map fun setting => settingName ++ "=" ++ setting).toList ++ arguments
  if texts.any fun text => text.toList.contains '\x00' then some .zeroCharacter
  else if texts.any fun text => maxTextSize < text.utf8ByteSize then some .textTooLong
  else none

/-- Runs the command on a file system. Returns how the process ends, and the file system that it
leaves. -/
def runOn (time : Int) (setting : Option String) (files : FileSystem) (arguments : Arguments) :
    Exit × FileSystem :=
  let outcome := (runCommand arguments).run time files
  let (filter, faults) := logFilter setting arguments.verbosity
  let lines := faults.map FilterFault.line ++ (outcome.records.filter filter.shows).map Record.line
  (exitOf lines outcome.result, outcome.files)

end GladeGo.CommandLine
