import GladeGo.Conversion.Generate
import GladeGo.Files.Program

/-! # Converting files

Converts a document in one file to a Go file. The Go file is complete before anything is written,
and is written through a temporary file beside it, so that a conversion that fails leaves nothing
behind. -/

namespace GladeGo

variable {τ : Type}

/-- Reads a text from a file. -/
def readText (path : String) : Program τ ConversionFailure String := do
  match ← Program.request (.read path) with
  | .error fault => .fail (.file fault)
  | .ok content =>
    match String.fromUTF8? content with
    | some text => .done text
    | none => .fail (.file .invalidText)

/-- Writes a text to a file, through a temporary file in the same directory. An existing file is
replaced only if it may. -/
def writeText (path text : String) (replace : Bool) : Program τ ConversionFailure Unit := do
  match ← Program.request (.createTemporary (FilePath.directory path) text.toUTF8) with
  | .error fault => .fail (.file fault)
  | .ok temporary =>
    match ← Program.request (.persist temporary path replace) with
    | .ok () => .done ()
    | .error fault =>
      Program.request (.discard temporary)
      .fail (if fault = .alreadyExists then .outputExists path else .file fault)

/-- Converts the document in the file `input` to the Go file `output`. An existing output is
replaced only if it may. -/
def convertFile (input output : String) (options : ConversionOptions) (replace : Bool) :
    Program τ ConversionFailure Unit := do
  let text ← readText input
  let time ← Program.request .now
  let code ← Program.ofLogged (generate text (FilePath.fileName input) options time)
  writeText output code replace
  Program.record .info .conversion
    ("wrote " ++ output ++ " (" ++ Text.showNat code.utf8ByteSize ++ " bytes)")

end GladeGo
