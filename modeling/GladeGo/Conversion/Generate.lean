import GladeGo.Document.Read
import GladeGo.Files.System
import GladeGo.Go.SourceFile
import GladeGo.Widget.WxGo
import GladeGo.Window.Walk

/-! # Generating Go from a document

From the text of a wxGlade document to the text of a Go file, by way of the plans of its windows. -/

namespace GladeGo

/-- Why a document cannot be converted. -/
inductive ConversionFailure where
  | document (fault : DocumentFault)
  | resolution (fault : ResolutionFault)
  | outputExists (path : String)
  | file (fault : FileFault)
  deriving Repr, DecidableEq

/-- The wording of a conversion failure. -/
def ConversionFailure.message : ConversionFailure → String
  | .document fault => "Cannot read document: " ++ fault.message
  | .resolution fault => fault.message
  | .outputExists path => "Output file '" ++ path ++ "' already exists"
  | .file fault => "IO error: " ++ fault.message

/-- What a user may choose about a conversion. -/
structure ConversionOptions extends Go.FileOptions where
  /-- The name of the tool in the header of the file. -/
  tool : String
  deriving Repr, DecidableEq

/-- The options of a conversion for which nothing else is asked. -/
def ConversionOptions.standard : ConversionOptions := ⟨.standard, "wxg-to-go"⟩

/-- The plans of the windows of a document, by the wxGo catalogue. -/
def planWindows (text : String) : Logged ConversionFailure (List WindowPlan) := do
  let document ← liftM ((Document.parse text).mapError ConversionFailure.document)
  (resolveDocument .wxgo document).mapFault .resolution

/-- The Go file for a document. -/
def generate (text sourceName : String) (options : ConversionOptions) (time : Int) :
    Logged ConversionFailure String := do
  let plans ← planWindows text
  pure (Go.sourceFile options.toFileOptions ⟨options.tool, sourceName, time⟩ plans)

end GladeGo
