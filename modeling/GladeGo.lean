import GladeGo.Document.Path
import GladeGo.Main
import GladeGo.Window.Dump
import GladeGo.Proofs.Run
import GladeGo.Proofs.Go.StringLiteral
import GladeGo.Proofs.Text.Numeral
import GladeGo.Proofs.Document.Arena
import GladeGo.Proofs.Document.Parse
import GladeGo.Proofs.Document.Preorder
import GladeGo.Proofs.Document.Shape
import GladeGo.Proofs.Document.Tree
import GladeGo.Proofs.Document.Alike
import GladeGo.Proofs.Document.Peer
import GladeGo.Proofs.Document.Writing
import GladeGo.Proofs.Document.Growth
import GladeGo.Proofs.Document.RoundTrip
import GladeGo.Proofs.Document.Nesting
import GladeGo.Proofs.Document.Path
import GladeGo.Proofs.Markup.Tag
import GladeGo.Proofs.Markup.Construct
import GladeGo.Proofs.Widget.Alike
import GladeGo.Proofs.Window.Kids
import GladeGo.Proofs.Window.Placement
import GladeGo.Proofs.Window.LevelOrder
import GladeGo.Proofs.Window.Layout
import GladeGo.Proofs.Window.Parents
import GladeGo.Proofs.Window.References
import GladeGo.Proofs.Window.Fault
import GladeGo.Proofs.Window.Walk
import GladeGo.Proofs.Window.Simulation
import GladeGo.Proofs.Window.Alike
import GladeGo.Proofs.Window.Sizer
import GladeGo.Proofs.Window.Excerpt
import GladeGo.Proofs.Window.Removal
import GladeGo.Proofs.Go.Argument
import GladeGo.Proofs.Go.Literal
import GladeGo.Proofs.Go.Colour
import GladeGo.Proofs.Go.Integer
import GladeGo.Proofs.Go.IntegerLiteral
import GladeGo.Proofs.Go.Constant
import GladeGo.Proofs.Go.SourceFile
import GladeGo.Proofs.Files.Operation
import GladeGo.Proofs.Widget.Argument
import GladeGo.Proofs.Widget.Custom
import GladeGo.Proofs.Window.Extension
import GladeGo.Proofs.Conversion.File
import GladeGo.Proofs.Conversion.Plans
import GladeGo.Proofs.Conversion.Declaration
import GladeGo.Proofs.Conversion.Fault
import GladeGo.Proofs.Files.Interleaving
import GladeGo.Proofs.Conversion.Interleaving
import GladeGo.Proofs.CommandLine.Race
import GladeGo.Proofs.Window.Notebook
import GladeGo.Proofs.Window.Carried
import GladeGo.Proofs.Window.Spacer
import GladeGo.Proofs.Window.Variation
import GladeGo.Proofs.Widget.ArgumentNumber
import GladeGo.Proofs.Widget.Registry
import GladeGo.Proofs.Window.Reading
import GladeGo.Proofs.CommandLine.Arguments
import GladeGo.Proofs.CommandLine.Dump
import GladeGo.Proofs.Json.Reader
import GladeGo.Proofs.Window.Dump
import GladeGo.Proofs.Conversion.Provenance
import GladeGo.Proofs.Go.Events
