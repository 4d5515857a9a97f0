import GladeGo.Go.WindowCode
import GladeGo.Text.Timestamp

/-! # Go source files

A generated file: comments that say where it comes from, the package and import clauses, and the
declarations of the windows, with an empty line between any two sections. -/

namespace GladeGo.Go

/-- Where a generated file comes from. -/
structure Provenance where
  /-- The name of the generating tool. -/
  tool : String
  /-- The name of the document. -/
  source : String
  /-- When it was generated, in seconds since the start of 1970. -/
  time : Int
  deriving Repr, DecidableEq

/-- What a file says apart from its windows. -/
structure FileOptions where
  packageName : String
  /-- The import path of the wx package. -/
  wxImport : String
  deriving Repr, DecidableEq

/-- The package and import path of a file for which nothing else is asked. -/
def FileOptions.standard : FileOptions := ⟨"main", "github.com/dontpanic92/wxGo/wx"⟩

/-- The first section of a file. -/
def headerLines (options : FileOptions) (provenance : Provenance) : List String :=
  ["// Code generated by " ++ provenance.tool ++ ". DO NOT EDIT.",
    "// Generated at " ++ Text.showTimestamp provenance.time ++ " UTC",
    "// from " ++ provenance.source,
    "",
    "package " ++ options.packageName,
    "",
    "import (",
    indented (string options.wxImport),
    ")"]

/-- The sections of a file. -/
def fileSections (options : FileOptions) (provenance : Provenance) (plans : List WindowPlan) :
    List (List String) :=
  headerLines options provenance :: plans.flatMap windowSections

/-- The text of a file. -/
def sourceFile (options : FileOptions) (provenance : Provenance) (plans : List WindowPlan) :
    String :=
  let sections := fileSections options provenance plans
  "\n\n".intercalate (sections.map fun lines => "\n".intercalate lines) ++ "\n"

/-- The name of the language that files are written in. -/
def targetName : String := "go"

end GladeGo.Go
