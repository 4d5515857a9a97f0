/-! # Paths of files

A path is a text with slashes between the names of directories and, at its end, the name of a file.
A slash at its start or end, several slashes in a row and the name `.` do not change which names it
has. -/

namespace GladeGo.FilePath

/-- The size of the longest path, in bytes of UTF-8. -/
def maxSize : Nat := 4095

/-- The size of the longest name in a path, in bytes of UTF-8. -/
def maxNameSize : Nat := 255

/-- The form of the name of a temporary file: letters stand for the `X`. -/
def temporaryName : String := ".tmpXXXXXX"

/-- The pieces of a path between slashes. -/
def pieces (path : String) : List String := (path.toList.splitOn '/').map String.ofList

/-- Whether a path starts at the top of the file system. -/
def isAbsolute (path : String) : Bool := path.toList.head? == some '/'

/-- Whether a path ends in a slash. -/
def endsInSlash (path : String) : Bool := path.toList.getLast? == some '/'

/-- Whether a piece of a path is a name. -/
def isName (piece : String) : Bool := piece != "" && piece != "."

/-- The names in a path. -/
def names (path : String) : List String := (pieces path).filter isName

/-- The steps that lead along a path. The steps `.` and `..` stay and go up. -/
def steps (path : String) : List String := (pieces path).filter (· != "")

/-- The ends of a list of pieces that start with a name, the longest first. -/
def endsAtNames : List String → List (List String)
  | [] => []
  | piece :: pieces =>
    if isName piece then (piece :: pieces) :: endsAtNames pieces else endsAtNames pieces

/-- The paths of the directories above a path that it names, the nearest first. They are written as
the path begins: nothing is left out of them but what follows their last name. -/
def above (path : String) : List String :=
  (endsAtNames (pieces path).reverse).tail.map fun pieces => "/".intercalate pieces.reverse

/-- The path of the directory that holds the file with this path. -/
def directory (path : String) : String :=
  (above path).headD (if isAbsolute path then "/" else ".")

/-- The path of what has a name in a directory. -/
def inside (directory name : String) : String :=
  if endsInSlash directory then directory ++ name else directory ++ "/" ++ name

/-- The name of the file with this path, or the path itself if it ends in no name. -/
def fileName (path : String) : String :=
  match (names path).getLast? with
  | none => path
  | some name => if name = ".." then path else name

end GladeGo.FilePath
