import GladeGo.Files.Path
import GladeGo.Keyed

/-! # File systems

A file system holds files and directories, each at a location: the names on the way to it from the
top, which is a directory. A path leads from the working directory, or from the top, to a location
if it goes through directories only. There are no access restrictions and no limits of room: an
operation is refused for the names and paths, or for what stands at their ends. -/

namespace GladeGo

/-- Why a file operation fails. -/
inductive FileFault where
  | notFound
  /-- The file is not encoded in UTF-8. -/
  | invalidText
  | isDirectory
  | notDirectory
  | alreadyExists
  | nameTooLong
  /-- The path has the character U+0000 in it. -/
  | invalidPath
  /-- The directory is in use. -/
  | busy
  /-- Any other cause, in the words of the operating system. -/
  | other (message : String)
  deriving Repr, DecidableEq

/-- The wording of a file fault. -/
def FileFault.message : FileFault → String
  | .notFound => "No such file or directory (os error 2)"
  | .invalidText => "stream did not contain valid UTF-8"
  | .isDirectory => "Is a directory (os error 21)"
  | .notDirectory => "Not a directory (os error 20)"
  | .alreadyExists => "File exists (os error 17)"
  | .nameTooLong => "File name too long (os error 36)"
  | .invalidPath => "file name contained an unexpected NUL byte"
  | .busy => "Device or resource busy (os error 16)"
  | .other message => message

/-- What stands at a location. -/
inductive FileEntry where
  | file (content : ByteArray)
  | directory

/-- Whether an entry is a directory. -/
def FileEntry.isDirectory : FileEntry → Bool
  | .file _ => false
  | .directory => true

/-- The files and directories below the top, all of them open to reading and writing, and the location
of the working directory. -/
structure FileSystem where
  entries : List (List String × FileEntry)
  workingDirectory : List String

namespace FileSystem

/-- The file system that holds nothing but the directories on the way to a working directory. -/
def empty (workingDirectory : List String) : FileSystem :=
  ⟨(List.range workingDirectory.length).map fun n =>
    (workingDirectory.take (n + 1), .directory), workingDirectory⟩

/-- What stands at a location. -/
def entry? (files : FileSystem) (location : List String) : Option FileEntry :=
  match location with
  | [] => some .directory
  | location => files.entries.lookup location

/-- Puts an entry at a location, in place of what stands there. -/
def put (files : FileSystem) (location : List String) (entry : FileEntry) : FileSystem :=
  { files with entries := putBy Prod.fst (location, entry) files.entries }

/-- Takes the entry at a location away. -/
def erase (files : FileSystem) (location : List String) : FileSystem :=
  { files with entries := files.entries.filter fun entry => entry.1 != location }

/-! ### Where paths lead -/

/-- Goes on from a directory along the steps of a path. -/
def locateFrom (files : FileSystem) (location : List String) :
    List String → Except FileFault (List String)
  | [] => .ok location
  | step :: steps =>
    match files.entry? location with
    | none => .error .notFound
    | some (.file _) => .error .notDirectory
    | some .directory =>
      if step = "." then files.locateFrom location steps
      else if step = ".." then files.locateFrom location.dropLast steps
      else if FilePath.maxNameSize < step.utf8ByteSize then .error .nameTooLong
      else files.locateFrom (location ++ [step]) steps

/-- Where the steps of a path begin. -/
def start (files : FileSystem) (path : String) : List String :=
  if FilePath.isAbsolute path then [] else files.workingDirectory

/-- A path as it is written from the top. -/
def fromTop (files : FileSystem) (path : String) : String :=
  if FilePath.isAbsolute path then path
  else FilePath.inside ("/" ++ "/".intercalate files.workingDirectory) path

/-- Refuses a text that is no path of any file. -/
def checkPath (path : String) : Except FileFault Unit :=
  if path.toList.contains '\x00' then .error .invalidPath
  else if path = "" then .error .notFound
  else if FilePath.maxSize < path.utf8ByteSize then .error .nameTooLong
  else .ok ()

/-- The location that a path leads to, whether or not something stands there. A path that ends in a
slash leads to a directory. -/
def locate (files : FileSystem) (path : String) : Except FileFault (List String) := do
  checkPath path
  let last := if FilePath.endsInSlash path then ["."] else []
  files.locateFrom (files.start path) (FilePath.steps path ++ last)

/-- A name in a directory. -/
structure Place where
  directory : List String
  name : String

/-- The location of a place. -/
def Place.location (place : Place) : Except FileFault (List String) :=
  if FilePath.maxNameSize < place.name.utf8ByteSize then .error .nameTooLong
  else .ok (place.directory ++ [place.name])

/-- The place that a path leads to, in a directory that stands; `none` if the last step of the path
is no name, so that it leads to a directory by itself. A slash at the end is not looked at. -/
def place? (files : FileSystem) (path : String) : Except FileFault (Option Place) := do
  checkPath path
  match (FilePath.steps path).getLast? with
  | none => .ok none
  | some last =>
    let directory ←
      files.locateFrom (files.start path) ((FilePath.steps path).dropLast ++ ["."])
    .ok (if last = "." || last = ".." then none else some ⟨directory, last⟩)

/-- What stands at the end of a path. -/
def find (files : FileSystem) (path : String) : Except FileFault FileEntry := do
  match files.entry? (← files.locate path) with
  | none => .error .notFound
  | some entry => .ok entry

/-! ### Operations -/

/-- Whether a path leads to a file. -/
def isFile (files : FileSystem) (path : String) : Bool :=
  match files.find path with
  | .ok entry => !entry.isDirectory
  | .error _ => false

/-- Whether a path leads to a directory. -/
def isDirectory (files : FileSystem) (path : String) : Bool :=
  match files.find path with
  | .ok entry => entry.isDirectory
  | .error _ => false

/-- Whether a path leads to anything. -/
def isThere (files : FileSystem) (path : String) : Bool :=
  match files.find path with
  | .ok _ => true
  | .error _ => false

/-- The content of a file. -/
def read (files : FileSystem) (path : String) : Except FileFault ByteArray := do
  match ← files.find path with
  | .file content => .ok content
  | .directory => .error .isDirectory

/-- A name that nothing in the file system has and that no path leads to, as it is longer than every
name in use and longer than a name in a path may be. -/
def freshName (files : FileSystem) : String :=
  let sizes := files.entries.flatMap fun entry => entry.1.map String.length
  String.ofList ('.' :: List.replicate (sizes.foldl max FilePath.maxNameSize) 't')

/-- Creates a file with a fresh name in a directory. Returns its location. The path from the top to
a temporary file there must not be too long, even if that to the directory is not. -/
def createFresh (files : FileSystem) (directory : String) (content : ByteArray) :
    Except FileFault (List String × FileSystem) := do
  checkPath (FilePath.inside (files.fromTop directory) FilePath.temporaryName)
  let location ← files.locate directory
  match files.entry? location with
  | none => .error .notFound
  | some (.file _) => .error .notDirectory
  | some .directory =>
    let fresh := location ++ [files.freshName]
    .ok (fresh, files.put fresh (.file content))

/-- Moves the file at a location to the end of a path, where it replaces a file only if it may. -/
def move (files : FileSystem) (source : List String) (path : String) (replace : Bool) :
    Except FileFault FileSystem := do
  match ← files.place? path with
  | none => .error (if replace then .busy else .alreadyExists)
  | some place =>
    let target ← place.location
    match files.entry? source, files.entry? target with
    | none, _ => .error .notFound
    | some entry, found =>
      if found.isSome && !replace then .error .alreadyExists
      else if FilePath.endsInSlash path then .error .notDirectory
      else if found.any FileEntry.isDirectory then .error .isDirectory
      else .ok ((files.erase source).put target entry)

/-- Makes a directory. -/
def createDirectory (files : FileSystem) (path : String) : Except FileFault FileSystem := do
  match ← files.place? path with
  | none => .error .alreadyExists
  | some place =>
    let target ← place.location
    match files.entry? target with
    | some _ => .error .alreadyExists
    | none => .ok (files.put target .directory)

/-- Makes the directory with the first path after the ones that have the other paths, each above the
one before it, as far as they are missing. Directories made before a fault stay. -/
def createMissing (files : FileSystem) : List String → Except FileFault Unit × FileSystem
  | [] => (.ok (), files)
  | path :: above =>
    match files.createDirectory path with
    | .ok files => (.ok (), files)
    | .error .notFound =>
      match files.createMissing above with
      | (.error fault, files) => (.error fault, files)
      | (.ok (), files) =>
        match files.createDirectory path with
        | .ok files => (.ok (), files)
        | .error fault => (if files.isDirectory path then .ok () else .error fault, files)
    | .error fault => (if files.isDirectory path then .ok () else .error fault, files)

/-- Makes a directory and the directories above it that are missing. -/
def createDirectories (files : FileSystem) (path : String) :
    Except FileFault Unit × FileSystem :=
  if path = "" then (.ok (), files) else files.createMissing (path :: FilePath.above path)

/-- Writes a file. -/
def write (files : FileSystem) (path : String) (content : ByteArray) :
    Except FileFault FileSystem := do
  match ← files.place? path with
  | none => .error .isDirectory
  | some place =>
    if FilePath.endsInSlash path then .error .isDirectory
    else
      let target ← place.location
      match files.entry? target with
      | some .directory => .error .isDirectory
      | _ => .ok (files.put target (.file content))

/-- Removes a file. -/
def remove (files : FileSystem) (path : String) : Except FileFault FileSystem := do
  match ← files.place? path with
  | none => .error .isDirectory
  | some place =>
    let target ← place.location
    match files.entry? target with
    | none => .error .notFound
    | some .directory => .error .isDirectory
    | some (.file _) =>
      if FilePath.endsInSlash path then .error .notDirectory else .ok (files.erase target)

/-! ### Listings -/

/-- Whether one name comes before another, or is the same, by the code points of its characters. -/
def nameComesFirst : List Char → List Char → Bool
  | [], _ => true
  | _ :: _, [] => false
  | a :: as, b :: bs =>
    if a.toNat < b.toNat then true else if b.toNat < a.toNat then false else nameComesFirst as bs

/-- Whether one location comes before another, or is the same, by its names. -/
def locationComesFirst : List String → List String → Bool
  | [], _ => true
  | _ :: _, [] => false
  | a :: as, b :: bs =>
    if a = b then locationComesFirst as bs else nameComesFirst a.toList b.toList

/-- What stands below the working directory, with its location seen from there. -/
def belowWorkingDirectory (files : FileSystem) : List (List String × FileEntry) :=
  files.entries.filterMap fun (location, entry) =>
    if files.workingDirectory.isPrefixOf location && location != files.workingDirectory then
      some (location.drop files.workingDirectory.length, entry)
    else none

/-- The paths of everything below the working directory: the entries of each directory by name, and
a directory, with a slash at its end, before what is in it. -/
def listing (files : FileSystem) : List String :=
  let sorted := files.belowWorkingDirectory.mergeSort fun a b => locationComesFirst a.1 b.1
  sorted.map fun (location, entry) =>
    "/".intercalate location ++ if entry.isDirectory then "/" else ""

end FileSystem

end GladeGo
