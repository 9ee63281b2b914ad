/-!
# Files

A store of text files.  A path is a sequence of names, from the root if it starts with a
slash and else from the working directory.  Those two and the ones above them are always there; any
other directory is there if it was named as such or as long as a file lies below it.
`FileSystem.walk` follows a path name by name; `read` and `write` fail with a cause whose text is
the system's.
-/

namespace TrafficDigest

/-! ## Causes -/

/-- Why a file cannot be opened, read or written. -/
inductive FileFault where
  | notFound
  | notADirectory
  | isADirectory
  | nameTooLong
  /-- The path has a character that no name has. -/
  | nulInPath
  deriving DecidableEq, Repr

/-- The text for a cause, with its number where the system has one. -/
def FileFault.message : FileFault → String
  | notFound => "No such file or directory (os error 2)"
  | notADirectory => "Not a directory (os error 20)"
  | isADirectory => "Is a directory (os error 21)"
  | nameTooLong => "File name too long (os error 36)"
  | nulInPath => "file name contained an unexpected NUL byte"

/-! ## The store -/

/-- The names that lead to a file or directory. -/
abbrev Location := List String

/-- The directory that paths start from. -/
def Location.working : Location := []

/-- The directory that absolute paths start from. -/
def Location.root : Location := [""]

/-- The name of the directory above. -/
def Location.parent : String := ".."

/-- The working directory or one above it. -/
def Location.isAbove (location : Location) : Bool := location.all (· == parent)

/-- Text files by location. -/
structure FileSystem where
  files : List (Location × String)
  /-- Directories that are there even without files. -/
  directories : List Location := []
  deriving DecidableEq, Repr

namespace FileSystem

/-- The text of the file at a location. -/
def textAt? (fs : FileSystem) (location : Location) : Option String := fs.files.lookup location

/-- A directory is at this location. -/
def isDirectory (fs : FileSystem) (location : Location) : Bool :=
  location.isAbove || location == .root || fs.directories.any location.isPrefixOf ||
    fs.files.any fun file => location.isPrefixOf file.1 && location != file.1

/-- The names in a path; names are separated by slashes. -/
def names (path : String) : Location :=
  ((path.toList.splitOn '/').map String.ofList).filter (· ≠ "")

/-- The directory that a path starts from. -/
def start (path : String) : Location := if path.startsWith "/" then .root else .working

/-- The location that a path names when nothing is looked up on the way. -/
def location (path : String) : Location := start path ++ (names path).filter (· ≠ ".")

/-- The store of files at the given paths. -/
def ofFiles (files : List (String × String)) : FileSystem :=
  { files := files.map fun (path, text) => (location path, text) }

/-- What a path leads to. -/
inductive Place where
  | file (location : Location) (text : String)
  | directory (location : Location)
  /-- Nothing, in a directory that is there. -/
  | vacant (location : Location)
  deriving DecidableEq, Repr

/-- The longest name of a file or directory, in bytes. -/
def longestName : Nat := 255

/-- The longest path, in bytes. -/
def longestPath : Nat := 4095

/-- The place one name further.  A point stays where it is.  Two points go up, which at the root is
nowhere else. -/
def enter (fs : FileSystem) (place : Place) (name : String) : Except FileFault Place :=
  match place with
  | .file .. => .error .notADirectory
  | .vacant .. => .error .notFound
  | .directory here =>
    if name = "." then .ok place
    else if name = Location.parent then
      if here = .root then .ok place
      else if here.isAbove then .ok (.directory (here ++ [Location.parent]))
      else .ok (.directory here.dropLast)
    else if longestName < name.utf8ByteSize then .error .nameTooLong
    else
      let there := here ++ [name]
      match fs.textAt? there with
      | some text => .ok (.file there text)
      | none => .ok (if fs.isDirectory there then .directory there else .vacant there)

/-- The path ends in a slash, so it asks for a directory. -/
def asksForDirectory (path : String) : Bool := path.endsWith "/"

/-- What names lead to, one after the other, from where the path starts. -/
def walk (fs : FileSystem) (path : String) (names : List String) : Except FileFault Place :=
  if path.contains '\x00' then .error .nulInPath
  else if longestPath < path.utf8ByteSize then .error .nameTooLong
  else if path = "" then .error .notFound
  else names.foldlM fs.enter (.directory (start path))

/-- **The text of the file that a path leads to.** -/
def read (fs : FileSystem) (path : String) : Except FileFault String :=
  match fs.walk path (names path) with
  | .ok (.file _ text) => if asksForDirectory path then .error .notADirectory else .ok text
  | .ok (.directory _) => .error .isADirectory
  | .ok (.vacant _) => .error .notFound
  | .error e => .error e

/-- **The store after a file was written**, over the file that the path leads to or where nothing
was.  A path that asks for a directory is refused before its last name is looked up, once the names
before that lead to a directory. -/
def write (fs : FileSystem) (path text : String) : Except FileFault FileSystem :=
  if asksForDirectory path then
    match fs.walk path ((names path).dropLast ++ ["."]) with
    | .ok _ => .error .isADirectory
    | .error e => .error e
  else match fs.walk path (names path) with
    | .ok (.file here _) =>
      .ok { fs with files := fs.files.map fun file => if file.1 = here then (here, text) else file }
    | .ok (.vacant here) => .ok { fs with files := fs.files ++ [(here, text)] }
    | .ok (.directory _) => .error .isADirectory
    | .error e => .error e

/-- The files of a store that an earlier one did not have with this text. -/
def changedFiles (earlier later : FileSystem) : List (Location × String) :=
  later.files.filter fun file => earlier.textAt? file.1 != some file.2

/-- The files of a store that an earlier one did not have at all. -/
def newFiles (earlier later : FileSystem) : List (Location × String) :=
  later.files.filter fun file => (earlier.textAt? file.1).isNone

end FileSystem

end TrafficDigest
