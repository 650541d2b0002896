/-!
# Files in a working directory

What a path leads to, seen from a directory with some files in it. A path is walked name by name,
and the first name that cannot be passed decides what is wrong with it. Of what lies outside the
directory only the outline is known that every system has: the root, the directories in it, and the
device that is always empty.

## 1. Failures

## 2. Paths

## 3. Reading and creating
-/

namespace Debugger

/-! ## 1. Failures -/

/-- Why a file cannot be opened or read. -/
inductive FileError
  | notFound
  | isDirectory
  | notDirectory
  | nameTooLong
  /-- A name is given to the system as a text that ends with a zero, so it holds none. -/
  | zeroInName
  | notUtf8
  | other (reason : String)
  deriving DecidableEq, Repr

/-- The system's words for a failure. -/
def FileError.reason : FileError → String
  | notFound => "No such file or directory (os error 2)"
  | isDirectory => "Is a directory (os error 21)"
  | notDirectory => "Not a directory (os error 20)"
  | nameTooLong => "File name too long (os error 36)"
  | zeroInName => "file name contained an unexpected NUL byte"
  | notUtf8 => "stream did not contain valid UTF-8"
  | other reason => reason

/-! ## 2. Paths -/

/-- A directory with files and no directories in it. -/
structure Directory where
  files : List (String × ByteArray)

/-- Where a path leads. -/
inductive Place
  /-- To the directory itself. -/
  | here
  /-- To a directory above it. -/
  | above
  | root
  /-- To a directory in the root. -/
  | top (name : String)
  | file (contents : ByteArray)
  /-- To a name in the directory that nothing has. -/
  | vacant (name : String)

/-- The directories in the root of every system. -/
def topDirectories : List String :=
  ["bin", "boot", "dev", "etc", "home", "lib", "media", "mnt", "opt", "proc", "root", "run", "sbin",
    "srv", "sys", "tmp", "usr", "var"]

namespace Directory

/-- The names on a path, empty ones where slashes meet. -/
def names (path : String) : List String :=
  (path.toList.foldr (fun c ps =>
    match ps with
    | p :: rest => if c = '/' then [] :: p :: rest else (c :: p) :: rest
    | [] => [[c]]) [[]]).map String.ofList

/-- The directory that two dots lead to. -/
def parent : Place → Place
  | .here | .above => .above
  | _ => .root

/-- What has a name in a place. -/
def child (d : Directory) (place : Place) (name : String) : Except FileError Place :=
  match place with
  | .here =>
    .ok <| match d.files.lookup name with
      | some contents => .file contents
      | none => .vacant name
  | .root => if name ∈ topDirectories then .ok (.top name) else .error .notFound
  | .top "dev" => if name = "null" then .ok (.file .empty) else .error .notFound
  | _ => .error .notFound

/-- One name further. An empty name is met at a slash, and like a dot leads nowhere but needs a
directory to stand in. -/
def enter (d : Directory) (place : Place) (name : String) : Except FileError Place :=
  match place with
  | .vacant _ => .error .notFound
  | .file _ => .error .notDirectory
  | place =>
    if name = "" || name = "." then .ok place
    else if name = ".." then .ok (parent place)
    else if 255 < name.utf8ByteSize then .error .nameTooLong
    else d.child place name

/-- Where a path leads. An empty path leads nowhere, and a leading slash to the root. -/
def locate (d : Directory) (path : String) : Except FileError Place :=
  if path.contains '\x00' then .error .zeroInName
  else if 4095 < path.utf8ByteSize then .error .nameTooLong
  else if path.isEmpty then .error .notFound
  else (names path).foldlM d.enter (if path.startsWith "/" then .root else .here)

/-! ## 3. Reading and creating -/

/-- The contents of a file. -/
def read (d : Directory) (path : String) : Except FileError ByteArray := do
  match ← d.locate path with
  | .file contents => return contents
  | .vacant _ => throw .notFound
  | _ => throw .isDirectory

/-- The name of the file that comes into being when a path is opened for writing, if one does. -/
def created? (d : Directory) (path : String) : Option String :=
  match d.locate path with
  | .ok (.vacant name) => some name
  | _ => none

end Directory

end Debugger
