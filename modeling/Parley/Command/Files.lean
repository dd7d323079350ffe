import Parley.Scenario.File

/-!
# Folders

The files of one folder as a value, and the reasons why a path below it cannot be read.
-/

namespace Parley.Command

/-- A folder without subfolders: the names of its files and their bytes. -/
structure Folder where
  files : List (String × ByteArray)

namespace Folder

/-- There is no such file. -/
def notFound : String := "No such file or directory (os error 2)"

/-- A path goes on behind a file. -/
def notFolder : String := "Not a directory (os error 20)"

/-- A path leads to a folder. -/
def isFolder : String := "Is a directory (os error 21)"

/-- A name is longer than names of files can be. -/
def nameTooLong : String := "File name too long (os error 36)"

/-- A path holds the character that ends paths. -/
def unexpectedNul : String := "file name contained an unexpected NUL byte"

/-- The folders that every system has at its root. -/
def rootFolders : List String :=
  ["bin", "boot", "dev", "etc", "home", "lib", "media", "mnt", "opt", "proc", "root", "run", "sbin",
   "srv", "sys", "tmp", "usr", "var"]

/-- The device whose text is empty, from the root on. -/
def nullDevice : List String := ["dev", "null"]

/-- Follows the parts of a path outside of the folder. `place` leads there from the root, if that is
known, its last part first. Only the folders at the root and the empty device are known. -/
def walkOutside (place : Option (List String)) : List String → Except String ByteArray
  | [] => .error isFolder
  | part :: rest =>
    if part = "" ∨ part = "." then walkOutside place rest
    else if part = ".." then walkOutside (place.map (·.drop 1)) rest
    else if 255 < part.utf8ByteSize then .error nameTooLong
    else
      match place with
      | some [] => if part ∈ rootFolders then walkOutside (some [part]) rest else .error notFound
      | some above =>
        if (part :: above).reverse ≠ nullDevice then .error notFound
        else if rest.isEmpty then .ok .empty
        else .error notFolder
      | none => .error notFound

/-- Follows the parts of a path from the folder itself. Empty parts and `.` stay where they are, and
`..` leaves the folder. -/
def walk (f : Folder) : List String → Except String ByteArray
  | [] => .error isFolder
  | part :: rest =>
    if part = "" ∨ part = "." then f.walk rest
    else if part = ".." then walkOutside none rest
    else if 255 < part.utf8ByteSize then .error nameTooLong
    else
      match f.files.lookup part with
      | none => .error notFound
      | some bytes => if rest.isEmpty then .ok bytes else .error notFolder

/-- The bytes of the file at a path. A path that starts with a slash does not start from the folder.
A path takes less than 4096 bytes. -/
def read (f : Folder) (path : String) : Except String ByteArray :=
  if path.contains '\x00' then .error unexpectedNul
  else if 4096 ≤ path.utf8ByteSize then .error nameTooLong
  else
    match path.splitOn "/" with
    | [""] => .error notFound
    | "" :: rest => walkOutside (some []) rest
    | parts => f.walk parts

/-- The scenario of the file at a path. -/
def load (f : Folder) (path : String) : Except ScenarioError Scenario :=
  Scenario.ofFile path (f.read path)

end Folder

end Parley.Command
