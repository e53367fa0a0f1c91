import BadgeEntry.Text.Entries
import BadgeEntry.Text.Utf8

/-!
# The working directory

A disk holds files and directories, each under the names that lead to it.  Names
lead on from the working directory; two points at their beginning lead up from it,
and an empty first name stands for the top, where a path with a slash before it
begins.  The directories above the working directory are there, but nothing else
outside it is unless it is listed.

## Main definitions

* `Disk` — the files and directories.
* `Disk.find` — what a path leads to.
* `Disk.readText`, `Disk.write`, `Disk.remove` — what is done with files.
-/

namespace BadgeEntry

/-- Why a path cannot be used. -/
inductive DiskFault where
  /-- There is a directory. -/
  | isDirectory
  /-- There is nothing. -/
  | notFound
  /-- The path goes through a file. -/
  | notDirectory
  /-- The file is not UTF-8. -/
  | notText
  deriving DecidableEq, Repr

/-- The wording of a disk fault. -/
def DiskFault.message : DiskFault → String
  | .isDirectory => "Is a directory (os error 21)"
  | .notFound => "No such file or directory (os error 2)"
  | .notDirectory => "Not a directory (os error 20)"
  | .notText => "stream did not contain valid UTF-8"

/-- A file or a directory. -/
inductive Node where
  /-- A file with its bytes. -/
  | file (bytes : List UInt8)
  /-- A directory. -/
  | directory
  deriving DecidableEq, Repr, Inhabited

/-- What is on the disk, in the order of the paths. -/
structure Disk where
  /-- Paths without double slashes, and without points but those that lead up. -/
  entries : List (String × Node)
  deriving DecidableEq, Repr, Inhabited

namespace Disk

/-- Nothing. -/
def empty : Disk := ⟨[]⟩

/-- The names of a path with slashes between them. -/
def join (names : List String) : String :=
  String.intercalate "/" names

/-- Whether names lead to the working directory or to one above it. -/
def isAbove (names : List String) : Bool :=
  names.all (· == "..")

/-- Whether names lead to the top. -/
def isTop (names : List String) : Bool :=
  names == [""]

/-- What is under some names. -/
def node? (disk : Disk) (names : List String) : Option Node :=
  if isAbove names || isTop names then some .directory
  else Entries.get? (join names) disk.entries

/-- The names that lead one directory up; the top is its own parent. -/
def parent (names : List String) : List String :=
  if isTop names then names
  else if isAbove names then names ++ [".."]
  else names.dropLast

/-- The names that a path leads to from the directory `here`: one point stays where
it is, two lead up, and all but the last name must be directories. -/
def walk (disk : Disk) (here : List String) : List String → Except DiskFault (List String)
  | [] => .ok here
  | name :: rest =>
    if name = "." then walk disk here rest
    else if name = ".." then walk disk (parent here) rest
    else if rest.isEmpty then .ok (here ++ [name])
    else
      match disk.node? (here ++ [name]) with
      | some .directory => walk disk (here ++ [name]) rest
      | some (.file _) => .error .notDirectory
      | none => .error .notFound

/-- The names of a path. -/
def namesOf (path : String) : List String :=
  ((path.toList.splitOn '/').map String.ofList).filter (· ≠ "")

/-- Whether a path can only name a directory. -/
def endsInSlash (path : String) : Bool :=
  path.toList.getLast? == some '/'

/-- The names that a path leads to. -/
def locate (disk : Disk) (path : String) : Except DiskFault (List String) :=
  match path.toList with
  | [] => .error .notFound
  | '/' :: _ => disk.walk [""] (namesOf path)
  | _ => disk.walk [] (namesOf path)

/-- What a path leads to. -/
def find (disk : Disk) (path : String) : Except DiskFault Node := do
  match disk.node? (← disk.locate path) with
  | none => .error .notFound
  | some (.file bytes) => if endsInSlash path then .error .notDirectory else .ok (.file bytes)
  | some .directory => .ok .directory

/-- Whether a path leads to something. -/
def exists? (disk : Disk) (path : String) : Bool :=
  (disk.find path).isOk

/-- The bytes of a file. -/
def read (disk : Disk) (path : String) : Except DiskFault (List UInt8) := do
  match ← disk.find path with
  | .file bytes => .ok bytes
  | .directory => .error .isDirectory

/-- The text of a file. -/
def readText (disk : Disk) (path : String) : Except DiskFault String := do
  match Utf8.decode? (← disk.read path) with
  | some cs => .ok (String.ofList cs)
  | none => .error .notText

/-- The disk with some bytes in a file, which need not have been there. -/
def write (disk : Disk) (path : String) (bytes : List UInt8) : Except DiskFault Disk := do
  let names ← disk.locate path
  match disk.node? names with
  | some .directory => .error .isDirectory
  | some (.file _) =>
    if endsInSlash path then .error .notDirectory
    else .ok ⟨Entries.insert (join names) (.file bytes) disk.entries⟩
  | none =>
    if endsInSlash path then .error .isDirectory
    else .ok ⟨Entries.insert (join names) (.file bytes) disk.entries⟩

/-- The disk without a file, if the path leads to one. -/
def remove (disk : Disk) (path : String) : Option Disk :=
  match disk.find path, disk.locate path with
  | .ok (.file _), .ok names =>
    some ⟨disk.entries.filter fun e => e.1 ≠ join names⟩
  | _, _ => none

/-- What is in the working directory itself. -/
def listing (disk : Disk) : List (String × Node) :=
  disk.entries.filter fun e => !e.1.toList.contains '/'

end Disk

end BadgeEntry
