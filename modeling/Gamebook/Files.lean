-- Paths and files. A program sees files through two questions, what a file holds and which files
-- a directory has; a disk is a set of files and directories that answers them.
import Gamebook.Error
import Gamebook.Text.Pieces

namespace Gamebook

/-! ## Paths -/

namespace Path

/-- The components of a path. A slash at the end leaves an empty last component. -/
def components (path : String) : List String :=
  (Text.pieces '/' path.toList).map String.ofList

/-- Whether a component leads nowhere: it is empty or one dot. -/
def isIdle (component : String) : Bool := component = "" || component = "."

/-- The components that name something. -/
def steps (path : String) : List String := (components path).filter fun c => !isIdle c

def isAbsolute (path : String) : Bool := path.toList.head? = some '/'

/-- Whether a path can only mean a directory. -/
def endsOpen (path : String) : Bool := path.toList.getLast? = some '/'

def nameLimit : Nat := 255

def limit : Nat := 4095

/-- Whether a path as a whole is longer than the system takes. -/
def isTooLong (path : String) : Bool := limit < path.utf8ByteSize

/-- The name of the file that a path leads to; none for a path that ends going up. -/
def fileName (path : String) : String :=
  match (steps path).getLast? with
  | some ".." => ""
  | some name => name
  | none => ""

/-- The components, as they are written, of the directory that the last step of a path leads from.
What stands after that directory is left out, but a slash or a dot at the start of the path stays.
A path that leads nowhere is taken to be in the directory where it starts. -/
def directory (path : String) : List String :=
  let all := components path
  let start := all.take 1 |>.filter isIdle
  match (all.drop start.length).reverse.dropWhile isIdle with
  | _ :: before => start ++ (before.dropWhile isIdle).reverse
  | [] => if start = ["."] then [] else ["."]

/-- The path of `name` in the directory that the file of a path is in. -/
def sibling (path name : String) : String := String.intercalate "/" (directory path ++ [name])

/-- The path of `name` in the directory of a path. -/
def child (path name : String) : String :=
  if path = "" || endsOpen path then path ++ name else path ++ "/" ++ name

example : fileName "a/b.txt" = "b.txt" ∧ sibling "a/b.txt" "c" = "a/c" := by decide +kernel
example : sibling "b.txt" "c" = "c" ∧ sibling "" "c" = "./c" := by decide +kernel
example : sibling "./b.txt" "c" = "./c" ∧ sibling "a//b/.//d/" "c" = "a//b/c" := by decide +kernel

end Path

/-! ## What a program asks -/

structure Files where
  read : String → Except IoFailure (List UInt8)
  /-- The names and the bytes of the files of a directory, without its directories and without
  the files that cannot be reached from the path of the directory. -/
  list : String → Except IoFailure (List (String × List UInt8))

/-! ## Disks -/

/-- Files and directories below one directory, by the steps that lead to them. The directories
on the way to a file or a directory are there too. A place above that directory is written with a
step up for each directory; nothing but directories is known there. -/
structure Disk where
  files : List (List String × List UInt8) := []
  directories : List (List String) := []

namespace Disk

def hasDirectory (d : Disk) (place : List String) : Bool :=
  place.all (· = "..") || d.directories.any place.isPrefixOf
    || d.files.any fun f => place.isPrefixOf f.1 && f.1 ≠ place

def file? (d : Disk) (place : List String) : Option (List UInt8) :=
  (d.files.find? fun f => f.1 = place).map (·.2)

/-! ### Following paths -/

/-- The place that a component leads to from a place. -/
def next (here : List String) (component : String) : List String :=
  if Path.isIdle component then here
  else if component = ".." && here.any (· ≠ "..") then here.dropLast
  else here ++ [component]

/-- Follows the components of a path from a place. Only a directory can be gone through. -/
def follow (d : Disk) (here : List String) : List String → Except IoFailure (List String)
  | [] => .ok here
  | c :: cs =>
    let there := next here c
    if !d.hasDirectory here then .error .notDirectory
    else if Path.nameLimit < c.utf8ByteSize then .error .nameTooLong
    else if d.hasDirectory there || (d.file? there).isSome then d.follow there cs
    else .error .notFound

/-- The place that a path leads to. The empty path leads nowhere, and a path from the root begins
above the top. -/
def resolve (d : Disk) (path : String) : Except IoFailure (List String) :=
  if path.toList.contains '\x00' then .error .zeroInPath
  else if Path.isTooLong path then .error .nameTooLong
  else if path = "" then .error .notFound
  else d.follow (if Path.isAbsolute path then [".."] else []) (Path.components path)

/-! ### Reading -/

def read (d : Disk) (path : String) : Except IoFailure (List UInt8) := do
  let place ← d.resolve path
  match d.file? place with
  | some bytes => .ok bytes
  | none => .error .isDirectory

def list (d : Disk) (path : String) : Except IoFailure (List (String × List UInt8)) := do
  let place ← d.resolve path
  if d.hasDirectory place then
    .ok (d.files.filterMap fun f =>
      match f.1.getLast? with
      | some name =>
        if f.1.dropLast = place && !Path.isTooLong (Path.child path name) then some (name, f.2)
        else none
      | none => none)
  else .error .notDirectory

def toFiles (d : Disk) : Files := { read := d.read, list := d.list }

/-! ### Writing -/

/-- The places that components lead through from a place, with the last of them. -/
def trail (here : List String) : List String → List (List String)
  | [] => []
  | c :: cs => next here c :: trail (next here c) cs

/-- Puts a file on the disk, or a directory where the path ends in a slash. The directories that
the path leads through are made, also those that it leaves again. -/
def add (d : Disk) (path : String) (bytes : List UInt8) : Disk :=
  let places := trail [] (Path.components path)
  if Path.endsOpen path then { d with directories := d.directories ++ places }
  else
    let place := places.getLast?.getD []
    { files := d.files.filter (fun f => f.1 ≠ place) ++ [(place, bytes)],
      directories := d.directories ++ places.dropLast }

end Disk

end Gamebook
