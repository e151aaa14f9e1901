import RecordSearch.Text.Quoted

/-!
# Paths

A path is a list of names, in which repeated slashes, single dots and a slash at the end do not
count. The name of two dots stands for the directory around.
-/

namespace RecordSearch

/-- A path: the slashes in front, if it starts from the root, and the names. -/
structure Path where
  root : String := ""
  names : List String := []
  deriving DecidableEq, Repr

namespace Path

/-- The slashes at the start of a path: one, or exactly two. -/
def rootOf : List Char → String
  | '/' :: '/' :: '/' :: _ => "/"
  | '/' :: '/' :: _ => "//"
  | '/' :: _ => "/"
  | _ => ""

/-- The path that a text names. -/
def ofText (s : String) : Path :=
  ⟨rootOf s.toList, (s.splitOn "/").filter fun name => name != "" && name != "."⟩

/-- A path as text. -/
def text (p : Path) : String :=
  if p.root = "" ∧ p.names = [] then "." else p.root ++ "/".intercalate p.names

/-- The path without its last name. -/
def parent (p : Path) : Path := { p with names := p.names.dropLast }

/-- The path of a name in the directory that a path leads to. -/
def inside (p : Path) (name : String) : Path := { p with names := p.names ++ [name] }

/-- The name of the directory around. -/
def up : String := ".."

/-- The greatest number of bytes in a path. -/
def maxSize : Nat := 4095

/-- The greatest number of bytes in a name. -/
def maxNameSize : Nat := 255

/-- Whether a path is longer than paths may be. -/
def isTooLong (p : Path) : Bool := decide (maxSize < p.text.utf8ByteSize)

/-- Whether a name is longer than names may be. -/
def isLongName (name : String) : Bool := decide (maxNameSize < name.utf8ByteSize)

end Path

/-- Why something cannot be done with a path. -/
inductive FileFault where
  | missing
  /-- The file may not be opened. -/
  | denied
  | exists
  /-- The path goes on behind a file. -/
  | behindFile
  | isDirectory
  /-- The path or a name in it is longer than it may be. -/
  | tooLong
  deriving DecidableEq, Repr

namespace FileFault

/-- The number by which computers know a fault. -/
def number : FileFault → Nat
  | .missing => 2
  | .denied => 13
  | .exists => 17
  | .behindFile => 20
  | .isDirectory => 21
  | .tooLong => 36

/-- A fault in words. -/
def reason : FileFault → String
  | .missing => "No such file or directory"
  | .denied => "Permission denied"
  | .exists => "File exists"
  | .behindFile => "Not a directory"
  | .isDirectory => "Is a directory"
  | .tooLong => "File name too long"

/-- A fault and the path that it is about, in words. -/
def messageAt (f : FileFault) (p : Path) : String :=
  "[Errno " ++ toString f.number ++ "] " ++ f.reason ++ ": " ++ Text.quoted p.text

end FileFault

end RecordSearch
