import RecordSearch.Command.Path

/-!
# Files and directories

What a run knows of the files around it. A `Place` is where a path leads to: names from the folder
in which the run starts, or from a directory above it, or from the root. A `Disk` says what is in
some places; nothing is in the others. Directories can be made, and text can be added to files.
-/

namespace RecordSearch

/-- The directories that a run finds without a name. -/
inductive Base where
  /-- So many levels above the folder in which the run starts. -/
  | above (levels : Nat)
  | root
  deriving DecidableEq, Repr

/-- Where a path leads to: the names from some directory on, none of which is that of the directory
around. -/
structure Place where
  base : Base := .above 0
  names : List String := []
  deriving DecidableEq, Repr

namespace Place

/-- The directory around a place. -/
def around (p : Place) : Place :=
  match p.names, p.base with
  | _ :: _, _ => { p with names := p.names.dropLast }
  | [], .above levels => { p with base := .above (levels + 1) }
  | [], .root => p

/-- The place that a name leads to from a directory. -/
def enter (p : Place) (name : String) : Place :=
  if name = Path.up then p.around else { p with names := p.names ++ [name] }

end Place

/-- Where a path starts. -/
def Path.start (p : Path) : Place := { base := if p.root = "" then .above 0 else .root }

/-- What is in a place. -/
inductive Entry where
  | file (bytes : List UInt8)
  | directory
  /-- A file that may not be opened. -/
  | locked
  /-- A file that takes everything and stays empty. -/
  | sink
  /-- The standard output. -/
  | output
  deriving DecidableEq, Repr

/-- What is in some places. Of two entries for one place the first counts. -/
structure Disk where
  entries : List (Place × Entry) := []

namespace Disk

/-- What is in a place. -/
def at? (d : Disk) (p : Place) : Option Entry :=
  if p.names = [] then some .directory
  else (d.entries.find? fun e => e.1 = p).map (·.2)

/-- The disk with an entry for a place. -/
def put (d : Disk) (p : Place) (e : Entry) : Disk := ⟨(p, e) :: d.entries⟩

/-- What a computer has in its root: some directories, a file for what nobody is to read, and the
standard output. -/
def usualEntries : List (Place × Entry) :=
  (["bin", "dev", "etc", "home", "lib", "opt", "proc", "root", "run", "sbin", "sys", "tmp", "usr",
    "var"].map fun name => ({ base := .root, names := [name] }, .directory)) ++
    [({ base := .root, names := ["dev", "null"] }, .sink),
      ({ base := .root, names := ["dev", "stdout"] }, .output)]

/-- The disk with the files of the folder in which a run starts, each under its names, with the
directories around them, and with what a computer has in its root. -/
def ofFiles (files : List (List String × List UInt8)) : Disk where
  entries := (files.flatMap fun f =>
    ({ names := f.1 }, .file f.2) ::
      (List.range f.1.length).map fun k => ({ names := f.1.take k }, .directory)) ++ usualEntries

/-- The place that names lead to from another one, if there is anything in it. -/
def walk (d : Disk) (here : Place) : List String → Except FileFault Place
  | [] => .ok here
  | name :: rest =>
    if d.at? here ≠ some .directory then .error .behindFile
    else if Path.isLongName name then .error .tooLong
    else
      match d.at? (here.enter name) with
      | none => .error .missing
      | some _ => d.walk (here.enter name) rest

/-- The place that a path leads to, if there is anything in it. -/
def find (d : Disk) (p : Path) : Except FileFault Place :=
  if p.isTooLong then .error .tooLong else d.walk p.start p.names

/-- What a path leads to, if anything. -/
def entry? (d : Disk) (p : Path) : Option Entry :=
  match d.find p with
  | .ok place => d.at? place
  | .error _ => none

/-- The bytes of the file that a path leads to. -/
def read (d : Disk) (p : Path) : Except FileFault (List UInt8) :=
  match d.find p with
  | .error fault => .error fault
  | .ok place =>
    match d.at? place with
    | some (.file bytes) => .ok bytes
    | some .sink => .ok []
    | some .output => .ok []
    | some .directory => .error .isDirectory
    | some .locked => .error .denied
    | none => .error .missing

/-- The place of the last name of a path, whether or not there is anything in it. The path has to
lead to a directory up to there; a path without such a name leads to a directory itself. -/
def findNew (d : Disk) (p : Path) : Except FileFault Place :=
  if p.isTooLong then .error .tooLong
  else
    match p.names.getLast? with
    | none => .ok p.start
    | some name =>
      match d.walk p.start p.names.dropLast with
      | .error fault => .error fault
      | .ok here =>
        if d.at? here ≠ some .directory then .error .behindFile
        else if Path.isLongName name then .error .tooLong
        else .ok (here.enter name)

/-- Makes a directory. -/
def makeDirectory (d : Disk) (p : Path) : Except FileFault Disk :=
  match d.findNew p with
  | .error fault => .error fault
  | .ok place => if (d.at? place).isSome then .error .exists else .ok (d.put place .directory)

/-- Makes a directory and those around it, as far as they are missing. If that fails, those made on
the way remain, and the fault is told with its path. -/
def makeDirectories (d : Disk) (p : Path) : Disk × Option (FileFault × Path) :=
  let check (d : Disk) (fault : FileFault) :=
    if d.entry? p = some .directory then (d, none) else (d, some (fault, p))
  match d.makeDirectory p with
  | .ok d => (d, none)
  | .error .missing =>
    if p.names = [] then (d, some (.missing, p))
    else
      match d.makeDirectories p.parent with
      | (d, some fault) => (d, some fault)
      | (d, none) =>
        match d.makeDirectory p with
        | .ok d => (d, none)
        | .error fault => check d fault
  | .error fault => check d fault
termination_by p.names.length
decreasing_by
  simp only [Path.parent, List.length_dropLast]
  have := List.length_pos_iff.mpr ‹¬p.names = []›
  omega

/-- Opens a file to add to it, and makes it if it is missing: its place, and the disk. -/
def openToAdd (d : Disk) (p : Path) : Except FileFault (Place × Disk) :=
  match d.findNew p with
  | .error fault => .error fault
  | .ok place =>
    match d.at? place with
    | none => .ok (place, d.put place (.file []))
    | some (.file _) => .ok (place, d)
    | some .sink => .ok (place, d)
    | some .output => .ok (place, d)
    | some .directory => .error .isDirectory
    | some .locked => .error .denied

/-- The disk with bytes added to the file in a place. -/
def add (d : Disk) (p : Place) (bytes : List UInt8) : Disk :=
  match d.at? p with
  | some (.file old) => d.put p (.file (old ++ bytes))
  | _ => d

end Disk

end RecordSearch
