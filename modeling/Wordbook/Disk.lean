import Wordbook.Path

/-!
# An in-memory disk

A directory tree of files and directories, with the failures a Linux file system reports.
Paths are read relative to the working directory, which is also reachable under its absolute
name `here`. Each operation walks the path as the kernel does: every component before the
last must be a directory, a missing one failing with `notFound` and a file with
`notADirectory`. A disk may hold a bounded number of bytes in its files (`capacity`); a write
that does not fit stops part way, as a write on a full file system does.

| operation | what is at the path | failure |
|---|---|---|
| `makeDir` | nothing | `alreadyExists` if anything is there |
| `readFile` | a file | `notFound`, or `isADirectory` for a directory |
| `writeFile` | a file or nothing | `isADirectory` for a directory; `noSpace` after the bytes that fit |
| `rename` | a file moves over a file or nothing | `isADirectory` over a directory |
| `removeFile` | a file | `notFound`, or `isADirectory` for a directory |

`put`, `erase` and `listing` stand outside the editor: they place and remove entries the way
another program would, and list the whole tree.
-/

namespace Wordbook

/-- The failures of file operations, with their Linux error numbers. -/
inductive OsError where
  | notFound
  | alreadyExists
  | notADirectory
  | isADirectory
  | notEmpty
  | other (code : Nat) (description : String)
  | uncategorized (description : String)
  deriving DecidableEq

namespace OsError

/-- The Linux error number. -/
def code : OsError → Nat
  | .notFound => 2
  | .alreadyExists => 17
  | .notADirectory => 20
  | .isADirectory => 21
  | .notEmpty => 39
  | .other c _ => c
  | .uncategorized _ => 0

/-- The system's description of the error. -/
def description : OsError → String
  | .notFound => "No such file or directory"
  | .alreadyExists => "File exists"
  | .notADirectory => "Not a directory"
  | .isADirectory => "Is a directory"
  | .notEmpty => "Directory not empty"
  | .other _ d => d
  | .uncategorized d => d

/-- The error as it is reported: description and number, or the description alone for a
failure that has no number. -/
def message (e : OsError) : String :=
  match e with
  | .uncategorized d => d
  | _ => s!"{e.description} (os error {e.code})"

/-- A write that found the file system full. -/
def noSpace : OsError := .other 28 "No space left on device"

/-- The error of a Linux error number. -/
def ofCode (code : Nat) (description : String) : OsError :=
  match code with
  | 2 => .notFound
  | 17 => .alreadyExists
  | 20 => .notADirectory
  | 21 => .isADirectory
  | 39 => .notEmpty
  | _ => .other code description

end OsError

/-- What a path names. -/
inductive Node where
  | file (bytes : List UInt8)
  | dir
  deriving DecidableEq

/-- The two kinds of entries. -/
inductive Kind where
  | file
  | dir
  deriving DecidableEq

/-- The kind of an entry. -/
def Node.kind : Node → Kind
  | .file _ => .file
  | .dir => .dir

/-- The bytes an entry holds: a file's, none for a directory. -/
def Node.size : Node → Nat
  | .file bs => bs.length
  | .dir => 0

/-- A directory tree: the entries under the working directory, each by its components. The
working directory itself is always there. -/
structure Disk where
  here : String
  entries : List (List String × Node)
  /-- How many bytes the files may hold together; `none` for no bound. -/
  capacity : Option Nat := none

namespace Disk

/-- An empty working directory with the given absolute name, on a disk without bound. -/
def empty (here : String) : Disk := ⟨here, [], none⟩

/-- The components a path names, relative to the working directory. -/
def locate (d : Disk) (p : String) : List String :=
  if p = d.here then []
  else if (d.here ++ "/").isPrefixOf p then
    Path.components (String.ofList (p.toList.drop (d.here.length + 1)))
  else Path.components p

/-- The entry at the given components. -/
def nodeAt (d : Disk) (parts : List String) : Option Node :=
  if parts.isEmpty then some .dir else (d.entries.find? (·.1 == parts)).map (·.2)

/-- Walks to the directory holding the last component: each one before it must be a
directory. -/
def walk (d : Disk) (parts : List String) : Except OsError Unit :=
  let prefixes := (List.range (parts.length - 1)).map fun n => parts.take (n + 1)
  prefixes.forM fun pre =>
    match d.nodeAt pre with
    | some .dir => .ok ()
    | some (.file _) => .error .notADirectory
    | none => .error .notFound

/-- The entries without the one at `parts` and without everything under it. -/
def without (d : Disk) (parts : List String) : Disk :=
  { d with entries := d.entries.filter fun e => !parts.isPrefixOf e.1 }

/-- The entries with `parts` set to the node, replacing what was there. -/
def setNode (d : Disk) (parts : List String) (n : Node) : Disk :=
  { d with entries := (d.entries.filter (·.1 != parts)) ++ [(parts, n)] }

/-- What a path names, following the kernel's walk. -/
def stat (d : Disk) (p : String) : Except OsError Node := do
  let parts := d.locate p
  d.walk parts
  match d.nodeAt parts with
  | some n => .ok n
  | none => .error .notFound

/-- A new directory at a path. A path ending in `.` or `..` names an existing directory and
creates nothing: it exists already, or is missing, or is not a directory. -/
def makeDir (d : Disk) (p : String) : Except OsError Disk := do
  let parts := d.locate p
  if parts.isEmpty then throw .alreadyExists
  d.walk parts
  match d.nodeAt parts, Path.endsInDots p with
  | some .dir, _ => .error .alreadyExists
  | some (.file _), false => .error .alreadyExists
  | some (.file _), true => .error .notADirectory
  | none, false => .ok (d.setNode parts .dir)
  | none, true => .error .notFound

/-- The bytes of the file at a path. -/
def readFile (d : Disk) (p : String) : Except OsError (List UInt8) := do
  let parts := d.locate p
  d.walk parts
  match d.nodeAt parts with
  | some (.file bs) => .ok bs
  | some .dir => .error .isADirectory
  | none => .error .notFound

/-- The bytes all files hold. -/
def usedBytes (d : Disk) : Nat := d.entries.foldr (fun e n => e.2.size + n) 0

/-- How many more bytes fit, on a bounded disk. -/
def room (d : Disk) : Option Nat := d.capacity.map (· - d.usedBytes)

/-- Opening a path to write a file: the components of the file, or of the free name it
creates. -/
def openWrite (d : Disk) (p : String) : Except OsError (List String) := do
  let parts := d.locate p
  d.walk parts
  match d.nodeAt parts with
  | some .dir => .error .isADirectory
  | _ => .ok parts

/-- The file at a path emptied, created if missing, and filled with the given bytes. A write
that does not fit in the room left after emptying stops after the bytes that fit and fails with
`noSpace`; the file stays, holding those. -/
def writeFile (d : Disk) (p : String) (bs : List UInt8) : Except OsError Unit × Disk :=
  match d.openWrite p with
  | .error e => (.error e, d)
  | .ok parts =>
    match (d.setNode parts (.file [])).room with
    | some free =>
      if bs.length ≤ free then (.ok (), d.setNode parts (.file bs))
      else (.error .noSpace, d.setNode parts (.file (bs.take free)))
    | none => (.ok (), d.setNode parts (.file bs))

/-- The entries under `src` moved under `dst`. -/
def moveTree (d : Disk) (src dst : List String) : Disk :=
  let moved := d.entries.filterMap fun e =>
    if src.isPrefixOf e.1 then some (dst ++ e.1.drop src.length, e.2) else none
  let rest := d.entries.filter fun e => !src.isPrefixOf e.1 && !dst.isPrefixOf e.1
  { d with entries := rest ++ moved }

/-- The entry at `src` moved to `dst`: a file replaces a file, a directory replaces an empty
directory, and either may take a free name. -/
def rename (d : Disk) (src dst : String) : Except OsError Disk := do
  let s := d.locate src
  let t := d.locate dst
  d.walk s
  let some node := d.nodeAt s | throw .notFound
  d.walk t
  if s = t then return d
  match node, d.nodeAt t with
  | .file _, some .dir => .error .isADirectory
  | .dir, some (.file _) => .error .notADirectory
  | .dir, some .dir =>
    if d.entries.any (fun e => t.isPrefixOf e.1 && e.1 != t) then .error .notEmpty
    else .ok (d.moveTree s t)
  | _, _ => if s.isPrefixOf t then .error (.other 22 "Invalid argument") else .ok (d.moveTree s t)

/-- The file at a path removed. -/
def removeFile (d : Disk) (p : String) : Except OsError Disk := do
  let parts := d.locate p
  d.walk parts
  match d.nodeAt parts with
  | some (.file _) => .ok (d.without parts)
  | some .dir => .error .isADirectory
  | none => .error .notFound

/-- Every directory above the given components. -/
def ancestors (parts : List String) : List (List String) :=
  (List.range (parts.length - 1)).map fun n => parts.take (n + 1)

/-- A node placed at a path from outside, its directories created and whatever stood in the
way replaced. -/
def put (d : Disk) (p : String) (n : Node) : Disk :=
  let parts := d.locate p
  let withDirs := (ancestors parts).foldl
    (fun acc pre => if acc.nodeAt pre == some .dir then acc else acc.setNode pre .dir) d
  (withDirs.without parts).setNode parts n

/-- The entry at a path removed from outside, a directory with all it holds. -/
def erase (d : Disk) (p : String) : Disk := d.without (d.locate p)

/-- Every entry by its path, `/` between components, sorted by path. -/
def listing (d : Disk) : List (String × Node) :=
  let named := d.entries.map fun e => ("/".intercalate e.1, e.2)
  named.mergeSort fun a b => decide (a.1 ≤ b.1)

end Disk

end Wordbook
