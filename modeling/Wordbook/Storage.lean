import Wordbook.Disk

/-!
# Storage

The file operations the editor needs, over any monad: look at what a path names, make one
directory, read, write, rename and remove a file. `Storage DiskM` runs them on an in-memory
`Disk`: a write goes as far as the disk has room (`Disk.writeFile`), every other change happens
whole or not at all (`DiskM.change`). A program that runs on a real file system provides its own
instance.

`Storage.createDirAll` builds a directory with all the directories above it. It makes the
directory; when that fails because a directory above is missing, it builds the parent first
and tries again; any other failure is no failure if a directory stands there after all.
-/

namespace Wordbook

/-- The file operations the editor uses. -/
class Storage (m : Type → Type) where
  /-- What a path names; `none` when nothing can be found there. -/
  kindAt : String → m (Option Kind)
  /-- Makes one directory. -/
  makeDir : String → m (Except OsError Unit)
  /-- The bytes of a file. -/
  readBytes : String → m (Except OsError (List UInt8))
  /-- Replaces a file's bytes, creating it if missing. -/
  writeBytes : String → List UInt8 → m (Except OsError Unit)
  /-- Moves an entry to another path. -/
  rename : String → String → m (Except OsError Unit)
  /-- Removes a file. -/
  removeFile : String → m (Except OsError Unit)

/-- Computations over an in-memory disk. -/
abbrev DiskM := StateM Disk

/-- Runs a disk change, keeping the disk as it was when the change fails. -/
def DiskM.change (f : Disk → Except OsError Disk) : DiskM (Except OsError Unit) :=
  fun d =>
    match f d with
    | .ok d' => (.ok (), d')
    | .error e => (.error e, d)

instance : Storage DiskM where
  kindAt p := fun d => ((d.stat p).toOption.map Node.kind, d)
  makeDir p := DiskM.change (·.makeDir p)
  readBytes p := fun d => (d.readFile p, d)
  writeBytes p bs := fun d => d.writeFile p bs
  rename src dst := DiskM.change (·.rename src dst)
  removeFile p := DiskM.change (·.removeFile p)

namespace Storage

variable {m : Type → Type} [Monad m] [Storage m]

/-- Whether anything is at a path. -/
def isPresent (p : String) : m Bool := return (← kindAt p).isSome

/-- Whether a directory is at a path. -/
def isDir (p : String) : m Bool := return (← kindAt p) == some .dir

/-- Whether a file is at a path. -/
def isFile (p : String) : m Bool := return (← kindAt p) == some .file

/-- The path and the paths above it, nearest first, down to a path without parent. -/
def lineage (p : String) : List String :=
  let rec up : Nat → String → List String
    | 0, q => [q]
    | fuel + 1, q =>
      match Path.parent? q with
      | some r => q :: up fuel r
      | none => [q]
  up (p.length + 1) p

/-- Builds the directory of the first path of a lineage, the rest being its ancestors. -/
def createDirAllOf : List String → m (Except OsError Unit)
  | [] => return .ok ()
  | p :: above => do
    if p.isEmpty then return .ok ()
    match ← makeDir p with
    | .ok () => return .ok ()
    | .error .notFound =>
      match above with
      | [] => return .error (.uncategorized "failed to create whole tree")
      | _ =>
        match ← createDirAllOf above with
        | .error e => return .error e
        | .ok () =>
          match ← makeDir p with
          | .ok () => return .ok ()
          | .error e => if ← isDir p then return .ok () else return .error e
    | .error e => if ← isDir p then return .ok () else return .error e

/-- Builds a directory and every missing directory above it. -/
def createDirAll (p : String) : m (Except OsError Unit) := createDirAllOf (lineage p)

end Storage

end Wordbook
