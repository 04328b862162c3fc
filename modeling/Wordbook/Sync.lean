import Wordbook.Storage
import Wordbook.Encoding
import Wordbook.Entry.Line
import Wordbook.Entry.Render

/-!
# Dictionary files on storage

Moving a dictionary between storage and memory.

* `Sync.bootstrap` makes sure a dictionary file exists: when nothing is at its path, the
  directories above it are built and an empty file is written.
* `Sync.readLines` bootstraps, reads the bytes, decodes them with the first encoding that
  works (`detect`) and splits the text into lines.
* `Sync.writeEntries` writes a dictionary's text as UTF-8, atomically: into `<file>.tmp` beside
  the file, then renamed over it; a failed rename removes the temporary file again.

Each failure names the path it concerns: the directory or file that could not be created, the
file that could not be read or decoded, the file that could not be saved.
-/

namespace Wordbook

/-- Why a file could not be read. -/
inductive LoadCause where
  | io (e : OsError)
  | undecodable (f : DecodeFailure)

/-- The text of a read failure's cause. -/
def LoadCause.message : LoadCause → String
  | .io e => e.message
  | .undecodable f =>
    s!"no encoding could decode the file (tried {f.triedNames}; last: {f.lastComplaint})"

/-- Failures while moving a dictionary between storage and memory. -/
inductive SyncError where
  | create (path : String) (cause : OsError)
  | load (path : String) (cause : LoadCause)
  | save (path : String) (cause : OsError)

namespace SyncError

/-- The text of a failure. -/
def message : SyncError → String
  | .create path e => s!"could not create {path}: {e.message}"
  | .load path cause => s!"could not load {path}: {cause.message}"
  | .save path e => s!"could not save {path}: {e.message}"

/-- The kind of a failure, as the protocol names it. -/
def kind : SyncError → String
  | .create .. => "create_failure"
  | .load .. => "load_failure"
  | .save .. => "save_failure"

end SyncError

/-- The lines of a read file and the encoding that read it. -/
structure Loaded where
  lines : List String
  encoding : TextEncoding

namespace Sync

variable {m : Type → Type} [Monad m] [Storage m]

/-- Builds a directory and those above it; a failure names the directory. -/
def ensureDir (dir : String) : m (Except SyncError Unit) := do
  match ← Storage.createDirAll dir with
  | .ok () => return .ok ()
  | .error e => return .error (.create dir e)

/-- Writes an empty file at the path when nothing is there, building its directory first.
Answers whether it wrote one. -/
def bootstrap (path : String) : m (Except SyncError Bool) := do
  if ← Storage.isPresent path then return .ok false
  let made ← match Path.parent? path with
    | some dir => ensureDir dir
    | none => pure (.ok ())
  match made with
  | .error e => return .error e
  | .ok () =>
    match ← Storage.writeBytes path [] with
    | .ok () => return .ok true
    | .error e => return .error (.create path e)

/-- Bootstraps the file, reads it, decodes it and splits it into lines. -/
def readLines (path : String) : m (Except SyncError Loaded) := do
  match ← bootstrap path with
  | .error e => return .error e
  | .ok _ =>
    match ← Storage.readBytes path with
    | .error e => return .error (.load path (.io e))
    | .ok bytes =>
      match detect bytes with
      | .error f => return .error (.load path (.undecodable f))
      | .ok decoded => return .ok ⟨fileLines decoded.text, decoded.encoding⟩

/-- The temporary file a save writes before renaming it over the file. -/
def tmpPath (path : String) : String :=
  Path.withFileName path ((Path.fileName? path).getD "dictionary" ++ ".tmp")

/-- Writes bytes through the temporary file and renames it over the path. -/
def writeAtomic (path : String) (bytes : List UInt8) : m (Except OsError Unit) := do
  let tmp := tmpPath path
  let made ← match Path.parent? tmp with
    | some dir => Storage.createDirAll dir
    | none => pure (.ok ())
  match made with
  | .error e => return .error e
  | .ok () =>
    match ← Storage.writeBytes tmp bytes with
    | .error e => return .error e
    | .ok () =>
      match ← Storage.rename tmp path with
      | .ok () => return .ok ()
      | .error e =>
        let _ ← Storage.removeFile tmp
        return .error e

/-- Writes the entries' text as UTF-8 to the path. -/
def writeEntries (path : String) (es : List Entry) : m (Except SyncError Unit) := do
  match ← writeAtomic path (Encoding.Utf8.encode (Entry.render es)) with
  | .ok () => return .ok ()
  | .error e => return .error (.save path e)

end Sync

end Wordbook
