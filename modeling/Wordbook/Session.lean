import Wordbook.Profile
import Wordbook.Store
import Wordbook.Sync
import Wordbook.Entry.Clean
import Wordbook.Entry.Search

/-!
# Editing sessions

A session edits the dictionary of one language at a time: the base directory, the active
profile and its file's path, the entries in a `Store`, the encoding the file was last read
in, and whether the session was closed.

Every operation answers with its result and the session after it. A refused or failed
operation leaves the session as it was, with one exception: switching the language with
`save` for unsaved edits keeps a successful save even when reading the new language's file
then fails.

* `reload` reads the active file again, dropping unsaved edits.
* `save` cleans the entries (`Entry.cleanCounting`), writes them, and then holds exactly what
  it wrote, clean.
* `setProfile` switches the language: an unknown code is refused, the active one changes
  nothing, unsaved edits are first resolved as `OnUnsaved` says, then the new file is read.
* `close` resolves unsaved edits the same way; refusing to drop them is the answer `false`,
  not a failure.
-/

namespace Wordbook

/-- What to do with unsaved edits before a step that would drop them. -/
inductive OnUnsaved where
  | save
  | discard
  | abort
  deriving DecidableEq

/-- Why a session operation failed. -/
inductive SessionError where
  | sync (e : SyncError)
  | index (e : IndexOutOfRange)
  | unknownProfile (code : String)
  | unsavedChanges

namespace SessionError

/-- The text of a failure. -/
def message : SessionError → String
  | .sync e => e.message
  | .index e => e.message
  | .unknownProfile code => s!"unknown language profile '{code}'"
  | .unsavedChanges => "there are unsaved changes"

/-- The kind of a failure, as the protocol names it. -/
def kind : SessionError → String
  | .sync e => e.kind
  | .index _ => "index_out_of_range"
  | .unknownProfile _ => "unknown_profile"
  | .unsavedChanges => "unsaved_changes"

end SessionError

/-- What a read reports: the file, how many entries it gave, and its encoding. -/
structure LoadReport where
  path : String
  count : Nat
  encoding : TextEncoding

/-- What a save reports: the file, how many entries were written and how many dropped. -/
structure SaveReport where
  path : String
  written : Nat
  dropped : Nat
  deriving DecidableEq

/-- The state of an editing session. -/
structure Session where
  baseDir : String
  profile : Profile
  path : String
  store : Store
  encoding : Option TextEncoding
  closed : Bool

namespace Session

/-- A session on a profile's file in the base directory; nothing is read yet. -/
def start (baseDir : String) (profile : Profile) : Session :=
  ⟨baseDir, profile, Path.join baseDir profile.filename, Store.empty, none, false⟩

/-- Whether there are unsaved edits. -/
def isDirty (s : Session) : Bool := s.store.dirty

/-- The report on the active file as it is held now. -/
def loadReport (s : Session) : LoadReport :=
  ⟨s.path, s.store.len, s.encoding.getD .utf8⟩

variable {m : Type → Type} [Monad m] [Storage m]

/-- Reads the active file again, dropping unsaved edits. -/
def reload (s : Session) : m (Except SessionError LoadReport × Session) := do
  match ← Sync.readLines s.path with
  | .error e => return (.error (.sync e), s)
  | .ok loaded =>
    let s' := { s with store := s.store.load loaded.lines, encoding := some loaded.encoding }
    return (.ok s'.loadReport, s')

/-- Cleans and writes the entries, then holds what was written. -/
def save (s : Session) : m (Except SessionError SaveReport × Session) := do
  let (cleaned, dropped) := Entry.cleanCounting s.store.entries
  match ← Sync.writeEntries s.path cleaned with
  | .error e => return (.error (.sync e), s)
  | .ok () =>
    return (.ok ⟨s.path, cleaned.length, dropped⟩, { s with store := s.store.replaceAll cleaned })

/-- Settles unsaved edits before a step that would drop them. -/
def resolveUnsaved (s : Session) (onUnsaved : OnUnsaved) :
    m (Except SessionError Unit × Session) := do
  if !s.isDirty then return (.ok (), s)
  match onUnsaved with
  | .abort => return (.error .unsavedChanges, s)
  | .discard => return (.ok (), s)
  | .save =>
    let (r, s') ← s.save
    return (r.map fun _ => (), s')

/-- Switches to the language of a code. Answers the report on the new file, or `none` when
the code names the active language. -/
def setProfile (s : Session) (code : String) (onUnsaved : OnUnsaved) :
    m (Except SessionError (Option LoadReport) × Session) := do
  match Profile.find? code with
  | none => return (.error (.unknownProfile code), s)
  | some target =>
    if target = s.profile then return (.ok none, s)
    let (r, s1) ← s.resolveUnsaved onUnsaved
    match r with
    | .error e => return (.error e, s1)
    | .ok () =>
      let path := Path.join s1.baseDir target.filename
      match ← Sync.readLines path with
      | .error e => return (.error (.sync e), s1)
      | .ok loaded =>
        let s2 := { s1 with profile := target, path := path, store := Store.ofLines loaded.lines,
                            encoding := some loaded.encoding }
        return (.ok (some s2.loadReport), s2)

/-- Ends the session once unsaved edits are settled. Answers `false`, changing nothing,
when they are to be kept and are not saved. -/
def close (s : Session) (onUnsaved : OnUnsaved) : m (Except SessionError Bool × Session) := do
  let (r, s1) ← s.resolveUnsaved onUnsaved
  match r with
  | .ok () => return (.ok true, { s1 with closed := true })
  | .error .unsavedChanges => return (.ok false, s1)
  | .error e => return (.error e, s1)

/-- The entries a query selects, with their positions. -/
def visible (s : Session) (query : String) : List (Nat × Entry) :=
  (Entry.search s.store.entries query).filterMap fun i => (s.store.entries[i]?).map (i, ·)

/-- Appends an entry; an entry with both fields empty is the blank one. -/
def add (s : Session) (e : Entry) : Nat × Session :=
  let (store, i) := if e.key.isEmpty && e.value.isEmpty then s.store.addBlank else s.store.add e
  (i, { s with store := store })

/-- Removes the entry at a position. -/
def remove (s : Session) (i : Nat) : Except SessionError Entry × Session :=
  match s.store.removeAt i with
  | .ok (e, store) => (.ok e, { s with store := store })
  | .error err => (.error (.index err), s)

/-- Replaces one field of the entry at a position. -/
def edit (s : Session) (i : Nat) (f : Entry.Field) (text : String) :
    Except SessionError Entry × Session :=
  match s.store.edit i f text with
  | .ok (e, store) => (.ok e, { s with store := store })
  | .error err => (.error (.index err), s)

end Session

end Wordbook
