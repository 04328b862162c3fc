import Wordbook.Protocol.Request
import Wordbook.Protocol.Response
import Wordbook.Json.Read

/-!
# Answering requests

`Protocol.handle` answers one request line against a session and returns the session after
it. The payload checks of a command all come before its first change, so a refused request
changes nothing.

| command | payload | answer |
|---|---|---|
| `ping` | | `message` |
| `profile.list` | | `profiles` with `code`, `label`, `filename`, `active` |
| `profile.set` | `code`, `on_unsaved` | `switched`, `profile`, `path`, `count` |
| `records.list` | `query` | `records` with `index`, `key`, `value`; `total` |
| `records.add` | an entry | `index` |
| `records.remove` | `index` | `removed` with `key`, `value` |
| `records.edit` | `index`, `field`, `value` | `record` with `index`, `key`, `value` |
| `dictionary.save` | | `path`, `written`, `dropped` |
| `dictionary.reload` | | `path`, `count`, `encoding` |
| `session.status` | | `profile`, `base_dir`, `path`, `dirty`, `count`, `encoding` |
| `session.close` | `on_unsaved` | `closed` |
-/

namespace Wordbook.Protocol

open Json

/-- The JSON object of an entry at a position. -/
def indexedEntry (i : Nat) (e : Entry) : Value :=
  Value.ofFields [("index", .nat i), ("key", .string e.key), ("value", .string e.value)]

/-- The JSON object of an entry. -/
def entryValue (e : Entry) : Value :=
  Value.ofFields [("key", .string e.key), ("value", .string e.value)]

/-- The JSON object of a profile in the list, marked if active. -/
def profileValue (active : Profile) (p : Profile) : Value :=
  Value.ofFields [("code", .string p.code), ("label", .string p.label),
    ("filename", .string p.filename), ("active", .bool (p == active))]

/-- The JSON object of a read report. -/
def loadReportValue (r : LoadReport) : Value :=
  Value.ofFields [("path", .string r.path), ("count", .nat r.count),
    ("encoding", .string r.encoding.name)]

/-- The JSON object of a save report. -/
def saveReportValue (r : SaveReport) : Value :=
  Value.ofFields [("path", .string r.path), ("written", .nat r.written),
    ("dropped", .nat r.dropped)]

/-- The JSON object of the session's state. -/
def statusValue (s : Session) : Value :=
  Value.ofFields [("profile", .string s.profile.code), ("base_dir", .string s.baseDir),
    ("path", .string s.path), ("dirty", .bool s.isDirty), ("count", .nat s.store.len),
    ("encoding", match s.encoding with
      | some e => .string e.name
      | none => .null)]

/-- The message of `ping`. -/
def aliveMessage : String := "dict-core alive"

variable {m : Type → Type} [Monad m] [Storage m]

/-- Answers one parsed request. -/
def answer (s : Session) (req : Value) : m (Response × Session) := do
  let id := requestId req
  let payload := payloadOf req
  match Command.ofName (commandName req) with
  | .ping => return (.ok id (Value.ofFields [("message", .string aliveMessage)]), s)
  | .profileList =>
    let profiles := Profile.all.map (profileValue s.profile)
    return (.ok id (Value.ofFields [("profiles", .array profiles)]), s)
  | .profileSet =>
    let code := (textField? payload "code").getD ""
    if code.isEmpty then return (Response.invalidRequest id "payload.code is required", s)
    match onUnsavedField payload with
    | .error e => return (Response.invalidRequest id e, s)
    | .ok onUnsaved =>
      let (r, s') ← s.setProfile code onUnsaved
      match r with
      | .error e => return (Response.ofError id e, s')
      | .ok report =>
        return (.ok id (Value.ofFields [("switched", .bool report.isSome),
          ("profile", .string s'.profile.code), ("path", .string s'.path),
          ("count", .nat s'.store.len)]), s')
  | .recordsList =>
    let query := (textField? payload "query").getD ""
    let records := (s.visible query).map fun ie => indexedEntry ie.1 ie.2
    return (.ok id (Value.ofFields [("records", .array records), ("total", .nat s.store.len)]), s)
  | .recordsAdd =>
    match entryPayload payload with
    | .error e => return (Response.invalidRequest id e, s)
    | .ok e =>
      let (i, s') := s.add e
      return (.ok id (Value.ofFields [("index", .nat i)]), s')
  | .recordsRemove =>
    match indexField payload with
    | .error e => return (Response.invalidRequest id e, s)
    | .ok i =>
      match s.remove i with
      | (.ok e, s') => return (.ok id (Value.ofFields [("removed", entryValue e)]), s')
      | (.error err, s') => return (Response.ofError id err, s')
  | .recordsEdit =>
    match indexField payload with
    | .error e => return (Response.invalidRequest id e, s)
    | .ok i =>
      match entryFieldField payload with
      | .error e => return (Response.invalidRequest id e, s)
      | .ok f =>
        match textField? payload "value" with
        | none => return (Response.invalidRequest id "payload.value is required", s)
        | some text =>
          match s.edit i f text with
          | (.ok e, s') => return (.ok id (Value.ofFields [("record", indexedEntry i e)]), s')
          | (.error err, s') => return (Response.ofError id err, s')
  | .dictionarySave =>
    let (r, s') ← s.save
    match r with
    | .ok report => return (.ok id (saveReportValue report), s')
    | .error e => return (Response.ofError id e, s')
  | .dictionaryReload =>
    let (r, s') ← s.reload
    match r with
    | .ok report => return (.ok id (loadReportValue report), s')
    | .error e => return (Response.ofError id e, s')
  | .sessionStatus => return (.ok id (statusValue s), s)
  | .sessionClose =>
    match onUnsavedField payload with
    | .error e => return (Response.invalidRequest id e, s)
    | .ok onUnsaved =>
      let (r, s') ← s.close onUnsaved
      match r with
      | .ok closed => return (.ok id (Value.ofFields [("closed", .bool closed)]), s')
      | .error e => return (Response.ofError id e, s')
  | .unknown => return (.failure id "unknown_command" "unknown command", s)

/-- Answers one request line: a line that is no JSON value is answered `invalid json`. -/
def handle (s : Session) (line : String) : m (Response × Session) :=
  match Json.parse? line with
  | none => return (.unreadable, s)
  | some req => answer s req

end Wordbook.Protocol
