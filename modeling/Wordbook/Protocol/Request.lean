import Wordbook.Entry
import Wordbook.Json.Expect
import Wordbook.Session

/-!
# Requests

A request is a JSON object with a command name `cmd`, an optional `id` that the response
echoes, and an optional `payload` with the command's arguments. A request that is not an
object, or lacks a string `cmd`, has the empty command, which no command answers to.

The payload fields are read leniently where the commands allow it (a missing or non-string
`query` is the empty query) and strictly where they need a value, each refusal saying which
field is wrong and why.
-/

namespace Wordbook.Protocol

open Json

/-- The commands of the protocol. -/
inductive Command where
  | ping
  | profileList
  | profileSet
  | recordsList
  | recordsAdd
  | recordsRemove
  | recordsEdit
  | dictionarySave
  | dictionaryReload
  | sessionStatus
  | sessionClose
  | unknown
  deriving DecidableEq

/-- The command a name stands for; names are matched exactly. -/
def Command.ofName : String → Command
  | "ping" => .ping
  | "profile.list" => .profileList
  | "profile.set" => .profileSet
  | "records.list" => .recordsList
  | "records.add" => .recordsAdd
  | "records.remove" => .recordsRemove
  | "records.edit" => .recordsEdit
  | "dictionary.save" => .dictionarySave
  | "dictionary.reload" => .dictionaryReload
  | "session.status" => .sessionStatus
  | "session.close" => .sessionClose
  | _ => .unknown

/-- The command name of a request, empty when there is none. -/
def commandName (req : Value) : String := ((req.get? "cmd").bind Value.asString?).getD ""

/-- The id a response echoes, `null` when there is none. -/
def requestId (req : Value) : Value := (req.get? "id").getD .null

/-- The payload of a request, `null` when there is none. -/
def payloadOf (req : Value) : Value := (req.get? "payload").getD .null

/-- A string field of the payload. -/
def textField? (payload : Value) (name : String) : Option String :=
  (payload.get? name).bind Value.asString?

/-- The `index` field: a natural number below `2 ^ 64`. -/
def indexField (payload : Value) : Except String Nat :=
  match (payload.get? "index").bind Value.asNat? with
  | some i => .ok i
  | none => .error "payload.index must be a non-negative integer"

/-- The `on_unsaved` field; missing or `null` means abort. -/
def onUnsavedField (payload : Value) : Except String OnUnsaved :=
  match payload.get? "on_unsaved" with
  | none | some .null => .ok .abort
  | some v =>
    match v.variant? ["save", "discard", "abort"] with
    | .ok 0 => .ok .save
    | .ok 1 => .ok .discard
    | .ok _ => .ok .abort
    | .error e => .error s!"payload.on_unsaved must be save, discard or abort: {e}"

/-- The `field` field, naming the key or the value of an entry. -/
def entryFieldField (payload : Value) : Except String Entry.Field :=
  match ((payload.get? "field").getD .null).variant? ["key", "value"] with
  | .ok 0 => .ok .key
  | .ok _ => .ok .value
  | .error e => .error s!"payload.field must be key or value: {e}"

/-- One field of an entry given as an object; other keys are ignored. -/
def setEntryField (e : Entry) (kv : String × Value) : Except String Entry :=
  if kv.1 = "key" then kv.2.string?.map fun s => { e with key := s }
  else if kv.1 = "value" then kv.2.string?.map fun s => { e with value := s }
  else .ok e

/-- An entry given as an object with `key` and `value`, or as an array of at most the key and
the value; a missing field is empty. -/
def entryOfValue : Value → Except String Entry
  | .object fields => fields.foldlM setEntryField Entry.blank
  | .array items =>
    match items with
    | [] => .ok Entry.blank
    | [k] => do return ⟨← k.string?, ""⟩
    | [k, v] => do return ⟨← k.string?, ← v.string?⟩
    | k :: v :: _ => do
      let _ ← k.string?
      let _ ← v.string?
      .error s!"invalid length {items.length}, expected fewer elements in array"
  | other => .error (invalidType other "struct Record")

/-- The entry a `records.add` payload describes; `null` is the blank entry. -/
def entryPayload (payload : Value) : Except String Entry :=
  match payload with
  | .null => .ok Entry.blank
  | v =>
    match entryOfValue v with
    | .ok e => .ok e
    | .error msg => .error s!"invalid record payload: {msg}"

end Wordbook.Protocol
