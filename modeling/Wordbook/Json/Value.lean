import Wordbook.Number.Binary64

/-!
# JSON values

The dynamic values of the request protocol. A number is kept in the form it was read in: a
natural number below `2 ^ 64`, a negative integer not below `-2 ^ 63`, or a double. An object
holds each key once, the fields sorted by key in code point order; setting a key that is
already present replaces its value (`Value.insertField`), so of repeated keys in a text the
last one counts.
-/

namespace Wordbook.Json

/-- A JSON number as it was read or built. -/
inductive Number where
  | nat (n : Nat)
  | negInt (n : Int)
  | float (x : Binary64)
  deriving DecidableEq

/-- A JSON value. -/
inductive Value where
  | null
  | bool (b : Bool)
  | number (n : Number)
  | string (s : String)
  | array (items : List Value)
  | object (fields : List (String × Value))

/-- The fields with a key set: replaced in place if present, else inserted in key order. -/
def insertField (key : String) (v : Value) : List (String × Value) → List (String × Value)
  | [] => [(key, v)]
  | (k, w) :: rest =>
    if key = k then (key, v) :: rest
    else if key < k then (key, v) :: (k, w) :: rest
    else (k, w) :: insertField key v rest

/-- An object of the given fields, later fields replacing earlier ones of the same key. -/
def Value.ofFields (fields : List (String × Value)) : Value :=
  .object (fields.foldl (fun acc kv => insertField kv.1 kv.2 acc) [])

/-- The value of a key of an object; `none` for a missing key or a value that is no object. -/
def Value.get? (v : Value) (key : String) : Option Value :=
  match v with
  | .object fields => (fields.find? (·.1 == key)).map (·.2)
  | _ => none

/-- The text of a string value. -/
def Value.asString? : Value → Option String
  | .string s => some s
  | _ => none

/-- A natural number below `2 ^ 64`, as read; no double counts, not even a whole one. -/
def Value.asNat? : Value → Option Nat
  | .number (.nat n) => some n
  | _ => none

/-- The items of an array value. -/
def Value.asArray? : Value → Option (List Value)
  | .array items => some items
  | _ => none

/-- Whether the value is `null`. -/
def Value.isNull : Value → Bool
  | .null => true
  | _ => false

/-- A natural number value. -/
def Value.nat (n : Nat) : Value := .number (.nat n)

end Wordbook.Json
