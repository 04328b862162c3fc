import Wordbook.Json.Value
import Wordbook.Number.Decimal
import Wordbook.Text.Escape

/-!
# Reading typed data out of JSON values

When a value is not of the kind a request needs, the complaint names what was found and what
was expected: `invalid type: integer ` + "`5`" + `, expected a string`. What was found is named
by its kind and, for scalars, its value: `null`, a boolean, an integer, a floating point
number written as JSON output writes it (`1.0`, `1e-6`), a string in a debug listing, or just
`sequence` and `map`.

A choice among named variants is read from a string naming one, or from an object with a
single key naming one and `null` as its value.
-/

namespace Wordbook.Json

/-- A backtick-quoted text. -/
def ticked (s : String) : String := "`" ++ s ++ "`"

/-- How a value is named when it is not what was expected. -/
def Value.unexpected : Value → String
  | .null => "null"
  | .bool b => "boolean " ++ ticked (toString b)
  | .number (.nat n) => "integer " ++ ticked (toString n)
  | .number (.negInt n) => "integer " ++ ticked (toString n)
  | .number (.float x) => "floating point " ++ ticked x.jsonText
  | .string s => "string " ++ Text.debugQuoted s
  | .array _ => "sequence"
  | .object _ => "map"

/-- The complaint about a value of the wrong kind. -/
def invalidType (v : Value) (expected : String) : String :=
  "invalid type: " ++ v.unexpected ++ ", expected " ++ expected

/-- The expected variants, as a complaint lists them. -/
def expectedVariants : List String → String
  | [a] => ticked a
  | [a, b] => ticked a ++ " or " ++ ticked b
  | names => "one of " ++ ", ".intercalate (names.map ticked)

/-- The complaint about a name that is no variant. -/
def unknownVariant (name : String) (names : List String) : String :=
  if names.isEmpty then "unknown variant " ++ ticked name ++ ", there are no variants"
  else "unknown variant " ++ ticked name ++ ", expected " ++ expectedVariants names

/-- The position of a variant name. -/
def variantIndex (names : List String) (name : String) : Except String Nat :=
  match names.idxOf? name with
  | some i => .ok i
  | none => .error (unknownVariant name names)

/-- The variant a value names, as its position in `names`: a string naming it, or an object
with one key naming it and a `null` value. -/
def Value.variant? (names : List String) : Value → Except String Nat
  | .string s => variantIndex names s
  | .object [(k, w)] => do
    let i ← variantIndex names k
    match w with
    | .null => pure i
    | other => .error (invalidType other "unit")
  | .object _ => .error "invalid value: map, expected map with a single key"
  | other => .error (invalidType other "string or map")

/-- The text of a value that must be a string. -/
def Value.string? : Value → Except String String
  | .string s => .ok s
  | other => .error (invalidType other "a string")

end Wordbook.Json
