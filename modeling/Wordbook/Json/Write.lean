import Wordbook.Hex
import Wordbook.Json.Value
import Wordbook.Number.Decimal

/-!
# Writing JSON text

`Value.render` writes a value compactly: no blanks, object fields in their (sorted) order. In
a string the quote and the backslash are escaped, the control characters below U+0020 are
written `\b`, `\t`, `\n`, `\f`, `\r` or `\u00XX` with lowercase hex digits, and every other
character is written as it is. An integer is written in decimal, a double in the JSON layout
of its shortest digits (`Binary64.jsonText`).
-/

namespace Wordbook.Json

/-- The written form of one character inside a string. -/
def escapeChar (c : Char) : List Char :=
  match c with
  | '"' => ['\\', '"']
  | '\\' => ['\\', '\\']
  | '\n' => ['\\', 'n']
  | '\r' => ['\\', 'r']
  | '\t' => ['\\', 't']
  | '\x08' => ['\\', 'b']
  | '\x0c' => ['\\', 'f']
  | c =>
    if c.toNat < 0x20 then
      ['\\', 'u', '0', '0', Hex.digitChar (c.toNat / 16), Hex.digitChar (c.toNat % 16)]
    else [c]

/-- A string written with quotes and escapes. -/
def quoteChars (s : String) : List Char := '"' :: s.toList.flatMap escapeChar ++ ['"']

/-- The written form of a number. -/
def Number.render : Number → List Char
  | .nat n => (toString n).toList
  | .negInt n => (toString n).toList
  | .float x => x.jsonText.toList

mutual

/-- The compact written form of a value. -/
def Value.renderChars : Value → List Char
  | .null => "null".toList
  | .bool true => "true".toList
  | .bool false => "false".toList
  | .number n => n.render
  | .string s => quoteChars s
  | .array items => '[' :: renderItems items ++ [']']
  | .object fields => '\x7b' :: renderFields fields ++ ['\x7d']

/-- Array items separated by commas. -/
def renderItems : List Value → List Char
  | [] => []
  | [v] => v.renderChars
  | v :: rest => v.renderChars ++ ',' :: renderItems rest

/-- Object fields `"key":value` separated by commas. -/
def renderFields : List (String × Value) → List Char
  | [] => []
  | [(k, v)] => quoteChars k ++ ':' :: v.renderChars
  | (k, v) :: rest => quoteChars k ++ ':' :: v.renderChars ++ ',' :: renderFields rest

end

/-- The compact JSON text of a value. -/
def Value.render (v : Value) : String := String.ofList v.renderChars

end Wordbook.Json
