import Wordbook.Entry
import Wordbook.Text.Field

/-!
# Writing dictionary lines

An entry is written as `key, value` on a line of its own, lines ending in LF. A field is
wrapped in double quotes where reading it back would otherwise change it: a field already
wrapped in a quote pair would lose that pair, and a key starting with `#` would read as a
comment, a key starting with a byte-order mark would lose the mark.
-/

namespace Wordbook

open Text

/-- A key that needs quotes to read back as itself. -/
def keyNeedsQuotes (key : String) : Bool :=
  isQuoted key ||
    match key.toList with
    | c :: _ => c == '#' || c == bom
    | [] => false

/-- The field wrapped in double quotes. -/
def quote (s : String) : String := "\"" ++ s ++ "\""

/-- The written form of a key. -/
def renderKey (key : String) : String := if keyNeedsQuotes key then quote key else key

/-- The written form of a value: quoted only if it is itself wrapped in a quote pair. -/
def renderValue (value : String) : String := if isQuoted value then quote value else value

namespace Entry

/-- The line of an entry, without its line end. -/
def toLine (e : Entry) : String := renderKey e.key ++ ", " ++ renderValue e.value

/-- The text of a dictionary: one line per entry, each ended by LF. -/
def render (es : List Entry) : String := String.join (es.map fun e => e.toLine ++ "\n")

@[simp] theorem render_nil : render [] = "" := rfl

end Entry

end Wordbook
