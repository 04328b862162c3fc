import Wordbook.Text.Blank

/-!
# Field text: commas, byte-order marks and quote pairs

The small rewrites a dictionary field goes through.

* `unifyCommas` turns the full-width comma U+FF0C, which CJK input methods produce, into the
  ASCII comma that separates key from value.
* `stripBom` removes one leading byte-order mark U+FEFF.
* `quotedInterior` recognises a field wrapped in one symmetric pair of `"` or `'`; a lone or
  mismatched quote is no pair. `stripQuotes` removes the pair and trims what it held.
* `normalizeField` is the pass every field gets before it is written: commas unified, each
  line break (CR LF, lone CR, lone LF) one space, blanks trimmed. A written field therefore
  never spans two lines.
-/

namespace Wordbook.Text

/-- The full-width comma U+FF0C. -/
def fullWidthComma : Char := '\uFF0C'

/-- The byte-order mark U+FEFF. -/
def bom : Char := '\uFEFF'

/-- Each full-width comma becomes an ASCII comma. -/
def unifyCommaChars (cs : List Char) : List Char :=
  cs.map fun c => if c = fullWidthComma then ',' else c

/-- Each full-width comma becomes an ASCII comma. -/
def unifyCommas (s : String) : String := String.ofList (unifyCommaChars s.toList)

/-- One leading byte-order mark is removed; a second one stays. -/
def stripBomChars : List Char → List Char
  | c :: rest => if c = bom then rest else c :: rest
  | [] => []

/-- One leading byte-order mark is removed; a second one stays. -/
def stripBom (s : String) : String := String.ofList (stripBomChars s.toList)

/-- A quote character that may wrap a field. -/
def isQuoteChar (c : Char) : Bool := c == '"' || c == '\''

/-- The characters between a symmetric pair of quotes around the whole field: at least two
characters, the first a quote, the last the same quote. -/
def quotedInteriorChars : List Char → Option (List Char)
  | q :: rest =>
    match rest.getLast? with
    | some last => if isQuoteChar q && q == last then some rest.dropLast else none
    | none => none
  | [] => none

/-- The text between a symmetric pair of quotes around the whole field, if there is one. -/
def quotedInterior (s : String) : Option String :=
  (quotedInteriorChars s.toList).map String.ofList

/-- A field wrapped in one symmetric pair of quotes. -/
def isQuoted (s : String) : Bool := (quotedInteriorChars s.toList).isSome

/-- A quoted field loses its pair of quotes and the blanks inside them; any other field is
kept as it is. -/
def stripQuotesChars (cs : List Char) : List Char :=
  match quotedInteriorChars cs with
  | some inner => trimChars inner
  | none => cs

/-- A quoted field loses its pair of quotes and the blanks inside them; any other field is
kept as it is. -/
def stripQuotes (s : String) : String := String.ofList (stripQuotesChars s.toList)

/-- Each line break becomes one space: CR LF together, then a lone CR or LF. -/
def spaceBreaks : List Char → List Char
  | '\r' :: '\n' :: rest => ' ' :: spaceBreaks rest
  | c :: rest => (if c = '\r' || c = '\n' then ' ' else c) :: spaceBreaks rest
  | [] => []

/-- The pass a field gets before it is written: commas unified, line breaks made spaces,
blanks trimmed. -/
def normalizeFieldChars (cs : List Char) : List Char :=
  trimChars (spaceBreaks (unifyCommaChars cs))

/-- The pass a field gets before it is written: commas unified, line breaks made spaces,
blanks trimmed. -/
def normalizeField (s : String) : String := String.ofList (normalizeFieldChars s.toList)

@[simp] theorem toList_unifyCommas (s : String) :
    (unifyCommas s).toList = unifyCommaChars s.toList := by
  simp [unifyCommas]

@[simp] theorem toList_stripBom (s : String) : (stripBom s).toList = stripBomChars s.toList := by
  simp [stripBom]

@[simp] theorem toList_stripQuotes (s : String) :
    (stripQuotes s).toList = stripQuotesChars s.toList := by
  simp [stripQuotes]

@[simp] theorem toList_normalizeField (s : String) :
    (normalizeField s).toList = normalizeFieldChars s.toList := by
  simp [normalizeField]

end Wordbook.Text
