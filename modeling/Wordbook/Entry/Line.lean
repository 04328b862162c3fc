import Wordbook.Entry
import Wordbook.Text.Field

/-!
# Reading dictionary lines

A dictionary file is read line by line. CR LF, a lone CR and a lone LF all end a line, and a
final line break opens no empty last line (`fileLines`).

A line is an entry when, after trimming, dropping one byte-order mark and trimming again, it
is not empty, does not start with `#` (a comment), and holds a comma once full-width commas
are unified. The key is what stands before the first comma and the value everything after it;
each half is trimmed and loses one symmetric pair of quotes. A line whose key comes out empty
is skipped (`Entry.ofLine?`).
-/

namespace Wordbook

open Text

/-- Each CR LF and each lone CR becomes one LF. -/
def unifyBreaks : List Char → List Char
  | '\r' :: '\n' :: rest => '\n' :: unifyBreaks rest
  | c :: rest => (if c = '\r' then '\n' else c) :: unifyBreaks rest
  | [] => []

/-- The pieces between LF characters; `n` LFs give `n + 1` pieces. -/
def splitAtLf : List Char → List (List Char)
  | [] => [[]]
  | c :: rest =>
    if c = '\n' then [] :: splitAtLf rest
    else
      match splitAtLf rest with
      | piece :: pieces => (c :: piece) :: pieces
      | [] => [[c]]

/-- The lines of a text: every break ends a line, and an empty piece after the last break is
no line. -/
def fileLinesChars (cs : List Char) : List (List Char) :=
  let pieces := splitAtLf (unifyBreaks cs)
  if pieces.getLast? = some [] then pieces.dropLast else pieces

/-- The lines of a dictionary file's text. -/
def fileLines (text : String) : List String := (fileLinesChars text.toList).map String.ofList

/-- The text before the first comma and the text after it. -/
def splitAtComma : List Char → Option (List Char × List Char)
  | [] => none
  | c :: rest =>
    if c = ',' then some ([], rest)
    else (splitAtComma rest).map fun halves => (c :: halves.1, halves.2)

/-- The visible part of a line: trimmed, one byte-order mark dropped, trimmed again. -/
def logicalLine (cs : List Char) : List Char := trimChars (stripBomChars (trimChars cs))

/-- Key and value of a line, or `none` for a blank line, a comment, a line without a comma and
a line whose key is empty. -/
def entryChars? (raw : List Char) : Option (List Char × List Char) :=
  match logicalLine raw with
  | [] => none
  | c :: rest =>
    if c = '#' then none
    else
      match splitAtComma (unifyCommaChars (c :: rest)) with
      | none => none
      | some (k, v) =>
        match stripQuotesChars (trimChars k) with
        | [] => none
        | key => some (key, stripQuotesChars (trimChars v))

namespace Entry

/-- The entry a dictionary line holds, if it holds one. -/
def ofLine? (line : String) : Option Entry :=
  (entryChars? line.toList).map fun kv => ⟨String.ofList kv.1, String.ofList kv.2⟩

/-- The entries of a list of lines, in order and with repeated keys kept. -/
def ofLines (lines : List String) : List Entry := lines.filterMap ofLine?

@[simp] theorem ofLines_nil : ofLines [] = [] := rfl

theorem ofLines_cons (line : String) (lines : List String) :
    ofLines (line :: lines) = ((ofLine? line).toList ++ ofLines lines) := by
  cases h : ofLine? line <;> simp [ofLines, h]

end Entry

end Wordbook
