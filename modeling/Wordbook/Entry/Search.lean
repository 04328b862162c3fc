import Wordbook.Entry
import Wordbook.Text.Blank
import Wordbook.Text.Case

/-!
# Searching a dictionary

A query selects the entries whose key or value contains it, ignoring case: query and fields
are compared after full Unicode lowercasing, the query first trimmed. A query that is empty
once trimmed selects every entry. The answer is the list of positions of the selected
entries, in increasing order.
-/

namespace Wordbook

open Text

/-- Whether `needle` occurs as a contiguous piece of `hay`. -/
def occursIn (needle : List Char) : List Char → Bool
  | [] => needle.isEmpty
  | c :: rest => needle.isPrefixOf (c :: rest) || occursIn needle rest

namespace Entry

/-- Whether the lowered key or the lowered value contains the lowered needle. -/
def matchesNeedle (needle : List Char) (e : Entry) : Bool :=
  occursIn needle (lowerChars e.key.toList) || occursIn needle (lowerChars e.value.toList)

/-- The lowered, trimmed query. -/
def needleOf (query : String) : List Char := lowerChars (trimChars query.toList)

/-- Positions of the entries selected by a query, counting from `start`. -/
def searchFrom (needle : List Char) (start : Nat) : List Entry → List Nat
  | [] => []
  | e :: rest =>
    if matchesNeedle needle e then start :: searchFrom needle (start + 1) rest
    else searchFrom needle (start + 1) rest

/-- Positions of the entries whose key or value contains the query, ignoring case; all
positions for a blank query. -/
def search (es : List Entry) (query : String) : List Nat :=
  match needleOf query with
  | [] => List.range es.length
  | needle => searchFrom needle 0 es

end Entry

end Wordbook
