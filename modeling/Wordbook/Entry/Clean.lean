import Wordbook.Entry
import Wordbook.Text.Field

/-!
# Cleaning a dictionary

Before a dictionary is written it is cleaned: both fields of every entry are normalised
(`Text.normalizeField`), an entry whose key comes out empty is dropped, and of the entries
that share a normalised key only the first is kept. Keys are compared exactly, so `Cat` and
`cat` are different keys. The order of the kept entries is the input order, and the count of
dropped entries comes with the result (`Entry.cleanCounting`).
-/

namespace Wordbook

open Text

namespace Entry

/-- Both fields normalised for writing. -/
def normalize (e : Entry) : Entry := ⟨normalizeField e.key, normalizeField e.value⟩

/-- The kept entries and the number dropped, given the keys already taken. -/
def cleanAfter (taken : List String) : List Entry → List Entry × Nat
  | [] => ([], 0)
  | e :: rest =>
    let n := e.normalize
    if n.key.isEmpty || taken.contains n.key then
      let r := cleanAfter taken rest
      (r.1, r.2 + 1)
    else
      let r := cleanAfter (n.key :: taken) rest
      (n :: r.1, r.2)

/-- The cleaned dictionary and how many entries cleaning dropped. -/
def cleanCounting (es : List Entry) : List Entry × Nat := cleanAfter [] es

/-- The cleaned dictionary: normalised, without empty keys, first entry of each key kept. -/
def clean (es : List Entry) : List Entry := (cleanCounting es).1

end Entry

end Wordbook
