/-!
# ASCII case folding

Profile codes and log level names are compared ignoring ASCII case only: `A` to `Z` fold to
`a` to `z`, and every other character, the full-width and compatibility letters included,
compares as it is.
-/

namespace Wordbook.Text

/-- The ASCII lowercase of a character; any character outside `A` to `Z` is kept. -/
def asciiLower (c : Char) : Char :=
  if 'A' ≤ c ∧ c ≤ 'Z' then Char.ofNat (c.toNat + 32) else c

/-- Equality of two texts up to ASCII case. -/
def eqIgnoreAsciiCase (a b : String) : Bool :=
  a.toList.map asciiLower == b.toList.map asciiLower

example : eqIgnoreAsciiCase "Ko" "kO" = true := by decide

end Wordbook.Text
