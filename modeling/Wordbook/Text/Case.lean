import Wordbook.Hex
import Wordbook.Text.Case.Table

/-!
# Full lowercasing

`Text.lowercase` maps a string to lower case by the full Unicode rules:

* every character takes its lowercase mapping (`lowerChar`); U+0130, the capital I with dot
  above, becomes two characters, `i` and the combining dot U+0307;
* the capital sigma is the one context-dependent case: it becomes the final form `ς` when
  it ends a word and `σ` otherwise (`finalSigma`). It ends a word when, skipping
  case-ignorable characters, a cased character stands before it and none after it.

The context is read in the string being lowered, so lowering a piece of a string may differ
from the same piece of the lowered string: `"Σ"` alone lowers to `"σ"`, while in `"ΟΔΟΣ"` the
sigma is final.
-/

namespace Wordbook.Text

/-- One run of the lowercase mapping: each code point `lo + k * step` up to `hi` maps to
`target + k * step`. -/
structure LowerRun where
  lo : Nat
  hi : Nat
  step : Nat
  target : Nat

/-- Runs read from four hexadecimal words each. -/
def lowerRunsOf : List Nat → List LowerRun
  | lo :: hi :: step :: target :: rest => ⟨lo, hi, step, target⟩ :: lowerRunsOf rest
  | _ => []

/-- The simple lowercase mapping, as runs. -/
def lowerRuns : List LowerRun := lowerRunsOf (Hex.words CaseTable.lowerRunsText)

/-- Code point ranges of the `Cased` property. -/
def casedRanges : List (Nat × Nat) := Hex.pairs (Hex.words CaseTable.casedText)

/-- Code point ranges of the `Case_Ignorable` property. -/
def caseIgnorableRanges : List (Nat × Nat) := Hex.pairs (Hex.words CaseTable.caseIgnorableText)

/-- Membership of a code point in a list of inclusive ranges. -/
def inRanges (ranges : List (Nat × Nat)) (n : Nat) : Bool :=
  ranges.any fun r => r.1 ≤ n && n ≤ r.2

/-- The `Cased` property. -/
def isCased (c : Char) : Bool := inRanges casedRanges c.toNat

/-- The `Case_Ignorable` property. -/
def isCaseIgnorable (c : Char) : Bool := inRanges caseIgnorableRanges c.toNat

/-- The code point a run sends `n` to, if the run covers `n`. -/
def LowerRun.imageOf? (r : LowerRun) (n : Nat) : Option Nat :=
  if r.lo ≤ n ∧ n ≤ r.hi ∧ (n - r.lo) % r.step = 0 then some (r.target + (n - r.lo)) else none

/-- The simple lowercase mapping of one character; a character without one maps to itself. -/
def simpleLower (c : Char) : Char :=
  if c.toNat < 0x80 then
    if 'A' ≤ c ∧ c ≤ 'Z' then Char.ofNat (c.toNat + 32) else c
  else
    match lowerRuns.findSome? (·.imageOf? c.toNat) with
    | some n => Char.ofNat n
    | none => c

/-- The capital I with dot above, U+0130. -/
def capitalIWithDot : Char := '\u0130'

/-- The combining dot above, U+0307. -/
def combiningDotAbove : Char := '\u0307'

/-- The full lowercase mapping of one character outside any context. -/
def lowerChar (c : Char) : List Char :=
  if c = capitalIWithDot then ['i', combiningDotAbove] else [simpleLower c]

/-- Whether, skipping case-ignorable characters, the next character is cased. -/
def casedAhead (cs : List Char) : Bool :=
  match cs.dropWhile isCaseIgnorable with
  | c :: _ => isCased c
  | [] => false

/-- A capital sigma ends a word: a cased character before it and none after it, looking past
case-ignorable characters. `before` lists the preceding characters nearest first. -/
def finalSigma (before after : List Char) : Bool :=
  casedAhead before && !casedAhead after

/-- The capital sigma U+03A3. -/
def capitalSigma : Char := 'Σ'

/-- Full lowercasing of `rest`, where `before` holds the characters already passed, nearest
first. -/
def lowerFrom : List Char → List Char → List Char
  | _, [] => []
  | before, c :: after =>
    (if c = capitalSigma then [if finalSigma before after then 'ς' else 'σ'] else lowerChar c) ++
      lowerFrom (c :: before) after

/-- Full lowercasing of a list of characters. -/
def lowerChars (cs : List Char) : List Char := lowerFrom [] cs

/-- Full Unicode lowercasing of a string. -/
def lowercase (s : String) : String := String.ofList (lowerChars s.toList)

@[simp] theorem toList_lowercase (s : String) : (lowercase s).toList = lowerChars s.toList := by
  simp [lowercase]

end Wordbook.Text
