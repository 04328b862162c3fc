import Wordbook.Hex
import Wordbook.Text.Case
import Wordbook.Text.Escape.Table

/-!
# Debug listing of a string

`Text.debugQuoted` writes a string between double quotes the way a debug listing shows it:
NUL, tab, CR and LF as `\0`, `\t`, `\r`, `\n`; the backslash and the double quote escaped
with a backslash; a character that extends a grapheme (`Grapheme_Extend`, the halfwidth
katakana sound marks apart) or is not printable (a control, format, surrogate, private-use,
unassigned or separator character, the space apart, or a Hangul filler) as `\u` followed by
its code point in lowercase hex between braces; every other character as it is. The
apostrophe is not escaped.
-/

namespace Wordbook.Text

/-- Code point ranges of the extending characters a debug listing escapes: `Grapheme_Extend`
without the halfwidth katakana sound marks. -/
def graphemeExtendRanges : List (Nat × Nat) := Hex.pairs (Hex.words EscapeTable.graphemeExtendText)

/-- Code point ranges of the characters a debug listing escapes as not printable. -/
def unprintableRanges : List (Nat × Nat) := Hex.pairs (Hex.words EscapeTable.unprintableText)

/-- Whether a character is printable: ASCII from space to tilde, or outside the unprintable
ranges. -/
def isPrintable (c : Char) : Bool :=
  if c.toNat < 0x80 then 0x20 ≤ c.toNat && c.toNat < 0x7F
  else !inRanges unprintableRanges c.toNat

/-- The hex digits of a number, lowercase, without leading zeros. -/
def hexChars (n : Nat) : List Char := Nat.toDigits 16 n

/-- The escape `\u` with the code point in braces. -/
def unicodeEscape (c : Char) : List Char :=
  '\\' :: 'u' :: '\x7b' :: hexChars c.toNat ++ ['\x7d']

/-- How one character appears in a debug listing of a string. -/
def debugChar (c : Char) : List Char :=
  match c with
  | '\x00' => ['\\', '0']
  | '\t' => ['\\', 't']
  | '\r' => ['\\', 'r']
  | '\n' => ['\\', 'n']
  | '\\' => ['\\', '\\']
  | '"' => ['\\', '"']
  | c =>
    if c.toNat ≥ 0x80 && inRanges graphemeExtendRanges c.toNat then unicodeEscape c
    else if isPrintable c then [c]
    else unicodeEscape c

/-- A string in double quotes as a debug listing shows it. -/
def debugQuoted (s : String) : String := String.ofList ('"' :: s.toList.flatMap debugChar ++ ['"'])

end Wordbook.Text
