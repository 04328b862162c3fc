import Wordbook.Encoding.Korean.Table

/-!
# Korean code page text

Decoding and encoding by the Korean code page table. A byte below 0x80 is the ASCII
character of that value. A lead byte 0x81 to 0xFE takes the next byte as its trail; the pair
stands for the character its pointer names in the table. Every other byte, a lead byte at the
end, a trail byte outside 0x41 to 0xFE and a pointer that names nothing make the whole
sequence refused (`Korean.decode? = none`).

The table is held as rows of hexadecimal digits (`KoreanTable.rows`), read out into one array
of code points (`pointerTable`). The encoder writes each character as the first pointer that
names it; since the table ends before the lead byte 0xFE's row, every pointer it finds has a
lead byte that decoding takes, so decoding what it writes gives the text back.
-/

namespace Wordbook.Encoding.Korean

/-- The code points of one row, the first trail byte's first: its groups of four hexadecimal
digits from the left. -/
def rowEntries (row : Nat) : List Nat :=
  (List.range 190).map fun k => row / Nat.pow 0x10000 (189 - k) % 0x10000

/-- The code point of each pointer, `0` where the pointer names nothing. -/
def pointerTable : Array Nat := (KoreanTable.rows.flatMap rowEntries).toArray

/-- The pointer of a lead and a trail byte, if the trail byte is in range. -/
def pointer? (lead trail : UInt8) : Option Nat :=
  if 0x41 ≤ trail ∧ trail ≤ 0xFE then
    some ((lead.toNat - 0x81) * 190 + (trail.toNat - 0x41))
  else none

/-- The character a pointer names, if it names one. -/
def charAt? (p : Nat) : Option Char :=
  match pointerTable[p]? with
  | some n => if n = 0 then none else some (Char.ofNat n)
  | none => none

/-- The characters a byte sequence spells, or `none`. -/
def decodeChars : List UInt8 → Option (List Char)
  | [] => some []
  | b :: rest =>
    if b < 0x80 then (decodeChars rest).map (Char.ofNat b.toNat :: ·)
    else if 0x81 ≤ b ∧ b ≤ 0xFE then
      match rest with
      | t :: rest' =>
        match pointer? b t >>= charAt? with
        | some c => (decodeChars rest').map (c :: ·)
        | none => none
      | [] => none
    else none

/-- The text a byte sequence spells in the Korean code page. -/
def decode? (bytes : List UInt8) : Option String := (decodeChars bytes).map String.ofList

/-- The first pointer that names a character. -/
def pointerOf? (c : Char) : Option Nat :=
  (List.range pointerTable.size).find? fun p => charAt? p == some c

/-- The bytes of one character, or `none` if the code page cannot write it. -/
def encodeChar? (c : Char) : Option (List UInt8) :=
  if c.toNat < 0x80 then some [c.toNat.toUInt8]
  else (pointerOf? c).map fun p => [(p / 190 + 0x81).toUInt8, (p % 190 + 0x41).toUInt8]

/-- The bytes of a text, or `none` if some character cannot be written. -/
def encode? (s : String) : Option (List UInt8) :=
  (s.toList.mapM encodeChar?).map List.flatten

end Wordbook.Encoding.Korean
