/-!
# UTF-8

Strict UTF-8: every character is written in its shortest form, surrogate code points and
code points above U+10FFFF have no form, and a byte sequence that is not a run of such forms
is refused whole (`Utf8.decode? = none`), never patched with a replacement character.

| first byte | following bytes |
|---|---|
| 00 to 7F | none |
| C2 to DF | 80 to BF |
| E0 | A0 to BF, 80 to BF |
| E1 to EC, EE, EF | 80 to BF, 80 to BF |
| ED | 80 to 9F, 80 to BF |
| F0 | 90 to BF, 80 to BF, 80 to BF |
| F1 to F3 | 80 to BF, 80 to BF, 80 to BF |
| F4 | 80 to 8F, 80 to BF, 80 to BF |

`Utf8.encode` writes the shortest form of each character.
-/

namespace Wordbook.Encoding.Utf8

/-- A continuation byte: 80 to BF. -/
def isTrail (b : UInt8) : Bool := 0x80 ≤ b && b ≤ 0xBF

/-- The bits a continuation byte carries. -/
def low6 (b : UInt8) : Nat := b.toNat % 64

/-- Which bytes may follow a lead byte of a three-byte form as its first continuation. -/
def secondOfThree (lead b : UInt8) : Bool :=
  if lead = 0xE0 then 0xA0 ≤ b && b ≤ 0xBF
  else if lead = 0xED then 0x80 ≤ b && b ≤ 0x9F
  else isTrail b

/-- Which bytes may follow a lead byte of a four-byte form as its first continuation. -/
def secondOfFour (lead b : UInt8) : Bool :=
  if lead = 0xF0 then 0x90 ≤ b && b ≤ 0xBF
  else if lead = 0xF4 then 0x80 ≤ b && b ≤ 0x8F
  else isTrail b

/-- The characters a byte sequence spells, or `none` if it is not strict UTF-8. -/
def decodeChars : List UInt8 → Option (List Char)
  | [] => some []
  | b0 :: rest =>
    if b0 < 0x80 then (decodeChars rest).map (Char.ofNat b0.toNat :: ·)
    else
      match rest with
      | [] => none
      | b1 :: rest1 =>
        if 0xC2 ≤ b0 ∧ b0 ≤ 0xDF then
          if isTrail b1 then
            (decodeChars rest1).map (Char.ofNat ((b0.toNat % 32) * 64 + low6 b1) :: ·)
          else none
        else
          match rest1 with
          | [] => none
          | b2 :: rest2 =>
            if 0xE0 ≤ b0 ∧ b0 ≤ 0xEF then
              if secondOfThree b0 b1 && isTrail b2 then
                (decodeChars rest2).map
                  (Char.ofNat ((b0.toNat % 16) * 4096 + low6 b1 * 64 + low6 b2) :: ·)
              else none
            else
              match rest2 with
              | [] => none
              | b3 :: rest3 =>
                if 0xF0 ≤ b0 ∧ b0 ≤ 0xF4 ∧ secondOfFour b0 b1 ∧ isTrail b2 ∧ isTrail b3 then
                  (decodeChars rest3).map (Char.ofNat ((b0.toNat % 8) * 262144 +
                    low6 b1 * 4096 + low6 b2 * 64 + low6 b3) :: ·)
                else none

/-- The text a byte sequence spells in strict UTF-8. -/
def decode? (bytes : List UInt8) : Option String := (decodeChars bytes).map String.ofList

/-- The shortest UTF-8 form of one character. -/
def encodeChar (c : Char) : List UInt8 :=
  let n := c.toNat
  if n < 0x80 then [n.toUInt8]
  else if n < 0x800 then [(0xC0 + n / 64).toUInt8, (0x80 + n % 64).toUInt8]
  else if n < 0x10000 then
    [(0xE0 + n / 4096).toUInt8, (0x80 + n / 64 % 64).toUInt8, (0x80 + n % 64).toUInt8]
  else
    [(0xF0 + n / 262144).toUInt8, (0x80 + n / 4096 % 64).toUInt8,
      (0x80 + n / 64 % 64).toUInt8, (0x80 + n % 64).toUInt8]

/-- The UTF-8 form of a list of characters. -/
def encodeChars (cs : List Char) : List UInt8 := cs.flatMap encodeChar

/-- The UTF-8 form of a text. -/
def encode (s : String) : List UInt8 := encodeChars s.toList

/-- The byte-order mark in UTF-8: EF BB BF. -/
def bomBytes : List UInt8 := [0xEF, 0xBB, 0xBF]

example : decode? [0x61, 0xC3, 0xA9] = some "aé" := by decide

example : decode? [0xED, 0xA0, 0x80] = none := by decide

end Wordbook.Encoding.Utf8
