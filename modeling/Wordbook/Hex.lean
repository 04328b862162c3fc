/-!
# Hexadecimal text

Hexadecimal numbers serve two purposes here: the Unicode and code page tables are written as
runs of hexadecimal words separated by blanks (`Hex.words`), and raw bytes are shown and read
as two lowercase digits per byte (`Hex.ofBytes`, `Hex.bytes?`).
-/

namespace Wordbook.Hex

/-- The value of one hexadecimal digit, either case. -/
def digitValue? (c : Char) : Option Nat :=
  if '0' ≤ c ∧ c ≤ '9' then some (c.toNat - '0'.toNat)
  else if 'a' ≤ c ∧ c ≤ 'f' then some (c.toNat - 'a'.toNat + 10)
  else if 'A' ≤ c ∧ c ≤ 'F' then some (c.toNat - 'A'.toNat + 10)
  else none

/-- The hexadecimal words of a text; any other character separates two words. The number
read so far and whether a word is open travel along. -/
def wordsFrom : List Char → Nat → Bool → List Nat
  | [], acc, open_ => if open_ then [acc] else []
  | c :: rest, acc, open_ =>
    match digitValue? c with
    | some d => wordsFrom rest (acc * 16 + d) true
    | none => if open_ then acc :: wordsFrom rest 0 false else wordsFrom rest 0 false

/-- The hexadecimal words of a text, in order. -/
def words (s : String) : List Nat := wordsFrom s.toList 0 false

/-- Consecutive words taken two at a time; an odd last word is dropped. -/
def pairs : List Nat → List (Nat × Nat)
  | a :: b :: rest => (a, b) :: pairs rest
  | _ => []

/-- The digit of a value below sixteen, lowercase. -/
def digitChar (n : Nat) : Char :=
  if n < 10 then Char.ofNat ('0'.toNat + n) else Char.ofNat ('a'.toNat + n - 10)

/-- Two lowercase digits per byte. -/
def ofBytes (bs : List UInt8) : String :=
  String.ofList (bs.flatMap fun b => [digitChar (b.toNat / 16), digitChar (b.toNat % 16)])

/-- The bytes of a text of two digits per byte, or `none` for an odd length or a character
that is no digit. -/
def bytesOf? : List Char → Option (List UInt8)
  | [] => some []
  | hi :: lo :: rest => do
    let h ← digitValue? hi
    let l ← digitValue? lo
    let tail ← bytesOf? rest
    return (h * 16 + l).toUInt8 :: tail
  | [_] => none

/-- The bytes that a hexadecimal text shows. -/
def bytes? (s : String) : Option (List UInt8) := bytesOf? s.toList

example : words "41 5a\n1F" = [0x41, 0x5A, 0x1F] := by decide

end Wordbook.Hex
