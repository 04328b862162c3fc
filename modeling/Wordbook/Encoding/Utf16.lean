/-!
# UTF-16

Strict UTF-16 in either byte order. Two bytes make a code unit; a unit outside D800 to DFFF
is a character, a high surrogate D800 to DBFF followed by a low surrogate DC00 to DFFF is the
character of their pair, and anything else (an odd byte at the end, a lone surrogate) makes
the whole sequence refused (`Utf16.decode? = none`).
-/

namespace Wordbook.Encoding.Utf16

/-- The byte orders. -/
inductive Order where
  | little
  | big
  deriving DecidableEq

/-- The code unit of two bytes in the given order. -/
def unit : Order → UInt8 → UInt8 → Nat
  | .little, a, b => b.toNat * 256 + a.toNat
  | .big, a, b => a.toNat * 256 + b.toNat

/-- A high surrogate, the first unit of a pair. -/
def isHigh (u : Nat) : Bool := 0xD800 ≤ u && u ≤ 0xDBFF

/-- A low surrogate, the second unit of a pair. -/
def isLow (u : Nat) : Bool := 0xDC00 ≤ u && u ≤ 0xDFFF

/-- The characters a byte sequence spells in the given order, or `none`. -/
def decodeChars (order : Order) : List UInt8 → Option (List Char)
  | [] => some []
  | [_] => none
  | a :: b :: rest =>
    let u := unit order a b
    if isHigh u then
      match rest with
      | c :: d :: rest' =>
        let v := unit order c d
        if isLow v then
          (decodeChars order rest').map
            (Char.ofNat (0x10000 + (u - 0xD800) * 0x400 + (v - 0xDC00)) :: ·)
        else none
      | _ => none
    else if isLow u then none
    else (decodeChars order rest).map (Char.ofNat u :: ·)

/-- The text a byte sequence spells in strict UTF-16 of the given order. -/
def decode? (order : Order) (bytes : List UInt8) : Option String :=
  (decodeChars order bytes).map String.ofList

/-- Two bytes of a code unit in the given order. -/
def unitBytes : Order → Nat → List UInt8
  | .little, u => [(u % 256).toUInt8, (u / 256).toUInt8]
  | .big, u => [(u / 256).toUInt8, (u % 256).toUInt8]

/-- The UTF-16 form of one character: one unit, or a surrogate pair above U+FFFF. -/
def encodeChar (order : Order) (c : Char) : List UInt8 :=
  let n := c.toNat
  if n < 0x10000 then unitBytes order n
  else
    let m := n - 0x10000
    unitBytes order (0xD800 + m / 0x400) ++ unitBytes order (0xDC00 + m % 0x400)

/-- The UTF-16 form of a text. -/
def encode (order : Order) (s : String) : List UInt8 := s.toList.flatMap (encodeChar order)

/-- The byte-order mark written in the given order. -/
def bomBytes : Order → List UInt8
  | .little => [0xFF, 0xFE]
  | .big => [0xFE, 0xFF]

end Wordbook.Encoding.Utf16
