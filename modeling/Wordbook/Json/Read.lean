import Wordbook.Hex
import Wordbook.Json.Value

/-!
# Reading JSON text

`Json.parse?` reads one JSON value from a text, or refuses it. It follows RFC 8259 strictly:

* blanks between tokens are space, tab, LF and CR only, so a byte-order mark is refused;
* after the value only blanks may follow;
* a string holds no raw control character, its escapes are the eight of the standard and
  `\u` with four hex digits, and a `\u` high surrogate must be followed by a `\u` low
  surrogate;
* arrays and objects allow no trailing comma, and at most 127 of them may be nested.

Numbers are read by the following rule, whose rounding the answers show. An integer without
fraction or exponent stays an integer when it fits: a natural number below `2 ^ 64`, or a
negative one not below `-2 ^ 63`; `-0` is the double negative zero. Every other number is a
double: its digits are gathered into a 64-bit significand as long as it does not overflow
(an integer digit that does not fit is counted in the exponent instead, and the fraction's
digits go on being gathered while they fit), and the double is the
significand's nearest double multiplied or divided once by the nearest double of a power of
ten. A number whose double would be infinite is refused.
-/

namespace Wordbook.Json

/-- The blank characters between tokens. -/
def isSpace (c : Char) : Bool := c == ' ' || c == '\t' || c == '\n' || c == '\r'

/-- The text after the blanks at its front. -/
def skipSpace (cs : List Char) : List Char := cs.dropWhile isSpace

/-- The value of a decimal digit. -/
def digitValue (c : Char) : Nat := c.toNat - '0'.toNat

/-- Four hexadecimal digits as a code unit. -/
def hexUnit (a b c d : Char) : Option Nat := do
  let a ← Hex.digitValue? a
  let b ← Hex.digitValue? b
  let c ← Hex.digitValue? c
  let d ← Hex.digitValue? d
  return ((a * 16 + b) * 16 + c) * 16 + d

/-- The characters of a string up to its closing quote, and the text after the quote. -/
def stringBody : List Char → Option (List Char × List Char)
  | [] => none
  | '"' :: rest => some ([], rest)
  | '\\' :: 'u' :: a :: b :: c :: d :: rest =>
    match hexUnit a b c d with
    | none => none
    | some u =>
      if 0xDC00 ≤ u ∧ u ≤ 0xDFFF then none
      else if 0xD800 ≤ u ∧ u ≤ 0xDBFF then
        match rest with
        | '\\' :: 'u' :: e :: f :: g :: h :: rest' =>
          match hexUnit e f g h with
          | some v =>
            if 0xDC00 ≤ v ∧ v ≤ 0xDFFF then
              (stringBody rest').map fun r =>
                (Char.ofNat (0x10000 + (u - 0xD800) * 0x400 + (v - 0xDC00)) :: r.1, r.2)
            else none
          | none => none
        | _ => none
      else (stringBody rest).map fun r => (Char.ofNat u :: r.1, r.2)
  | '\\' :: e :: rest =>
    let unescaped : Option Char :=
      match e with
      | '"' => some '"'
      | '\\' => some '\\'
      | '/' => some '/'
      | 'b' => some '\x08'
      | 'f' => some '\x0c'
      | 'n' => some '\n'
      | 'r' => some '\r'
      | 't' => some '\t'
      | _ => none
    match unescaped with
    | some c => (stringBody rest).map fun r => (c :: r.1, r.2)
    | none => none
  | c :: rest =>
    if c.toNat < 0x20 then none else (stringBody rest).map fun r => (c :: r.1, r.2)

/-- The largest 64-bit significand. -/
def maxSignificand : Nat := Nat.pow 2 64 - 1

/-- Whether appending a digit would overflow the significand. -/
def wouldOverflow (sig d : Nat) : Bool := sig * 10 + d > maxSignificand

/-- The least and greatest 32-bit exponent. -/
def minExp : Int := -2147483648

/-- The greatest 32-bit exponent. -/
def maxExp : Int := 2147483647

/-- An exponent kept within 32 bits, as an addition that saturates. -/
def saturate (e : Int) : Int := max minExp (min maxExp e)

/-- The double `significand * 10 ^ exponent` by one product or quotient with the nearest
double of a power of ten; `none` if it is infinite. Exponents beyond the table of powers,
which ends at `10 ^ 308`, are brought in range by dividing by `10 ^ 308`, unless the value is
already zero. -/
def fromParts (negative : Bool) (significand : Nat) (exponent : Int) : Option Binary64 :=
  let rec scale : Nat → Binary64 → Int → Option Binary64
    | 0, f, _ => some f
    | fuel + 1, f, e =>
      if e.natAbs ≤ 308 then
        match Binary64.nearestPowTen e.natAbs with
        | none => none
        | some p => if 0 ≤ e then f.mul p else f.div p
      else if f.isZero then some f
      else if 0 ≤ e then none
      else
        match Binary64.nearestPowTen 308 with
        | none => none
        | some p =>
          match f.div p with
          | some g => scale fuel g (e + 308)
          | none => none
  match Binary64.ofNat false significand with
  | none => none
  | some f =>
    (scale (exponent.natAbs / 308 + 1) f exponent).map fun x => { x with negative := negative }

/-- The digits at the front of a text, and the rest. -/
def takeDigits (cs : List Char) : List Char × List Char :=
  (cs.takeWhile Char.isDigit, cs.dropWhile Char.isDigit)

/-- Digits gathered into the significand until it would overflow: the significand, how many
digits it took, and whether some were dropped. -/
def gather : List Char → Nat → Nat × Nat × Bool
  | [], sig => (sig, 0, false)
  | c :: rest, sig =>
    if wouldOverflow sig (digitValue c) then (sig, 0, true)
    else
      let r := gather rest (sig * 10 + digitValue c)
      (r.1, r.2.1 + 1, r.2.2)

/-- The exponent digits as a 32-bit number, or `none` if they overflow it. -/
def exponentValue : List Char → Nat → Option Nat
  | [], acc => some acc
  | c :: rest, acc =>
    let acc' := acc * 10 + digitValue c
    if acc' > 2147483647 then none else exponentValue rest acc'

/-- The number at the front of a text and the text after it. -/
def number? (cs : List Char) : Option (Number × List Char) :=
  let (negative, body) := match cs with
    | '-' :: rest => (true, rest)
    | _ => (false, cs)
  let (intDigits, afterInt) := takeDigits body
  match intDigits with
  | [] => none
  | first :: more =>
    if first = '0' ∧ more ≠ [] then none
    else
      let (sig, used, dropped) := gather intDigits 0
      let intExp : Int := (intDigits.length - used : Nat)
      -- the fraction, if any
      let frac : Option (Nat × Int × List Char) :=
        match afterInt with
        | '.' :: rest =>
          let (fracDigits, afterFrac) := takeDigits rest
          if fracDigits.isEmpty then none
          else
            let (sig', usedFrac, _) := gather fracDigits sig
            some (sig', intExp - usedFrac, afterFrac)
        | _ => some (sig, intExp, afterInt)
      match frac with
      | none => none
      | some (sig, exp, afterFrac) =>
        let isInteger := afterInt.head? != some '.' && !dropped
        match afterFrac with
        | e :: rest =>
          if e = 'e' ∨ e = 'E' then
            let (expNegative, expBody) := match rest with
              | '+' :: r => (false, r)
              | '-' :: r => (true, r)
              | r => (false, r)
            let (expDigits, afterExp) := takeDigits expBody
            if expDigits.isEmpty then none
            else
              match exponentValue expDigits 0 with
              | some n =>
                let total := saturate (if expNegative then exp - n else exp + n)
                (fromParts negative sig total).map fun x => (.float x, afterExp)
              | none =>
                if sig ≠ 0 ∧ !expNegative then none
                else some (.float (Binary64.zero negative), afterExp)
          else if isInteger then some (integer negative sig, afterFrac)
          else (fromParts negative sig exp).map fun x => (.float x, afterFrac)
        | [] =>
          if isInteger then some (integer negative sig, [])
          else (fromParts negative sig exp).map fun x => (.float x, [])
where
  /-- An integer that fits: natural below `2 ^ 64`, negative not below `-2 ^ 63`; otherwise
  the double. -/
  integer (negative : Bool) (sig : Nat) : Number :=
    if !negative then .nat sig
    else if sig = 0 then .float (Binary64.zero true)
    else if sig ≤ Nat.pow 2 63 then .negInt (-(sig : Int))
    else
      match Binary64.ofNat true sig with
      | some x => .float x
      | none => .float (Binary64.zero true)

/-- The deepest nesting of arrays and objects that is read. -/
def maxNesting : Nat := 127

mutual

/-- One value at the front of the text; `room` is how many more arrays or objects may open,
and `fuel` bounds the steps. -/
def valueAt : Nat → Nat → List Char → Option (Value × List Char)
  | 0, _, _ => none
  | fuel + 1, room, cs =>
    match skipSpace cs with
    | 'n' :: 'u' :: 'l' :: 'l' :: rest => some (.null, rest)
    | 't' :: 'r' :: 'u' :: 'e' :: rest => some (.bool true, rest)
    | 'f' :: 'a' :: 'l' :: 's' :: 'e' :: rest => some (.bool false, rest)
    | '"' :: rest => (stringBody rest).map fun r => (.string (String.ofList r.1), r.2)
    | '[' :: rest =>
      match room with
      | 0 => none
      | room + 1 =>
        match skipSpace rest with
        | ']' :: rest' => some (.array [], rest')
        | _ => (itemsAt fuel room rest).map fun r => (.array r.1, r.2)
    | '{' :: rest =>
      match room with
      | 0 => none
      | room + 1 =>
        match skipSpace rest with
        | '}' :: rest' => some (.object [], rest')
        | _ => (fieldsAt fuel room [] rest).map fun r => (.object r.1, r.2)
    | c :: rest =>
      if c = '-' ∨ c.isDigit then (number? (c :: rest)).map fun r => (.number r.1, r.2)
      else none
    | [] => none

/-- The items of an array after its opening bracket, up to and past the closing one. -/
def itemsAt : Nat → Nat → List Char → Option (List Value × List Char)
  | 0, _, _ => none
  | fuel + 1, room, cs =>
    match valueAt fuel room cs with
    | none => none
    | some (v, rest) =>
      match skipSpace rest with
      | ',' :: rest' => (itemsAt fuel room rest').map fun r => (v :: r.1, r.2)
      | ']' :: rest' => some ([v], rest')
      | _ => none

/-- The fields of an object after its opening brace, up to and past the closing one; later
keys replace earlier ones. -/
def fieldsAt : Nat → Nat → List (String × Value) → List Char →
    Option (List (String × Value) × List Char)
  | 0, _, _, _ => none
  | fuel + 1, room, acc, cs =>
    match skipSpace cs with
    | '"' :: rest =>
      match stringBody rest with
      | none => none
      | some (key, afterKey) =>
        match skipSpace afterKey with
        | ':' :: afterColon =>
          match valueAt fuel room afterColon with
          | none => none
          | some (v, rest') =>
            let acc' := insertField (String.ofList key) v acc
            match skipSpace rest' with
            | ',' :: more => fieldsAt fuel room acc' more
            | '}' :: more => some (acc', more)
            | _ => none
        | _ => none
    | _ => none

end

/-- The value a whole text holds, or `none` if the text is not exactly one JSON value with
blanks around it. -/
def parse? (text : String) : Option Value :=
  let cs := text.toList
  match valueAt (2 * cs.length + 2) maxNesting cs with
  | some (v, rest) => if skipSpace rest = [] then some v else none
  | none => none

end Wordbook.Json
