import Wordbook.Number.Binary64

/-!
# Shortest decimal form of a double

`Binary64.shortest` gives the decimal digits of a nonzero double: the fewest significant
digits whose value rounds back to the double, and of those the one nearest to it. The values
that round back to a double form an interval around it that reaches halfway to each
neighbour, ends included exactly when the mantissa is even; below a power of two the lower
neighbour is nearer. For `n = 1, 2, …, 17` the search looks at the multiples of the `n`-digit
grid step inside that interval; the first `n` with one wins.

`jsonText` writes those digits as JSON output and value complaints show them: positional
from `1e-5` up to `1e16`, with `.0` after an integer, and otherwise one digit, the remaining
digits after a point, `e` and the signed exponent (`1e+21`, `1.5e-7`).
-/

namespace Wordbook.Binary64

/-- The number of decimal digits of a positive number. -/
def digitCount (n : Nat) : Nat := (Nat.toDigits 10 n).length

/-- `10 ^ k` as an exact fraction: numerator and denominator. -/
def powTenFraction (k : Int) : Nat × Nat :=
  if 0 ≤ k then (Nat.pow 10 k.toNat, 1) else (1, Nat.pow 10 (-k).toNat)

/-- The greatest `t` with `10 ^ t ≤ a / b`, for positive `a` and `b`. -/
def floorLog10 (a b : Nat) : Int :=
  let t : Int := (digitCount a : Int) - (digitCount b : Int)
  let (tn, td) := powTenFraction t
  if b * tn ≤ a * td then t else t - 1

/-- The least integer at or above `n / d` (strictly above when `strict`). -/
def ceilDiv (n d : Nat) (strict : Bool) : Nat :=
  if strict then n / d + 1 else (n + d - 1) / d

/-- The greatest integer at or below `n / d` (strictly below when `strict`). -/
def floorDiv (n d : Nat) (strict : Bool) : Int :=
  if strict ∧ n % d = 0 then (n / d : Nat) - 1 else (n / d : Nat)

/-- The digits on the grid `10 ^ g` nearest to the double among those whose value rounds back
to it, if the grid has any. -/
def onGrid (x : Binary64) (g : Int) : Option Nat :=
  let m := x.mantissa
  let lowerGap := if m = Nat.pow 2 52 ∧ x.exponent > minExponent then 1 else 2
  let strict := m % 2 = 1
  -- positions in units of `2 ^ (exponent - 2)`, then divided by `10 ^ g`
  let (pn, pd) := powTwo (x.exponent - 2)
  let (tn, td) := powTenFraction (-g)
  let scale (u : Nat) := u * pn * tn
  let den := pd * td
  let lo := ceilDiv (scale (4 * m - lowerGap)) den strict
  let hi := floorDiv (scale (4 * m + 2)) den strict
  if (lo : Int) ≤ hi then
    let v := scale (4 * m)
    let nearest := roundHalfEven v den
    some (if nearest < lo then lo else if (nearest : Int) > hi then hi.toNat else nearest)
  else none

/-- Digits and exponent with the trailing zeros of the digits moved into the exponent. -/
def dropTrailingZeros : Nat → Nat × Int → Nat × Int
  | 0, de => de
  | fuel + 1, (d, k) =>
    if d ≠ 0 ∧ d % 10 = 0 then dropTrailingZeros fuel (d / 10, k + 1) else (d, k)

/-- The shortest digits `d` and exponent `k` of a nonzero double: `d * 10 ^ k` is the decimal
with the fewest significant digits that rounds back to it, the nearest such. -/
def shortest (x : Binary64) : Nat × Int :=
  let (pn, pd) := powTwo x.exponent
  let top := floorLog10 (x.mantissa * pn) pd
  let grids := (List.range 17).map fun (n : Nat) => top - (n : Int)
  let found := grids.findSome? fun g => (onGrid x g).map fun d => (d, g)
  let (d, g) := found.getD ((onGrid x (top - 16)).getD 0, top - 16)
  dropTrailingZeros (digitCount d) (d, g)

/-- The decimal digits of a natural number, as characters. -/
def digitChars (n : Nat) : List Char := Nat.toDigits 10 n

/-- A run of zeros. -/
def zeros (n : Nat) : List Char := List.replicate n '0'

/-- The sign, if negative. -/
def signChars (x : Binary64) : List Char := if x.negative then ['-'] else []

/-- The JSON layout of a double: positional for decimal exponents from -5 to 15, with `.0`
after an integer; otherwise one digit, a point and the other digits if any, then `e` and the
exponent, with `+` before a positive one. -/
def jsonText (x : Binary64) : String :=
  if x.isZero then String.ofList (signChars x ++ "0.0".toList)
  else
    let (d, k) := x.shortest
    let ds := digitChars d
    let len : Int := ds.length
    let kk := len + k
    let body :=
      if 0 ≤ k ∧ kk ≤ 16 then ds ++ zeros k.toNat ++ ['.', '0']
      else if 0 < kk ∧ kk ≤ 16 then ds.take kk.toNat ++ '.' :: ds.drop kk.toNat
      else if -5 < kk ∧ kk ≤ 0 then '0' :: '.' :: zeros (-kk).toNat ++ ds
      else
        let exp := (if kk - 1 > 0 then "+" else "").toList ++ (toString (kk - 1)).toList
        match ds with
        | [c] => c :: 'e' :: exp
        | c :: rest => c :: '.' :: rest ++ 'e' :: exp
        | [] => exp
    String.ofList (signChars x ++ body)

end Wordbook.Binary64
