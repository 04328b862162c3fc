/-!
# Finite binary64 numbers

A finite IEEE 754 double is a sign and a magnitude `mantissa * 2 ^ exponent` with a mantissa
below `2 ^ 53`. The representation is kept normal: a mantissa below `2 ^ 52` occurs only with
the least exponent `-1074` (zero and the subnormal numbers). Each double then has exactly one
representation, the two zeros apart, which differ in sign.

`Binary64.round` is the one rounding of the library: the double nearest to an exact rational
`num / den * 2 ^ shift`, a tie going to the even mantissa, or `none` when the nearest is an
infinity. Conversion, multiplication and division are that rounding applied to the exact
result, as IEEE 754 requires of them.
-/

namespace Wordbook

/-- A finite double: sign, and magnitude `mantissa * 2 ^ exponent` in normal form. -/
structure Binary64 where
  negative : Bool
  mantissa : Nat
  exponent : Int
  deriving DecidableEq

namespace Binary64

/-- The least exponent, that of the subnormal numbers. -/
def minExponent : Int := -1074

/-- The greatest exponent of a finite double. -/
def maxExponent : Int := 971

/-- Zero with the given sign. -/
def zero (negative : Bool) : Binary64 := ⟨negative, 0, minExponent⟩

/-- `2 ^ k` as an exact fraction: numerator and denominator. -/
def powTwo (k : Int) : Nat × Nat :=
  if 0 ≤ k then (Nat.pow 2 k.toNat, 1) else (1, Nat.pow 2 (-k).toNat)

/-- The greatest `t` with `2 ^ t ≤ a / b`, for positive `a` and `b`. -/
def floorLog2 (a b : Nat) : Int :=
  let t : Int := (a.log2 : Int) - (b.log2 : Int)
  let (pn, pd) := powTwo t
  -- `a / b ≥ 2 ^ t` iff `a * pd ≥ b * pn`
  if b * pn ≤ a * pd then t else t - 1

/-- The nearest integer to `n / d`, a tie going to the even one. -/
def roundHalfEven (n d : Nat) : Nat :=
  let q := n / d
  let r := n % d
  if 2 * r > d then q + 1
  else if 2 * r = d then (if q % 2 = 1 then q + 1 else q)
  else q

/-- The double nearest to `num / den * 2 ^ shift`, a tie going to the even mantissa; `none`
when the magnitude rounds beyond the greatest finite double. -/
def round (negative : Bool) (num den : Nat) (shift : Int) : Option Binary64 :=
  if num = 0 ∨ den = 0 then some (zero negative)
  else
    let (sn, sd) := powTwo shift
    let a := num * sn
    let b := den * sd
    let e := max (floorLog2 a b - 52) minExponent
    let (en, ed) := powTwo e
    let m := roundHalfEven (a * ed) (b * en)
    let (m, e) := if m = Nat.pow 2 53 then (Nat.pow 2 52, e + 1) else (m, e)
    if e > maxExponent then none else some ⟨negative, m, e⟩

/-- The double nearest to a natural number. -/
def ofNat (negative : Bool) (n : Nat) : Option Binary64 := round negative n 1 0

/-- The double nearest to the product. -/
def mul (x y : Binary64) : Option Binary64 :=
  round (x.negative != y.negative) (x.mantissa * y.mantissa) 1 (x.exponent + y.exponent)

/-- The double nearest to the quotient; `none` for a zero divisor. -/
def div (x y : Binary64) : Option Binary64 :=
  if y.mantissa = 0 then none
  else round (x.negative != y.negative) x.mantissa y.mantissa (x.exponent - y.exponent)

/-- Whether the magnitude is zero. -/
def isZero (x : Binary64) : Bool := x.mantissa == 0

/-- The same magnitude with the other sign. -/
def neg (x : Binary64) : Binary64 := { x with negative := !x.negative }

/-- The double nearest to `10 ^ k`. -/
def nearestPowTen (k : Nat) : Option Binary64 := ofNat false (Nat.pow 10 k)

example : round false 1 1 0 = some ⟨false, Nat.pow 2 52, -52⟩ := by decide

end Binary64

end Wordbook
