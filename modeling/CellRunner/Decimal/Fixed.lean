/-!
# Decimals with a fixed number of digits

A binary number is a fraction with a power of two below the line, or a whole number. It is
written with a number of decimal places or of digits, rounded to the nearest; of two nearest
decimals the one with an even last digit is taken.
-/

set_option autoImplicit false

namespace CellRunner.Decimal

/-- The non-negative number `top / bottom`. -/
structure Fraction where
  top : Nat
  bottom : Nat := 1
  deriving DecidableEq, Repr

namespace Fraction

/-- The nearest whole number to a quotient; a half goes to the even neighbour. -/
def nearest (top bottom : Nat) : Nat :=
  let q := top / bottom
  let r := 2 * (top % bottom)
  if r > bottom || (r = bottom && q % 2 = 1) then q + 1 else q

/-- `digits * 10 ^ place`. -/
def ofDecimal (digits : Nat) (place : Int) : Fraction :=
  if place ≥ 0 then ⟨digits * Nat.pow 10 place.toNat, 1⟩ else ⟨digits, Nat.pow 10 (-place).toNat⟩

/-- The power of two such that a positive number has `bits` binary digits before the point
when it is divided by it. -/
def scale (bits : Nat) (x : Fraction) : Int :=
  let guess : Int := (Nat.log2 x.top : Int) - (Nat.log2 x.bottom : Int) - bits
  let reaches (e : Int) : Bool :=
    if e ≥ 0 then x.top ≥ x.bottom * Nat.pow 2 (bits - 1) * Nat.pow 2 e.toNat
    else x.top * Nat.pow 2 (-e).toNat ≥ x.bottom * Nat.pow 2 (bits - 1)
  if reaches (guess + 2) then guess + 2
  else if reaches (guess + 1) then guess + 1
  else guess

/-- The nearest number with at most `bits` binary digits, the last of which has at least the
place `least`. -/
def toBinary (bits : Nat) (least : Int) (x : Fraction) : Fraction :=
  if x.top = 0 || x.bottom = 0 then ⟨0, 1⟩
  else
    let e := max least (x.scale bits)
    if e ≥ 0 then ⟨nearest x.top (x.bottom * Nat.pow 2 e.toNat) * Nat.pow 2 e.toNat, 1⟩
    else ⟨nearest (x.top * Nat.pow 2 (-e).toNat) x.bottom, Nat.pow 2 (-e).toNat⟩

/-- The nearest double-precision number. -/
def toDouble (x : Fraction) : Fraction := x.toBinary 53 (-1074)

/-- The nearest extended-precision number. -/
def toExtended (x : Fraction) : Fraction := x.toBinary 64 (-16445)

/-- The digits of the nearest multiple of `10 ^ -places`. -/
def rounded (x : Fraction) (places : Int) : Nat :=
  if places ≥ 0 then nearest (x.top * Nat.pow 10 places.toNat) x.bottom
  else nearest x.top (x.bottom * Nat.pow 10 (-places).toNat)

/-- Decimal digits, with zeros in front up to `width`. -/
def padded (width n : Nat) : List Char :=
  let ds := Nat.toDigits 10 n
  List.replicate (width - ds.length) '0' ++ ds

/-- Whole part and `places` digits after it. -/
def positional (x : Fraction) (places : Nat) : List Char × List Char :=
  let ds := padded (places + 1) (x.rounded places)
  (ds.take (ds.length - places), ds.drop (ds.length - places))

/-- The exponent of ten of the first digit, with `digits` digits in all after rounding, and the
digits. -/
def scientific (x : Fraction) (digits : Nat) : Int × List Char :=
  if x.top = 0 then (0, List.replicate digits '0')
  else
    let guess : Int :=
      (Nat.toDigits 10 x.top).length - (Nat.toDigits 10 x.bottom).length
    let try_ (e : Int) : Nat := x.rounded ((digits : Int) - 1 - e)
    let fits (e : Int) : Bool := (Nat.toDigits 10 (try_ e)).length ≤ digits
    let e := if fits (guess - 1) then guess - 1 else if fits guess then guess else guess + 1
    (e, padded digits (try_ e))

end Fraction

end CellRunner.Decimal
