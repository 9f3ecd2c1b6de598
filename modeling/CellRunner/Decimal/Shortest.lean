/-!
# The shortest decimal of a binary fraction

A finite binary fraction stands for the interval of reals that round to it, ends included
when its mantissa is even. Its shortest decimal is the one of fewest digits in that
interval; of two with the same number of digits the nearer is taken, and at equal distances
the greater. It is written without an exponent.
-/

set_option autoImplicit false

namespace CellRunner.Decimal

/-- The value `mantissa * 2 ^ exponent`; `narrow` tells that the gap below it is half the
gap above. -/
structure Binary where
  mantissa : Nat
  exponent : Int
  narrow : Bool
  deriving DecidableEq, Repr

/-- The value whose bits, without the sign, are `bits`; it must be finite. -/
def Binary.ofBits (bits : UInt64) : Binary :=
  let e := ((bits >>> 52) &&& 0x7FF).toNat
  let f := (bits &&& 0xFFFFFFFFFFFFF).toNat
  if e = 0 then ⟨f, -1074, false⟩ else ⟨Nat.pow 2 52 + f, (e : Int) - 1075, f = 0 && e > 1⟩

/-- Compares `a * 10 ^ i` with `n * 2 ^ j`. -/
def compareScaled (a : Nat) (i : Int) (n : Nat) (j : Int) : Ordering :=
  compare (a * Nat.pow 10 i.toNat * Nat.pow 2 (-j).toNat)
    (n * Nat.pow 2 j.toNat * Nat.pow 10 (-i).toNat)

/-- Whether `digits * 10 ^ place` lies in the interval of reals that round to `x`. -/
def Binary.holds (x : Binary) (digits : Nat) (place : Int) : Bool :=
  let low :=
    compareScaled digits place (4 * x.mantissa - if x.narrow then 1 else 2) (x.exponent - 2)
  let high := compareScaled digits place (4 * x.mantissa + 2) (x.exponent - 2)
  let even := x.mantissa % 2 == 0
  (low == .gt || (even && low == .eq)) && (high == .lt || (even && high == .eq))

/-- The greatest `n` with `n * 10 ^ place ≤ x`. -/
def Binary.below (x : Binary) (place : Int) : Nat :=
  (x.mantissa * Nat.pow 2 x.exponent.toNat * Nat.pow 10 (-place).toNat) /
    (Nat.pow 2 (-x.exponent).toNat * Nat.pow 10 place.toNat)

/-- The least `k` with `x < 10 ^ k`, at least `k`; `fuel` bounds the search. -/
def Binary.magnitude (x : Binary) : Nat → Int → Int
  | 0, k => k
  | fuel + 1, k =>
    if compareScaled 1 k x.mantissa x.exponent == .gt then k else magnitude x fuel (k + 1)

/-- The best decimal that is a multiple of `10 ^ place`. -/
def Binary.onGrid (x : Binary) (place : Int) : Option Nat :=
  let n := x.below place
  match x.holds n place, x.holds (n + 1) place with
  | true, true =>
    if compareScaled (2 * n + 1) place (2 * x.mantissa) x.exponent == .gt then some n
    else some (n + 1)
  | true, false => some n
  | false, true => some (n + 1)
  | false, false => none

/-- Digits and place of the shortest decimal. -/
def Binary.shortest (x : Binary) : Nat × Int :=
  let k := x.magnitude 700 (-330)
  let found := (List.range 17).findSome? fun i =>
    let place := k - (i + 1 : Nat)
    (x.onGrid place).map (·, place)
  found.getD (x.below (k - 17), k - 17)

/-- Digits times a power of ten, written with a point and without an exponent. -/
def positional (digits : Nat) (place : Int) : String :=
  if 0 ≤ place then toString (digits * Nat.pow 10 place.toNat) ++ ".0"
  else
    let ds := Nat.toDigits 10 digits
    let places := (-place).toNat
    let padded := List.replicate (places + 1 - ds.length) '0' ++ ds
    let whole := padded.take (padded.length - places)
    let rest := (padded.drop (padded.length - places)).reverse.dropWhile (· == '0')
    String.ofList (whole ++ '.' :: if rest.isEmpty then ['0'] else rest.reverse)

/-- The shortest decimal of the float nearest to `digits * 10 ^ place`; none when that is
beyond all floats. -/
def nearest (digits : Nat) (place : Int) : Option String :=
  let f := Float.ofScientific digits (place < 0) place.natAbs
  if f.isInf then none
  else if f.toBits = 0 then some "0.0"
  else
    let (d, p) := (Binary.ofBits f.toBits).shortest
    some (positional d p)

end CellRunner.Decimal
