import CellRunner.Decimal.Shortest
import CellRunner.Shell.Format

/-!
# Numbers of records

Calculations are done with doubles; reading and writing them goes through exact fractions.
-/

set_option autoImplicit false

namespace CellRunner.Tool.Records

open Shell (Text)
open Shell.Format (Floating)
open Decimal (Fraction Binary)

/-- The double nearest to a fraction. -/
def ofFraction (x : Fraction) : Float :=
  let x := x.toDouble
  if x.top = 0 then 0
  else if x.bottom = 1 then
    let e := Nat.log2 x.top - 52
    (Float.ofNat (x.top / Nat.pow 2 e)).scaleB e
  else (Float.ofNat x.top).scaleB (-(Nat.log2 x.bottom : Int))

def infinity : Float := 1.0 / 0.0

def ofReal : Floating → Float
  | .finite negative x => if negative then -(ofFraction x) else ofFraction x
  | .infinite negative => if negative then -infinity else infinity
  | .notANumber _ => 0.0 / 0.0

/-- The fraction that a finite double is, without its sign. -/
def toFraction (x : Float) : Fraction :=
  let b := Binary.ofBits (x.abs.toBits)
  if b.exponent ≥ 0 then ⟨b.mantissa * Nat.pow 2 b.exponent.toNat, 1⟩
  else ⟨b.mantissa, Nat.pow 2 (-b.exponent).toNat⟩

def toReal (x : Float) : Floating :=
  if x.isNaN then .notANumber true
  else if x.isInf then .infinite (x < 0)
  else .finite (x.toBits >>> 63 == 1) (toFraction x)

/-- A finite double without its places. -/
def whole (x : Float) : Int :=
  if x.abs < 9007199254740992.0 then
    if x < 0 then -((-x).toUInt64.toNat : Int) else x.toUInt64.toNat
  else
    let f := toFraction x
    let n := f.top / f.bottom
    if x < 0 then -(n : Int) else n

/-- As `whole`, within a range, for places in texts and numbers of fields. -/
def place (x : Float) : Int :=
  if x.isNaN then -2147483648
  else if x ≥ 2147483647.0 then 2147483647
  else if x ≤ -2147483648.0 then -2147483648
  else whole x

def isWhole (x : Float) : Bool :=
  x.abs ≤ 9223372036854775808.0 && x.floor == x

def ofInt (n : Int) : Float := if n < 0 then -(Float.ofNat n.natAbs) else Float.ofNat n.natAbs

/-- The number that a text begins with; zero if there is none. -/
def numberAt (cs : Text) : Float :=
  match Shell.Format.realAt cs with
  | some (x, _) => ofReal x
  | none => 0

/-- The number that a whole text is, blanks around it aside. -/
def number? (cs : Text) : Option Float :=
  let isBlank (c : Char) : Bool := Shell.Format.isSpace c
  let front := cs.dropWhile isBlank
  let starts := match front with
    | c :: _ => c.isDigit || c = '+' || c = '-' || c = '.'
    | [] => false
  let ends := match (front.reverse.dropWhile isBlank).head? with
    | some c => c.isDigit || c = '.'
    | none => false
  if !starts || !ends then none
  else
    match Shell.Format.realAt front with
    | some (x, rest) =>
      match x with
      | .finite _ _ => if rest.all isBlank then some (ofReal x) else none
      | _ => none
    | none => none

/-- The remainder of a division, with the sign of the dividend. -/
def remainderOf (x y : Float) : Float :=
  if x.isNaN || y.isNaN || x.isInf || y == 0 then 0.0 / 0.0
  else if y.isInf then x
  else
    let a := toFraction x
    let b := toFraction y
    -- over one denominator the remainder is that of whole numbers
    let top := (a.top * b.bottom) % (b.top * a.bottom)
    let r := ofFraction ⟨top, a.bottom * b.bottom⟩
    if x < 0 then -r else r

end CellRunner.Tool.Records
