import CellRunner.Decimal.Fixed
import CellRunner.Shell.Format
import CellRunner.Tool.Options

/-!
# Rows of numbers

Numbers are exact decimals. They are written with as many places as the first number and the
step have, unless a format says otherwise.
-/

set_option autoImplicit false

namespace CellRunner.Tool

open Machine (Prog)
open Shell (Text)
open Shell.Format (Floating)

namespace Sequence

/-- A number in an argument, with the width and the places it is written with. -/
structure Operand where
  /-- the value times a power of ten -/
  digits : Int
  place : Nat
  width : Nat
  /-- none if the number is not written in a plain way -/
  places : Option Nat
  infinite : Bool := false

def isBlank (c : Char) : Bool := c = ' ' || ('\t' ≤ c && c ≤ '\r')

/-- A finite number as a whole number over a power of ten. -/
def exact (negative : Bool) (digits places : Nat) (exponent : Int) : Int × Nat :=
  let n : Int := if negative then -(digits : Int) else digits
  let p : Int := places - exponent
  if p ≥ 0 then (n, p.toNat) else (n * Int.pow 10 (-p).toNat, 0)

def operand? (arg : Text) : Option Operand :=
  let cs := arg.dropWhile fun c => isBlank c || c = '+'
  let negative := cs.head? = some '-'
  let ds := if negative then cs.drop 1 else cs
  let lower := String.ofList (ds.map Char.toLower)
  if lower = "inf" || lower = "infinity" then
    some { digits := if negative then -1 else 1, place := 0, width := 0, places := none
           infinite := true }
  else
    match Shell.Format.decimalAt ds with
    | none => none
    | some (digits, places, rest) =>
      let (exponent, rest) := Shell.Format.exponentAt rest
      if !rest.isEmpty then none
      else
        let (n, p) := exact negative digits places exponent
        let hasPoint := ds.contains '.'
        let whole := ds.takeWhile (· != '.')
        let mantissa := (ds.takeWhile fun c => c != 'e' && c != 'E').length
        let width : Int := (if negative then 1 else 0) + mantissa +
          (if !hasPoint then 0 else if places = 0 then -1 else if whole.isEmpty then 1 else 0)
        let shownPlaces : Nat := if exponent < 0 then places + exponent.natAbs
          else places - exponent.toNat
        let width : Int := if exponent < 0 then width + exponent.natAbs
          else width + exponent - min places exponent.toNat
        some { digits := n, place := p, width := width.toNat, places := some shownPlaces }

/-- The numbers of all operands over one power of ten. -/
structure Progression where
  first : Int
  step : Int
  last : Option Int
  place : Nat

def raise (place : Nat) (o : Operand) : Int := o.digits * Int.pow 10 (place - o.place)

def progression (first step last : Operand) : Progression :=
  let place := max first.place (max step.place last.place)
  { first := raise place first, step := raise place step
    last := if last.infinite then none else some (raise place last), place }

def Progression.isBeyond (p : Progression) (upward : Bool) (n : Int) : Bool :=
  match p.last with
  | some l => if upward then n > l else n < l
  | none => !upward

/-! ### Formats -/

/-- A format with one directive, and what stands around it. -/
structure Format where
  front : Text
  field : Shell.Format.Field
  kind : Char
  back : Text

/-- Plain text up to a directive, with doubled signs made single. -/
def plain : Text → Text × Text
  | '%' :: '%' :: cs =>
    let (a, rest) := plain cs
    ('%' :: a, rest)
  | '%' :: cs => ([], '%' :: cs)
  | c :: cs =>
    let (a, rest) := plain cs
    (c :: a, rest)
  | [] => ([], [])

def format? (cs : Text) : Except Text Format :=
  let about (s : String) : Text := "format ".toList ++ quoted cs ++ s.toList
  match plain cs with
  | (_, []) => .error (about " has no % directive")
  | (front, _ :: rest) =>
    let (d, after) := Shell.Format.directive ['L'] rest
    match d.kind with
    | none => .error (about " ends in %")
    | some kind =>
      if !"efgaEFGA".toList.contains kind then
        .error (about " has unknown %" ++ kind :: " directive".toList)
      else
        match plain after with
        | (back, []) =>
          let number : Shell.Format.Amount → Nat
            | .number n => n
            | .argument => 0
          .ok { front, back, kind
                field := { directive := d, width := number d.width
                           precision := d.precision.map number } }
        | _ => .error (about " has too many % directives")

def Format.show_ (f : Format) (n : Int) (place : Nat) : Text :=
  let x : Floating := .finite (n < 0) ⟨n.natAbs, Nat.pow 10 place⟩
  f.front ++ Shell.Format.real f.field f.kind x ++ f.back

/-- A number with some places in a width that zeros fill. -/
def usual (places width : Nat) : Format :=
  { front := [], back := [], kind := 'f'
    field := { directive := { zero := true }, width, precision := some places } }

def general : Format :=
  { front := [], back := [], kind := 'g', field := { directive := {}, width := 0, precision := none } }

def formatOf (equal : Bool) (first step last : Operand) : Format :=
  match first.places, step.places, last.places with
  | some a, some b, some c =>
    let places := max a b
    let w (o : Operand) (p : Nat) : Int := o.width + places - p
    let first_ := w first a + (if a = 0 && places > 0 then 1 else 0)
    let last_ := w last c + (if c > 0 && places = 0 then -1 else 0) +
      (if c = 0 && places > 0 then 1 else 0)
    usual places (if equal then (max first_ last_).toNat else 0)
  | some a, some b, none => usual (max a b) 0
  | _, _, _ => general

/-- Writes the numbers with separators between them. -/
def loop (p : Progression) (f : Format) (sep : Text) : Nat → Bool → Int → Run Unit
  | 0, _, _ => return ()
  | fuel + 1, isFirst, n => do
    if p.isBeyond (p.step ≥ 0) n then
      if !isFirst then out ['\n']
    else
      if !isFirst then out sep
      out (f.show_ n p.place)
      loop p f sep fuel false (n + p.step)

/-- Arguments up to the first that begins a number; numbers may begin with a dash. -/
def shielded : List Text → List Text
  | [] => []
  | a :: rest =>
    match a with
    | '-' :: c :: _ => if c.isDigit || c = '.' then ['-', '-'] :: a :: rest else a :: shielded rest
    | ['-'] => a :: rest
    | _ => a :: shielded rest

/-- As `shielded`, but leaves the value of an option alone. -/
def shieldedFrom : List Text → List Text
  | ['-', c] :: v :: rest =>
    if c = 's' || c = 'f' then ['-', c] :: v :: shieldedFrom rest
    else shielded (['-', c] :: v :: rest)
  | a :: rest =>
    match a with
    | '-' :: c :: _ =>
      if c.isDigit || c = '.' then ['-', '-'] :: a :: rest else a :: shieldedFrom rest
    | _ => ['-', '-'] :: a :: rest
  | [] => []

end Sequence

open Sequence in
def seq : Tool := do
  modify fun d => { d with call := { d.call with args := shieldedFrom d.call.args } }
  let (os, operands) ← readOptions <| .make "f:s:w"
    [("format", 'f'), ("separator", 's'), ("equal-width", 'w')] true
  if operands.isEmpty then misuse "missing operand".toList
  atMost 3 operands
  let read (a : Text) : Run Operand := do
    match operand? a with
    | some o => return o
    | none =>
      if (String.ofList (a.map Char.toLower)).endsWith "nan" then
        misuse ("invalid ".toList ++ quoted "not-a-number".toList ++ " argument: ".toList ++
          quoted a)
      else misuse ("invalid floating point argument: ".toList ++ quoted a)
  let one : Operand := { digits := 1, place := 0, width := 1, places := some 0 }
  let format ← match valueOf? 'f' os with
    | none => pure none
    | some v =>
      match format? v with
      | .ok f => pure (some f)
      | .error m => fail m
  if format.isSome && has "w" os then
    misuse "format string may not be specified when printing equal width strings".toList
  let (first, step, last) ← match operands with
    | [b] => pure (one, one, ← read b)
    | [a, b] =>
      let a ← read a
      pure (a, one, ← read b)
    | a :: s :: b :: _ =>
      let a ← read a
      let s' ← read s
      if s'.digits = 0 then misuse ("invalid Zero increment value: ".toList ++ quoted s)
      pure (a, s', ← read b)
    | [] => pure (one, one, one)
  let f := format.getD (formatOf (has "w" os) first step last)
  let p := progression first step last
  loop p f ((valueOf? 's' os).getD ['\n']) Prog.fuel true p.first
  return 0

end CellRunner.Tool
