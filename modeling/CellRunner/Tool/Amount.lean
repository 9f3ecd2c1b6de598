import CellRunner.Shell.Format
import CellRunner.Tool.Options

/-!
# Amounts

Numbers in arguments may end in a unit.
-/

set_option autoImplicit false

namespace CellRunner.Tool

open Shell (Text)

/-- The whole decimal number that a text spells without a sign. -/
def natural? (cs : Text) : Option Nat :=
  if !cs.isEmpty && cs.all Char.isDigit then some (Shell.Format.decimal cs) else none

/-- The powers that letters stand for. -/
def powerOf? (c : Char) : Option Nat :=
  if c = 'k' then some 1
  else ("KMGTPEZYRQ".toList.idxOf? c).map (· + 1)

/-- How many bytes a unit stands for: blocks, or powers of 1024, or of 1000 before a `B`. -/
def unit? : Text → Option Nat
  | [] => some 1
  | ['b'] => some 512
  | [c] => (powerOf? c).map (Nat.pow 1024)
  | [c, 'B'] => (powerOf? c).map (Nat.pow 1000)
  | [c, 'i', 'B'] => (powerOf? c).map (Nat.pow 1024)
  | _ => none

/-- A number with a unit. -/
def sized? (cs : Text) : Option Nat :=
  let (digits, rest) := cs.span Char.isDigit
  if digits.isEmpty then
    match cs with
    | [] => none
    | _ => if cs = ['b'] then none else unit? cs
  else (unit? rest).map (Shell.Format.decimal digits * ·)

/-- An amount with a sign before it. -/
structure Signed where
  sign : Option Char
  amount : Nat
  deriving DecidableEq, Repr

def Signed.of? (cs : Text) : Option Signed :=
  match cs with
  | '-' :: rest => (sized? rest).map fun n => ⟨some '-', n⟩
  | '+' :: rest => (sized? rest).map fun n => ⟨some '+', n⟩
  | _ => (sized? cs).map fun n => ⟨none, n⟩

end CellRunner.Tool
