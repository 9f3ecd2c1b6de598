import CellRunner.Shell.Source

/-!
# Alternatives in braces

A word with texts between braces stands for several words, one for each text, or for each
member of a sequence.
-/

set_option autoImplicit false

namespace CellRunner.Shell.Braces

open Parser (openBrace closeBrace)

/-- The parts up to the brace that closes, cut at the commas between, and the parts after it. -/
def group : Nat → Word → Word → Option (List Word × Word)
  | _, [], _ => none
  | depth, p :: ps, out =>
    if p.isChar closeBrace then
      if depth = 0 then some ([out.reverse], ps) else group (depth - 1) ps (p :: out)
    else if p.isChar openBrace then group (depth + 1) ps (p :: out)
    else if p.isChar ',' && depth = 0 then
      (group 0 ps []).map fun (ws, rest) => (out.reverse :: ws, rest)
    else group depth ps (p :: out)

/-- A whole number with its sign, and whether zeros stand in front. -/
def number? (cs : Text) : Option Int :=
  let (negative, ds) := match cs with
    | '-' :: ds => (true, ds)
    | '+' :: ds => (false, ds)
    | ds => (false, ds)
  if ds.isEmpty || !ds.all Char.isDigit then none
  else
    let n : Nat := ds.foldl (fun n c => n * 10 + (c.toNat - 48)) 0
    some (if negative then -(n : Int) else n)

/-- The numbers from one to another by steps. -/
def steps (a b step : Int) : List Int :=
  let size : Nat := if step = 0 then 1 else step.natAbs
  let count : Nat := (b - a).natAbs / size + 1
  (List.range count).map fun (i : Nat) =>
    if a ≤ b then a + (i : Int) * size else a - (i : Int) * size

def digitsOf (cs : Text) : Text := cs.dropWhile fun c => c = '-' || c = '+'

/-- A number with zeros in front up to a width. -/
def padded (width : Nat) (n : Int) : Text :=
  let ds := Nat.toDigits 10 n.natAbs
  let front : Text := if n < 0 then ['-'] else []
  front ++ List.replicate (width - front.length - ds.length) '0' ++ ds

def letter? : Text → Option Char
  | [c] => if c.isAlpha then some c else none
  | _ => none

/-- The members of a sequence such as `1..9` or `a..e..2`. -/
def sequence? (cs : Text) : Option (List Text) :=
  let (a, b, step) := match (String.ofList cs).splitOn ".." with
    | [a, b] => (a.toList, b.toList, some 1)
    | [a, b, c] => (a.toList, b.toList, number? c.toList)
    | _ => ([], [], none)
  match step, number? a, number? b with
  | some step, some x, some y =>
    let hasZeros (cs : Text) : Bool := (digitsOf cs).length > 1 && (digitsOf cs).head? = some '0'
    let width := if hasZeros a || hasZeros b then max a.length b.length else 0
    some ((steps x y step).map (padded width))
  | some step, _, _ =>
    match letter? a, letter? b with
    | some x, some y => some ((steps x.toNat y.toNat step).map fun n => [Char.ofNat n.toNat])
    | _, _ => none
  | none, _, _ => none

def literal (ps : Word) : Option Text :=
  ps.mapM fun
    | .char c false => some c
    | _ => none

/-- The words that a word with braces stands for; `fuel` bounds the parts. -/
def words : Nat → Word → List Word
  | 0, ps => [ps]
  | _ + 1, [] => [[]]
  | fuel + 1, p :: ps =>
    let plain := (words fuel ps).map (p :: ·)
    if !p.isChar openBrace then plain
    else
      match group 0 ps [] with
      | none => plain
      | some ([only], rest) =>
        match (literal only).bind sequence? with
        | some items =>
          let after := words fuel rest
          items.flatMap fun i => after.map (i.map (.char · false) ++ ·)
        | none => plain
      | some (choices, rest) =>
        let after := words fuel rest
        (choices.flatMap (words fuel)).flatMap fun w => after.map (w ++ ·)

def expand (ps : Word) : List Word :=
  if ps.any (·.isChar openBrace) then words (ps.length + 1) ps else [ps]

end CellRunner.Shell.Braces
