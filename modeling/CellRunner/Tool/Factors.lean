import CellRunner.Tool.Amount

/-!
# Prime factors
-/

set_option autoImplicit false

namespace CellRunner.Tool

open Machine (Prog)
open Shell (Text)

namespace Factors

/-- A power modulo `m`. -/
def powMod (m : Nat) : Nat → Nat → Nat
  | b, e =>
    if h : e = 0 then 1 % m
    else
      let half := powMod m (b * b % m) (e / 2)
      if e % 2 = 1 then half * b % m else half
termination_by _ e => e
decreasing_by omega

/-- A number as a power of two times an odd one. -/
def evenPart : Nat → Nat → Nat × Nat
  | 0, n => (0, n)
  | fuel + 1, n =>
    if n % 2 = 0 && n > 0 then
      let (s, d) := evenPart fuel (n / 2)
      (s + 1, d)
    else (0, n)

/-- Whether squaring `x` up to `fuel` times gives the number before `n`. -/
def reachesLast (n : Nat) : Nat → Nat → Bool
  | 0, _ => false
  | fuel + 1, x => x = n - 1 || reachesLast n fuel (x * x % n)

/-- Bases that tell primes from other numbers. -/
def bases : List Nat := [2, 3, 5, 7, 11, 13, 17, 19, 23, 29, 31, 37, 41, 43, 47, 53, 59, 61, 67, 71]

def isPrime (n : Nat) : Bool :=
  if n < 2 then false
  else if bases.contains n then true
  else
    let (s, d) := evenPart n.log2 (n - 1)
    bases.all fun b =>
      let x := powMod n b d
      n % b != 0 && (x = 1 || reachesLast n s x)

/-- A divisor found by two runs through the same row of numbers, one twice as fast. -/
def collide (n c : Nat) : Nat → Nat → Nat → Nat
  | 0, _, _ => n
  | fuel + 1, x, y =>
    let next (v : Nat) : Nat := (v * v + c) % n
    let x := next x
    let y := next (next y)
    let g := Nat.gcd (if x < y then y - x else x - y) n
    if g = 1 then collide n c fuel x y else g

/-- How long the runs may be. -/
def patience : Nat := 4000000

/-- A divisor of a number that is not prime. -/
def divisor (n : Nat) : Nat → Nat → Nat
  | 0, _ => n
  | fuel + 1, c =>
    let g := collide n c patience 2 2
    if g = n then divisor n fuel (c + 1) else g

/-- The prime factors of a number without small ones; `fuel` bounds their number. -/
def largeFactors : Nat → Nat → List Nat
  | 0, n => [n]
  | fuel + 1, n =>
    if n = 1 then []
    else if isPrime n then [n]
    else
      let g := divisor n 20 1
      if g = n then [n] else largeFactors fuel g ++ largeFactors fuel (n / g)

/-- The factors of a number up to some bound, and what is left. -/
def smallFactors (bound : Nat) : Nat → Nat → Nat → List Nat × Nat
  | 0, _, n => ([], n)
  | fuel + 1, p, n =>
    if p > bound || n = 1 then ([], n)
    else if p * p > n then ([n], 1)
    else if n % p = 0 then
      let (ps, n) := smallFactors bound fuel p (n / p)
      (p :: ps, n)
    else smallFactors bound fuel (if p = 2 then 3 else p + 2) n

/-- The prime factors of a number in order. -/
def of (n : Nat) : List Nat :=
  if n < 2 then []
  else
    let bound := 5000
    let (small, rest) := smallFactors bound (bound + n.log2 + 2) 2 n
    small ++ (largeFactors (n.log2 + 1) rest).mergeSort (· ≤ ·)

/-- Equal factors side by side, with their number. -/
def grouped : List Nat → List (Nat × Nat)
  | [] => []
  | p :: ps =>
    match grouped ps with
    | (q, k) :: rest => if p = q then (q, k + 1) :: rest else (p, 1) :: (q, k) :: rest
    | [] => [(p, 1)]

/-- The number that a text spells, after blanks and a plus. -/
def number? (cs : Text) : Option Nat :=
  let cs := cs.dropWhile (· = ' ')
  natural? (if cs.head? = some '+' then cs.tail else cs)

def tellOf (exponents : Bool) (cs : Text) : Run Nat := do
  match number? cs with
  | none =>
    complain (quoted cs ++ " is not a valid positive integer".toList)
    return 1
  | some n =>
    let shown := if exponents then
        (grouped (of n)).map fun (p, k) => ofNat p ++ (if k > 1 then '^' :: ofNat k else [])
      else (of n).map ofNat
    out (ofNat n ++ ':' :: shown.flatMap (' ' :: ·) ++ ['\n'])
    return 0

end Factors

/-- The words of a text between blanks. -/
def wordsOf (cs : Text) : List Text :=
  (cs.splitOnP fun c => c = ' ' || c = '\t' || c = '\n').filter (!·.isEmpty)

def factor : Tool := do
  let (os, operands) ← readOptions (.make "h" [("exponents", 'h')])
  let numbers ← if operands.isEmpty then do
      match ← contents ['-'] with
      | .ok cs => pure (wordsOf cs)
      | .error e => fail ("error reading input: ".toList ++ Shell.ofString e.text)
    else pure operands
  forEach numbers (Factors.tellOf (has "h" os))

end CellRunner.Tool
