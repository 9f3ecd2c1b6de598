import CellRunner.Shell.State

/-!
# Arithmetic

Integers of 64 bits with a sign; sums and products wrap, and quotients go towards zero. An
expression of the plain dialect is evaluated while it is read, and what has no effect on the
result is read only.
-/

set_option autoImplicit false

namespace CellRunner.Shell.Arithmetic

def wrap (n : Int) : Int := Int.bmod n (Nat.pow 2 64)

def truth (b : Bool) : Int := if b then 1 else 0

def bits (f : BitVec 64 → BitVec 64 → BitVec 64) (a b : Int) : Int :=
  (f (BitVec.ofInt 64 a) (BitVec.ofInt 64 b)).toInt

/-- The value of an operation; none for a division by zero. -/
def operate (o : String) (a b : Int) : Option Int :=
  match o with
  | "+" => some (wrap (a + b))
  | "-" => some (wrap (a - b))
  | "*" => some (wrap (a * b))
  | "/" => if b = 0 then none else some (wrap (Int.tdiv a b))
  | "%" => if b = 0 then none else some (Int.tmod a b)
  | "<" => some (truth (a < b))
  | "<=" => some (truth (a ≤ b))
  | ">" => some (truth (a > b))
  | ">=" => some (truth (a ≥ b))
  | "==" => some (truth (a == b))
  | "!=" => some (truth (a != b))
  | "&" => some (bits (· &&& ·) a b)
  | "|" => some (bits (· ||| ·) a b)
  | "^" => some (bits (· ^^^ ·) a b)
  | "<<" => some (wrap (a * Int.pow 2 (b % 64).toNat))
  | ">>" => some (a >>> (b % 64).toNat)
  | _ => some b

/-- A number with its sign, within the range. -/
def clamped (negative : Bool) (n : Nat) : Int := (Format.clampSigned negative n).1

inductive Symbol where
  | number (n : Int)
  | name (s : Text)
  | operator (s : String)
  /-- a character without a meaning -/
  | bad
  | finish
  deriving DecidableEq, Repr

/-- Operators, those that begin with another one first. -/
def operators : List String :=
  ["<<=", ">>=", "&&", "||", "==", "!=", "<=", ">=", "<<", ">>", "+=", "-=", "*=", "/=", "%=",
    "&=", "|=", "^=", "+", "-", "*", "/", "%", "<", ">", "=", "!", "~", "&", "|", "^", "(", ")",
    "?", ":"]

/-- How tightly an operator binds; smaller numbers bind tighter. -/
def strength? : String → Option Nat
  | "*" => some 0
  | "/" => some 0
  | "%" => some 0
  | "+" => some 1
  | "-" => some 1
  | "<<" => some 2
  | ">>" => some 2
  | "<" => some 3
  | "<=" => some 3
  | ">" => some 3
  | ">=" => some 3
  | "==" => some 4
  | "!=" => some 4
  | "&" => some 5
  | "^" => some 6
  | "|" => some 7
  | _ => none

/-- The operation in an assignment, empty for a plain one. -/
def assignment? : Symbol → Option String
  | .operator "=" => some ""
  | .operator o =>
    if ["+=", "-=", "*=", "/=", "%=", "&=", "|=", "^=", "<<=", ">>="].contains o then
      some (String.ofList o.toList.dropLast)
    else none
  | _ => none

/-- The value of a text, which may be blank; none for what is no number. -/
def valueOf (cs : Text) : Option Int :=
  match Format.integerAt cs with
  | none => if cs.all Format.isSpace then some 0 else none
  | some (negative, n, rest) =>
    let (v, fits) := Format.clampSigned negative n
    if fits && rest.all Format.isSpace then some v else none

/-! ### Expressions of the plain dialect -/

structure Reader where
  /-- the whole expression -/
  all : Text
  rest : Text
  /-- the symbol after the last operand -/
  last : Symbol := .finish

abbrev Reading := StateT Reader Script

namespace Reading

/-- The next symbol. -/
def symbol : Reading Symbol := do
  let r ← get
  let cs := r.rest.dropWhile fun c => c = ' ' || c = '\t' || c = '\n'
  match cs with
  | [] =>
    set { r with rest := [] }
    return .finish
  | c :: _ =>
    if c.isDigit then
      match Format.integerAt cs with
      | some (_, n, rest) =>
        set { r with rest }
        return .number (clamped false n)
      | none => return .bad
    else if Parser.isNameStart c then
      set { r with rest := cs.dropWhile Parser.isNameChar }
      return .name (cs.takeWhile Parser.isNameChar)
    else
      match operators.find? fun o => o.toList.isPrefixOf cs with
      | some o =>
        set { r with rest := cs.drop o.length }
        return .operator o
      | none =>
        set { r with rest := cs }
        return .bad

def fail {α : Type} (why : String) : Reading α := do
  let r ← get
  (Script.abort (("arithmetic expression: " ++ why ++ ": ").toList ++ '"' :: r.all ++ ['"']) :
    Script α)

def variableValue (name : Text) : Script Int := do
  let cs := (← Script.value? name).getD []
  match valueOf cs with
  | some n => return n
  | none => Script.abort ("Illegal number: ".toList ++ cs)

def apply (o : String) (a b : Int) : Reading Int := do
  match operate o a b with
  | some v => return v
  | none => fail "division by zero"

def setLast (s : Symbol) : Reading Unit := modify fun r => { r with last := s }

mutual

/-- An operand; `ahead` is the symbol after the first one, and `skips` tells that variables are
not looked at. -/
def operand : Nat → Symbol → Symbol → Bool → Reading Int
  | 0, _, _, _ => return 0
  | fuel + 1, first, ahead, skips => do
    match first with
    | .operator "(" =>
      let v ← assignment fuel ahead skips
      if (← get).last != .operator ")" then fail "expecting ')'"
      setLast (← symbol)
      return v
    | .number n =>
      setLast ahead
      return n
    | .name s =>
      setLast ahead
      if skips then return 0 else variableValue s
    | .operator "+" => operand fuel ahead (← symbol) skips
    | .operator "-" => return wrap (-(← operand fuel ahead (← symbol) skips))
    | .operator "!" => return truth ((← operand fuel ahead (← symbol) skips) = 0)
    | .operator "~" => return -(← operand fuel ahead (← symbol) skips) - 1
    | _ => fail "expecting primary"

/-- Operations that bind tighter than `strength`, after the first operand and operator. -/
def operations : Nat → Int → String → Nat → Bool → Reading Int
  | 0, a, _, _, _ => return a
  | fuel + 1, a, o, strength, skips => do
    let first ← symbol
    let b ← operand fuel first (← symbol) skips
    let mine := (strength? o).getD 0
    let b ← match (← get).last with
      | .operator p =>
        match strength? p with
        | some n => if n < mine then operations fuel b p mine skips else pure b
        | none => pure b
      | _ => pure b
    let a ← if skips then pure b else apply o a b
    match (← get).last with
    | .operator p =>
      match strength? p with
      | some n => if n ≥ strength then return a else operations fuel a p strength skips
      | none => return a
    | _ => return a

def binary : Nat → Symbol → Symbol → Bool → Reading Int
  | 0, _, _, _ => return 0
  | fuel + 1, first, ahead, skips => do
    let a ← operand fuel first ahead skips
    match (← get).last with
    | .operator o => if (strength? o).isSome then operations fuel a o 8 skips else return a
    | _ => return a

def both : Nat → Symbol → Symbol → Bool → Reading Int
  | 0, _, _, _ => return 0
  | fuel + 1, first, ahead, skips => do
    let a ← binary fuel first ahead skips
    if (← get).last != .operator "&&" then return a
    let first ← symbol
    let b ← both fuel first (← symbol) (skips || a = 0)
    return truth (a != 0 && b != 0)

def either : Nat → Symbol → Symbol → Bool → Reading Int
  | 0, _, _, _ => return 0
  | fuel + 1, first, ahead, skips => do
    let a ← both fuel first ahead skips
    if (← get).last != .operator "||" then return a
    let first ← symbol
    let b ← either fuel first (← symbol) (skips || a != 0)
    return truth (a != 0 || b != 0)

def choice : Nat → Symbol → Symbol → Bool → Reading Int
  | 0, _, _, _ => return 0
  | fuel + 1, first, ahead, skips => do
    let a ← either fuel first ahead skips
    if (← get).last != .operator "?" then return a
    let b ← assignment fuel (← symbol) (skips || a = 0)
    if (← get).last != .operator ":" then fail "expecting ':'"
    let first ← symbol
    let c ← choice fuel first (← symbol) (skips || a != 0)
    return if a != 0 then b else c

def assignment : Nat → Symbol → Bool → Reading Int
  | 0, _, _ => return 0
  | fuel + 1, first, skips => do
    let ahead ← symbol
    match first, assignment? ahead with
    | .name s, some o =>
      let v ← assignment fuel (← symbol) skips
      if skips then return v
      else
        let v ← if o.isEmpty then pure v else apply o (← variableValue s) v
        Script.assign s (ofString (toString v))
        return v
    | _, _ => choice fuel first ahead skips

end

end Reading

/-- The value of an expression of the plain dialect. -/
def evaluate (cs : Text) : Script Int := do
  let body : Reading Int := do
    let v ← Reading.assignment (4 * cs.length + 16) (← Reading.symbol) false
    if (← get).last != .finish then Reading.fail "expecting EOF"
    return v
  let (v, _) ← body.run { all := cs, rest := cs }
  return v

end CellRunner.Shell.Arithmetic
