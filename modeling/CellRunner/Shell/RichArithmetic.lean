import CellRunner.Shell.Arithmetic

/-!
# Arithmetic of the extended dialect

Variables hold expressions of their own, numbers may name their base, and there are powers,
sequences and operators that count variables up and down.
-/

set_option autoImplicit false

namespace CellRunner.Shell.RichArithmetic

open Arithmetic (wrap truth operate)

inductive Symbol where
  | number (n : Int)
  /-- a variable, or the item of one whose index is a text -/
  | name (s : Text) (index : Option Text)
  | operator (s : String)
  | finish
  deriving DecidableEq, Repr

structure Reader where
  all : Text
  /-- the text after the present symbol -/
  rest : Text
  /-- the text from the present symbol on -/
  start : Text
  symbol : Symbol := .finish
  /-- the variable that the last operand consists of -/
  place : Option (Text × Option Text) := none

abbrev Reading := StateT Reader Script

def operators : List String :=
  ["<<=", ">>=", "**", "&&", "||", "==", "!=", "<=", ">=", "<<", ">>", "+=", "-=", "*=", "/=",
    "%=", "&=", "|=", "^=", "++", "--", "+", "-", "*", "/", "%", "<", ">", "=", "!", "~", "&",
    "|", "^", "(", ")", "?", ":", ","]

/-- How loosely operators bind, from the loosest on. -/
def levels : List (List String) :=
  [["|"], ["^"], ["&"], ["==", "!="], ["<", "<=", ">", ">="], ["<<", ">>"], ["+", "-"],
    ["*", "/", "%"]]

/-- The value of a digit; small and capital letters differ in large bases only. -/
def digit (base : Nat) (c : Char) : Nat :=
  if c.isDigit then c.toNat - 48
  else if c.isLower then c.toNat - 87
  else if c.isUpper then if base ≤ 36 then c.toNat - 55 else c.toNat - 29
  else if c = '@' then 62
  else if c = '_' then 63
  else 64

/-- The value of a number, or what is wrong with it. -/
def number (cs : Text) : Except String Int :=
  let inBase (base : Nat) (ds : Text) : Except String Int :=
    if ds.all (digit base · < base) then
      .ok (wrap (ds.foldl (fun n d => n * base + digit base d) 0 : Nat))
    else .error "value too great for base"
  match cs with
  | '0' :: 'x' :: ds => inBase 16 ds
  | '0' :: 'X' :: ds => inBase 16 ds
  | _ =>
    let front := cs.takeWhile (· != '#')
    match cs.drop front.length with
    | _ :: ds =>
      let base := Format.decimal front
      if !front.all Char.isDigit || base < 2 || base > 64 then .error "invalid arithmetic base"
      else if ds.isEmpty then .error "invalid integer constant"
      else inBase base ds
    | [] =>
      match cs with
      | '0' :: ds => inBase 8 ds
      | _ => inBase 10 cs

/-- Tells what is wrong with an expression. -/
def failWith {α : Type} (all start : Text) (why : String) : Script α := do
  let s ← get
  let front := match s.builtin with
    | some name => name ++ ": ".toList
    | none => []
  Script.dropLine (front ++ all.dropWhile Word.isBlank ++ (": " ++ why ++ " (error token is ").toList
    ++ '"' :: start ++ ['"', ')'])

def fail {α : Type} (why : String) : Reading α := do
  let r ← get
  (failWith r.all r.start why : Script α)

/-- The text up to the bracket that closes an index, and the rest. -/
def indexText : Nat → Text → Text → Option (Text × Text)
  | _, [], _ => none
  | depth, c :: cs, out =>
    if c = ']' then
      if depth = 0 then some (out.reverse, cs) else indexText (depth - 1) cs (c :: out)
    else if c = '[' then indexText (depth + 1) cs (c :: out)
    else indexText depth cs (c :: out)

/-- Goes on to the next symbol. -/
def advance : Reading Unit := do
  let r ← get
  let cs := r.rest.dropWhile Word.isBlank
  match cs with
  | [] => set { r with rest := [], symbol := .finish }
  | c :: _ =>
    if c.isDigit then
      let isPart (c : Char) : Bool := c.isAlphanum || c = '#' || c = '@' || c = '_'
      let spelling := cs.takeWhile isPart
      match number spelling with
      | .ok n => set { r with rest := cs.drop spelling.length, start := cs, symbol := .number n }
      | .error why =>
        let before := r.all.take (r.all.length - cs.length)
        (failWith (before ++ spelling) spelling why : Script Unit)
    else if Parser.isNameStart c then
      let name := cs.takeWhile Parser.isNameChar
      let rest := cs.drop name.length
      match rest with
      | '[' :: more =>
        match indexText 0 more [] with
        | some (index, rest) => set { r with rest, start := cs, symbol := .name name (some index) }
        | none => (failWith r.all cs "bad array subscript" : Script Unit)
      | _ => set { r with rest, start := cs, symbol := .name name none }
    else
      match operators.find? fun o => o.toList.isPrefixOf cs with
      | some o => set { r with rest := cs.drop o.length, start := cs, symbol := .operator o }
      | none =>
        let isOperand := match r.symbol with
          | .number _ => true
          | .name _ _ => true
          | .operator o => o = ")"
          | .finish => false
        (failWith r.all cs (if isOperand then "syntax error: invalid arithmetic operator"
          else "syntax error: operand expected") : Script Unit)

/-- Reads an operator at the front of what is left, if it is one of these. -/
def isOperator (os : List String) : Reading (Option String) := do
  match (← get).symbol with
  | .operator o => return if os.contains o then some o else none
  | _ => return none

/-- What an index leads to. -/
def keyOf (inner : Text → Script Int) (name index : Text) : Script Script.Key := do
  match ← Script.content? name with
  | some (.table _) => return .entry index
  | _ => return .place (← Script.escalating (inner index))

def valueOf (inner : Text → Script Int) (name : Text) (index : Option Text) : Script Int := do
  let cs ← match index with
    | none => Script.value? name
    | some index => do
      let key ← keyOf inner name index
      pure ((← Script.content? name).bind (Script.Value.item? · key))
  match cs with
  | none =>
    if ← Script.isOn "nounset" then
      Script.complain (name ++ ": unbound variable".toList)
      Script.escape (.exit 127)
    else return 0
  | some [] => return 0
  | some cs => inner cs

def giveValue (inner : Text → Script Int) (name : Text) (index : Option Text) (n : Int) :
    Script Unit := do
  let cs := ofString (toString n)
  let done ← match index with
    | none => Script.assign? name cs
    | some index => do Script.assignItem? name (← keyOf inner name index) cs
  if !done then Script.escape .leaveLine

/-- The value of an operation; a fault if it has none. -/
def apply (at_ : Text) (skips : Bool) (o : String) (a b : Int) : Reading Int := do
  match operate o a b with
  | some v => return v
  | none =>
    if skips then return 1
    else
      let r ← get
      (failWith r.all (at_.dropWhile Word.isBlank) "division by 0" : Script Int)

def power (a : Int) : Nat → Int
  | 0 => 1
  | n + 1 =>
    let half := power a ((n + 1) / 2)
    let square := wrap (half * half)
    if (n + 1) % 2 = 1 then wrap (square * a) else square
termination_by n => n
decreasing_by omega

section

-- evaluates the value of a variable
variable (inner : Text → Script Int)

mutual

def sequence : Nat → Bool → Reading Int
  | 0, _ => return 0
  | fuel + 1, skips => do
    let v ← assignment fuel skips
    if (← isOperator [","]).isSome then
      advance
      sequence fuel skips
    else return v

def assignment : Nat → Bool → Reading Int
  | 0, _ => return 0
  | fuel + 1, skips => do
    let a ← choice fuel skips
    match ← isOperator ["=", "+=", "-=", "*=", "/=", "%=", "&=", "|=", "^=", "<<=", ">>="] with
    | none => return a
    | some o =>
      match (← get).place with
      | none => fail "attempted assignment to non-variable"
      | some (name, index) =>
        let at_ := (← get).rest
        advance
        let b ← assignment fuel skips
        let v ← if o = "=" then pure b
          else apply at_ skips (String.ofList o.toList.dropLast) a b
        if !skips then (giveValue inner name index v : Script Unit)
        modify fun r => { r with place := none }
        return v

def choice : Nat → Bool → Reading Int
  | 0, _ => return 0
  | fuel + 1, skips => do
    let a ← either fuel skips
    if (← isOperator ["?"]).isNone then return a
    advance
    if (← get).symbol = .finish || (← isOperator [":"]).isSome then fail "expression expected"
    let b ← sequence fuel (skips || a = 0)
    if (← isOperator [":"]).isNone then fail "\x60:' expected for conditional expression"
    advance
    if (← get).symbol = .finish then fail "expression expected"
    let c ← choice fuel (skips || a != 0)
    modify fun r => { r with place := none }
    return if a != 0 then b else c

def either : Nat → Bool → Reading Int
  | 0, _ => return 0
  | fuel + 1, skips => do
    let a ← both fuel skips
    if (← isOperator ["||"]).isNone then return a
    advance
    let b ← either fuel (skips || a != 0)
    modify fun r => { r with place := none }
    return truth (a != 0 || b != 0)

def both : Nat → Bool → Reading Int
  | 0, _ => return 0
  | fuel + 1, skips => do
    let a ← binary fuel levels skips
    if (← isOperator ["&&"]).isNone then return a
    advance
    let b ← both fuel (skips || a = 0)
    modify fun r => { r with place := none }
    return truth (a != 0 && b != 0)

def binary : Nat → List (List String) → Bool → Reading Int
  | 0, _, _ => return 0
  | fuel + 1, [], skips => powers fuel skips
  | fuel + 1, os :: rest, skips => do
    let a ← binary fuel rest skips
    binaryFrom fuel os rest a skips

def binaryFrom : Nat → List String → List (List String) → Int → Bool → Reading Int
  | 0, _, _, a, _ => return a
  | fuel + 1, os, rest, a, skips => do
    match ← isOperator os with
    | none => return a
    | some o =>
      let at_ := (← get).rest
      advance
      let b ← binary fuel rest skips
      let v ← apply at_ skips o a b
      modify fun r => { r with place := none }
      binaryFrom fuel os rest v skips

def powers : Nat → Bool → Reading Int
  | 0, _ => return 0
  | fuel + 1, skips => do
    let a ← factor fuel skips
    if (← isOperator ["**"]).isNone then return a
    advance
    let b ← powers fuel skips
    modify fun r => { r with place := none }
    if b < 0 then fail "exponent less than 0"
    return power a b.toNat

def factor : Nat → Bool → Reading Int
  | 0, _ => return 0
  | fuel + 1, skips => do
    let one (f : Int → Int) : Reading Int := do
      advance
      let v ← factor fuel skips
      modify fun r => { r with place := none }
      return f v
    match (← get).symbol with
    | .operator "!" => one fun v => truth (v = 0)
    | .operator "~" => one fun v => -v - 1
    | .operator "-" => one fun v => wrap (-v)
    | .operator "+" => one id
    | .operator "++" => before fuel 1 skips
    | .operator "--" => before fuel (-1) skips
    | .operator "(" =>
      advance
      let v ← sequence fuel skips
      if (← isOperator [")"]).isNone then fail "missing \x60)'"
      advance
      modify fun r => { r with place := none }
      return v
    | .number n =>
      advance
      modify fun r => { r with place := none }
      return n
    | .name s index =>
      advance
      match ← isOperator ["++", "--"] with
      | some o =>
        let v ← if skips then pure 0 else (valueOf inner s index : Script Int)
        if !skips then
          (giveValue inner s index (wrap (if o = "++" then v + 1 else v - 1)) : Script Unit)
        advance
        modify fun r => { r with place := none }
        return v
      | none =>
        let isGiven := (← isOperator ["="]).isSome
        let v ← if skips || isGiven then pure 0 else (valueOf inner s index : Script Int)
        modify fun r => { r with place := some (s, index) }
        return v
    | _ => fail "syntax error: operand expected"

/-- Counts a variable before it is used; without a variable the two signs stand alone. -/
def before : Nat → Int → Bool → Reading Int
  | 0, _, _ => return 0
  | fuel + 1, step, skips => do
    advance
    match (← get).symbol with
    | .name s index =>
      advance
      modify fun r => { r with place := none }
      let v ← if skips then pure 0 else (valueOf inner s index : Script Int)
      let v := wrap (v + step)
      if !skips then (giveValue inner s index v : Script Unit)
      return v
    | _ => factor fuel skips

end

end

/-- The value of an expression; `depth` bounds the variables whose values lead to others. -/
def evaluateIn : Nat → Text → Script Int
  | 0, cs => failWith cs cs "expression recursion level exceeded"
  | depth + 1, cs => do
    if cs.all Word.isBlank then return 0
    let body : Reading Int := do
      advance
      let v ← sequence (evaluateIn depth) (16 * cs.length + 64) false
      if (← get).symbol != .finish then fail "syntax error in expression"
      return v
    let (v, _) ← body.run { all := cs, rest := cs, start := cs }
    return v

def evaluate (cs : Text) : Script Int := evaluateIn 1024 cs

end CellRunner.Shell.RichArithmetic
