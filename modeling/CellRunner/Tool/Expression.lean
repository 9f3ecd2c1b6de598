import CellRunner.Regex.Parse
import CellRunner.Shell.Format
import CellRunner.Tool.Basic

/-!
# Expressions in arguments

Each argument is an operand or an operator. A value is a text; it counts as a number when it
is spelt like one.
-/

set_option autoImplicit false

namespace CellRunner.Tool

open Machine (Prog)
open Shell (Text)

namespace Expression

inductive Fault where
  | missingAfter (a : Text)
  | unexpected (a : Text)
  | noClosingAfter (a : Text)
  | noClosingBefore (a : Text)
  | strayClosing
  | notInteger
  | division
  | pattern (f : Regex.Fault)
  deriving DecidableEq, Repr

def Fault.text : Fault → Text
  | .missingAfter a => "syntax error: missing argument after ".toList ++ quoted a
  | .unexpected a => "syntax error: unexpected argument ".toList ++ quoted a
  | .noClosingAfter a => "syntax error: expecting ')' after ".toList ++ quoted a
  | .noClosingBefore a => "syntax error: expecting ')' instead of ".toList ++ quoted a
  | .strayClosing => "syntax error: unexpected ')'".toList
  | .notInteger => "non-integer argument".toList
  | .division => "division by zero".toList
  | .pattern f => f.text.toList

/-- The arguments that are left, and the one before them. -/
structure Reader where
  rest : List Text
  before : Text := []

abbrev Reading := StateT Reader (Except Fault)

def integer? (cs : Text) : Option Int :=
  let ds := if cs.head? = some '-' then cs.drop 1 else cs
  if ds.isEmpty || !ds.all Char.isDigit then none
  else
    let n : Nat := Shell.Format.decimal ds
    some (if ds.length < cs.length then -(n : Int) else n)

/-- Whether a value is empty or zero. -/
def isNull (cs : Text) : Bool :=
  let ds := if cs.head? = some '-' then cs.drop 1 else cs
  cs.isEmpty || (!ds.isEmpty && ds.all (· = '0'))

def take? (words : List String) : Reading (Option String) := do
  let r ← get
  match r.rest with
  | a :: rest =>
    if words.contains (String.ofList a) then
      set { rest, before := a : Reader }
      return some (String.ofList a)
    else return none
  | [] => return none

/-- Complains if no argument is left. -/
def demand : Reading Unit := do
  let r ← get
  if r.rest.isEmpty then throw (.missingAfter r.before)

def next : Reading Text := do
  demand
  let r ← get
  let a := r.rest.headD []
  set { rest := r.rest.drop 1, before := a : Reader }
  return a

def truth (b : Bool) : Text := if b then ['1'] else ['0']

def compareBy (operator : String) (a b : Text) : Bool :=
  let o := match integer? a, integer? b with
    | some x, some y => compare x y
    | _, _ => compareOfLessAndEq a b
  match operator with
  | "<" => o == .lt
  | "<=" => o != .gt
  | "=" => o == .eq
  | "==" => o == .eq
  | "!=" => o != .eq
  | ">=" => o != .lt
  | _ => o == .gt

def arithmetic (operator : String) (a b : Text) : Reading Text := do
  match integer? a, integer? b with
  | some x, some y =>
    match operator with
    | "+" => return ofInt (x + y)
    | "-" => return ofInt (x - y)
    | "*" => return ofInt (x * y)
    | o =>
      if y = 0 then throw .division
      else return ofInt (if o = "/" then x.tdiv y else x.tmod y)
  | _, _ => throw .notInteger

/-- What a pattern finds at the start of a text: its first group, or how long the match is. -/
def matched (text pattern : Text) : Reading Text := do
  match Regex.parse { strict := true } pattern with
  | .error f => throw (.pattern f)
  | .ok r =>
    let groups := r.groups
    match Regex.matchAt {} text r ⟨none, text, 0⟩ with
    | none => return if groups > 0 then [] else ['0']
    | some m =>
      if groups > 0 then return (m.group? text 1).getD []
      else return ofNat (m.stop - m.start)

def indexOf (text chars : Text) : Text :=
  match text.findIdx? chars.contains with
  | some i => ofNat (i + 1)
  | none => ['0']

def substring (text start size : Text) : Text :=
  match integer? start, integer? size with
  | some s, some n =>
    if s ≤ 0 || n ≤ 0 then [] else (text.drop (s.toNat - 1)).take n.toNat
  | _, _ => []

/-- Reads operands with operators of one kind between them, from the left. -/
def leftward (words : List String) (operand : Reading Text)
    (apply : String → Text → Text → Reading Text) : Nat → Text → Reading Text
  | 0, a => return a
  | fuel + 1, a => do
    match ← take? words with
    | none => return a
    | some o =>
      let b ← operand
      leftward words operand apply fuel (← apply o a b)

/-- The levels of operators from the loosest on; `counts` says whether the value matters, as
what does not is never worked out. `fuel` bounds the number of arguments. -/
def value (counts : Bool) : Nat → Nat → Reading Text
  | 0, _ => throw (.missingAfter [])
  | fuel + 1, level => do
    let whenCounts (f : Reading Text) : Reading Text := if counts then f else return []
    match level with
    | 0 => do
      let a ← value counts fuel 1
      orFrom fuel a
    | 1 => do
      let a ← value counts fuel 2
      andFrom fuel a
    | 2 => do
      let a ← value counts fuel 3
      leftward ["<", "<=", "=", "==", "!=", ">=", ">"] (value counts fuel 3)
        (fun o a b => return truth (compareBy o a b)) fuel a
    | 3 => do
      let a ← value counts fuel 4
      leftward ["+", "-"] (value counts fuel 4) (fun o a b => whenCounts (arithmetic o a b)) fuel a
    | 4 => do
      let a ← value counts fuel 5
      leftward ["*", "/", "%"] (value counts fuel 5)
        (fun o a b => whenCounts (arithmetic o a b)) fuel a
    | 5 => do
      let a ← value counts fuel 6
      leftward [":"] (value counts fuel 6) (fun _ a b => whenCounts (matched a b)) fuel a
    | 6 => do
      match ← take? ["+", "length", "match", "index", "substr"] with
      | some "+" => next
      | some "length" => do
        let a ← value counts fuel 6
        return ofNat a.length
      | some "match" => do
        let a ← value counts fuel 6
        let b ← value counts fuel 6
        whenCounts (matched a b)
      | some "index" => do
        let a ← value counts fuel 6
        let b ← value counts fuel 6
        return indexOf a b
      | some _ => do
        let a ← value counts fuel 6
        let b ← value counts fuel 6
        let c ← value counts fuel 6
        return substring a b c
      | none => value counts fuel 7
    | _ => do
      demand
      match ← take? ["(", ")"] with
      | some "(" => do
        let a ← value counts fuel 0
        let r ← get
        match r.rest with
        | [] => throw (.noClosingAfter r.before)
        | b :: rest =>
          if b = [')'] then
            set { rest, before := b : Reader }
            return a
          else throw (.noClosingBefore b)
      | some _ => throw .strayClosing
      | none => next
where
  orFrom : Nat → Text → Reading Text
    | 0, a => return a
    | fuel + 1, a => do
      match ← take? ["|"] with
      | none => return a
      | some _ =>
        let b ← value (counts && isNull a) fuel 1
        orFrom fuel (if !isNull a then a else if isNull b then ['0'] else b)
  andFrom : Nat → Text → Reading Text
    | 0, a => return a
    | fuel + 1, a => do
      match ← take? ["&"] with
      | none => return a
      | some _ =>
        let b ← value (counts && !isNull a) fuel 2
        andFrom fuel (if isNull a || isNull b then ['0'] else a)

/-- The value of all arguments. -/
def evaluate (args : List Text) : Except Fault Text := do
  let (v, r) ← (value true (16 * args.length + 16) 0).run { rest := args }
  match r.rest with
  | a :: _ => throw (.unexpected a)
  | [] => return v

end Expression

open Expression in
def expr : Tool := do
  modify fun d => { d with failure := 2 }
  let args ← arguments
  let args := if args.head? = some ['-', '-'] then args.drop 1 else args
  if args.isEmpty then misuse "missing operand".toList
  match evaluate args with
  | .error f => fail f.text
  | .ok v =>
    out (v ++ ['\n'])
    return if isNull v then 1 else 0

end CellRunner.Tool
