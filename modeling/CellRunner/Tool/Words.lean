import CellRunner.Shell.Condition
import CellRunner.Shell.Expand
import CellRunner.Shell.Printf
import CellRunner.Tool.Options

/-!
# Writing arguments and deciding conditions
-/

set_option autoImplicit false

namespace CellRunner.Tool

open Machine (Prog Bytes)
open Shell (Text toBytes)

/-- Writes its arguments; escapes stay as they are unless asked for. -/
def echo : Tool := do
  let args ← arguments
  let isOption (a : Text) : Bool :=
    match a with
    | '-' :: c :: cs => (c :: cs).all fun c => c = 'n' || c = 'e' || c = 'E'
    | _ => false
  let letters := (args.takeWhile isOption).flatten
  let text := List.intercalate [' '] (args.dropWhile isOption)
  let escapes := (letters.filter fun c => c = 'e' || c = 'E').getLast? = some 'e'
  let (text, stopped) := if escapes then Shell.Format.unescape true text else (text, false)
  out (if letters.contains 'n' || stopped then text else text ++ ['\n'])
  return 0

namespace Words

open Shell.Printf (Complaint)

/-- Tells what is wrong with an argument of a format; the value is the exit code. -/
def tellComplaint (c : Complaint) : Run Nat := do
  match c with
  | .notNumber a =>
    complain (quoted a ++ ": expected a numeric value".toList)
    return 1
  | .partly a =>
    complain (quoted a ++ ": value not completely converted".toList)
    return 1
  | .outOfRange a =>
    complain (quoted a ++ ": Numerical result out of range".toList)
    return 1
  | .badDirective s =>
    complain (s ++ ": invalid conversion specification".toList)
    return 1
  | .unfinished s | .badTime s =>
    complain (s ++ ": invalid conversion specification".toList)
    return 1
  | .count _ _ => return 0

end Words

def printf : Tool := do
  let args ← arguments
  let args := if args.head? = some ['-', '-'] then args.drop 1 else args
  match args with
  | [] => misuse "missing operand".toList
  | format :: args => do
    let p := Shell.Printf.print Shell.Expand.asWord 0 0 .tool format args
    out p.text
    let code ← p.complaints.reverse.foldlM
      (fun code c => do return max code (← Words.tellComplaint c)) 0
    if !p.isOver then
      if let some extra := p.args.head? then
        complain ("warning: ignoring excess arguments, starting with ".toList ++ quoted extra)
    return code

namespace Words

open Shell (Condition)

def faultText (f : Condition.Fault) : Text :=
  match f with
  | .missingAfter a => "missing argument after ".toList ++ quoted a
  | .notUnary a => quoted a ++ ": unary operator expected".toList
  | .notBinary a => quoted a ++ ": binary operator expected".toList
  | .notNumber a => "invalid integer ".toList ++ quoted a
  | .extra a => "extra argument ".toList ++ quoted a
  | .unclosed none => quoted [')'] ++ " expected".toList
  | .unclosed (some a) => quoted [')'] ++ " expected, found ".toList ++ quoted a

/-- Letters and operators beyond the usual ones. -/
def manner : Condition.Manner :=
  { letters := 'N' :: Condition.unaryLetters
    operators := "==" :: Condition.operators.filter fun o => o != "<" && o != ">" }

end Words

/-- Decides a condition; in brackets it has to end in one. -/
def test (inBrackets : Bool) : Tool := do
  modify fun d => { d with failure := 2 }
  let args ← arguments
  if inBrackets && args.getLast? != some [']'] then fail ("missing ".toList ++ quoted [']'])
  let args := if inBrackets then args.dropLast else args
  if args.isEmpty then return 1
  match Shell.Condition.strict Words.manner args with
  | .error f => fail (Words.faultText f)
  | .ok c =>
    match ← run (c.holds false true) with
    | .ok b => return if b then 0 else 1
    | .error f => fail (Words.faultText f)

namespace Words

def repeatBlock (block : Bytes) : Nat → Run Nat
  | 0 => return 0
  | fuel + 1 => do
    match ← run (Prog.put 1 block) with
    | .ok () => repeatBlock block fuel
    | .error e =>
      complain (because "standard output".toList e)
      return 1

end Words

/-- Writes its arguments, or a letter, again and again. -/
def yes : Tool := do
  let (_, operands) ← readOptions <| .make "+" [] true
  let words := if operands.isEmpty then [['y']] else operands
  let line := toBytes (List.intercalate [' '] words ++ ['\n'])
  Words.repeatBlock (List.replicate (max 1 (8192 / line.length)) line).flatten Prog.fuel

end CellRunner.Tool
