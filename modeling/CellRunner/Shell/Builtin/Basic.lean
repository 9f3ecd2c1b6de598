import CellRunner.Shell.Condition
import CellRunner.Shell.Printf
import CellRunner.Shell.Redirect

/-!
# Commands that the shell carries out itself

Each takes its arguments and gives a status.
-/

set_option autoImplicit false

namespace CellRunner.Shell

abbrev Builtin := List Text → Script Nat

namespace Builtin

open Machine (Prog)

/-- Writes a text; the status tells whether that went well. -/
def put (cs : Text) : Script Nat := do
  if cs.isEmpty then return 0
  match ← Script.run (Prog.put 1 (toBytes cs)) with
  | .ok () => return 0
  | .error e =>
    if ← Script.isExtended then Script.refuse ("write error: ".toList ++ ofString e.text)
    else Script.complain (((← get).builtin.getD []) ++ ": I/O error".toList)
    return 1

/-- The options at the front of the arguments, where letters in `valued` take what follows;
the error is a status. `usage` is shown in the extended dialect. -/
def readOptions (letters valued : List Char) (usage : String) :
    Nat → List Text → List (Char × Text) → Script (Except Nat (List (Char × Text) × List Text))
  | 0, args, out => return .ok (out.reverse, args)
  | fuel + 1, args, out => do
    match args with
    | ['-', '-'] :: rest => return .ok (out.reverse, rest)
    | ('-' :: c :: cs) :: rest =>
      if valued.contains c then
        match cs, rest with
        | [], value :: rest => readOptions letters valued usage fuel rest ((c, value) :: out)
        | [], [] =>
          if ← Script.isExtended then
            Script.refuse ('-' :: c :: ": option requires an argument".toList)
            if !usage.isEmpty then Script.tell usage.toList
            return .error 2
          else Script.abort ("No arg for -".toList ++ c :: " option".toList)
        | cs, _ => readOptions letters valued usage fuel rest ((c, cs) :: out)
      else if letters.contains c then
        readOptions letters valued usage fuel
          (if cs.isEmpty then rest else ('-' :: cs) :: rest) ((c, []) :: out)
      else if ← Script.isExtended then
        Script.refuse ('-' :: c :: ": invalid option".toList)
        if !usage.isEmpty then Script.tell usage.toList
        return .error 2
      else Script.abort ("Illegal option -".toList ++ [c])
    | args => return .ok (out.reverse, args)

/-- Reads options and goes on with them and the operands. -/
def withOptions (letters valued : String) (usage : String) (args : List Text)
    (body : List (Char × Text) → List Text → Script Nat) : Script Nat := do
  let fuel := args.foldl (fun n a => n + a.length + 1) 1
  match ← readOptions letters.toList valued.toList usage fuel args [] with
  | .ok (options, operands) => body options operands
  | .error status => return status

def has (c : Char) (options : List (Char × Text)) : Bool := options.any (·.1 == c)

/-- The value of the last option with a letter. -/
def valueOf (c : Char) (options : List (Char × Text)) : Option Text :=
  ((options.filter (·.1 == c)).getLast?).map (·.2)

/-- A text as the plain dialect lists it: single quotes stand in double ones, and all else in
single ones. `fuel` bounds the number of pieces. -/
def quotedFrom : Nat → Text → Text
  | 0, _ => []
  | fuel + 1, cs =>
    let front := cs.takeWhile (· != '\'')
    let rest := cs.drop front.length
    let marks := rest.takeWhile (· = '\'')
    let after := rest.drop marks.length
    let shown := '\'' :: front ++ ['\'']
    if marks.isEmpty then shown
    else
      let shown := shown ++ '"' :: marks ++ ['"']
      if after.isEmpty then shown else shown ++ quotedFrom fuel after

def quoted (cs : Text) : Text := quotedFrom (cs.length + 1) cs

/-- Texts in order. -/
def sorted (texts : List Text) : List Text :=
  texts.mergeSort fun a b => String.ofList a ≤ String.ofList b

/-- The number that an argument gives in the plain dialect. -/
def numberOf (a : Text) : Script Nat := do
  match Condition.integer? a with
  | some n =>
    if 0 ≤ n && n ≤ 2147483647 then return n.toNat
    else Script.abort ("Illegal number: ".toList ++ a)
  | none => Script.abort ("Illegal number: ".toList ++ a)

/-! ### Output -/

def echo (args : List Text) : Script Nat := do
  if ← Script.isExtended then
    let isOption (a : Text) : Bool :=
      match a with
      | '-' :: c :: cs => (c :: cs).all fun c => c = 'n' || c = 'e' || c = 'E'
      | _ => false
    let letters := (args.takeWhile isOption).flatten
    let text := List.intercalate [' '] (args.dropWhile isOption)
    let usually ← Script.hasFeature "xpg_echo"
    let isRich : Bool := match (letters.filter fun c => c = 'e' || c = 'E').getLast? with
      | some c => c = 'e'
      | none => usually
    let (text, stopped) := if isRich then Format.echoEscapes text else (text, false)
    put (if letters.contains 'n' || stopped then text else text ++ ['\n'])
  else
    let (args, newline) := match args with
      | ['-', 'n'] :: rest => (rest, false)
      | _ => (args, true)
    let (text, stopped) := Format.unescape false (List.intercalate [' '] args)
    put (if newline && !stopped then text ++ ['\n'] else text)

/-- Tells what is wrong with an argument or a directive; the status after it. -/
def tellComplaint (c : Printf.Complaint) : Script Nat := do
  if ← Script.isExtended then
    match c with
    | .notNumber a =>
      Script.refuse (a ++ ": invalid number".toList)
      return 1
    | .partly a =>
      Script.refuse (a ++ ": invalid number".toList)
      return 1
    | .outOfRange a =>
      Script.refuse ("warning: ".toList ++ a ++ ": Numerical result out of range".toList)
      return 0
    | .badDirective s =>
      Script.refuse (Parser.inMarks (s.getLast?.toList) ++ ": invalid format character".toList)
      return 1
    | .unfinished s =>
      Script.refuse (Parser.inMarks s ++ ": missing format character".toList)
      return 1
    | .badTime s =>
      Script.refuse ("warning: ".toList ++ Parser.inMarks s ++
        ": invalid time format specification".toList)
      return 0
    | .count name n =>
      if Parser.isName name then
        Script.assign name (Script.decimal n)
        return 0
      Script.refuse (Parser.inMarks name ++ ": not a valid identifier".toList)
      return 1
  else
    match c with
    | .notNumber a =>
      Script.complain (a ++ ": expected numeric value".toList)
      return 1
    | .partly a =>
      Script.complain (a ++ ": not completely converted".toList)
      return 1
    | .outOfRange a =>
      Script.complain (a ++ ": Numerical result out of range".toList)
      return 1
    | .badDirective s =>
      Script.complain (s ++ ": invalid directive".toList)
      return 2
    | .unfinished _ =>
      Script.complain "missing format character".toList
      return 2
    | _ => return 0

def printf (args : List Text) : Script Nat := do
  let isExtended ← Script.isExtended
  let usage := "printf: usage: printf [-v var] format [arguments]"
  withOptions "" (if isExtended then "v" else "") usage args fun options operands => do
    match operands with
    | [] =>
      if isExtended then Script.usage usage
      else
        Script.complain "usage: printf format [arg ...]".toList
        return 2
    | format :: args =>
      let manner := if isExtended then Printf.Manner.extended else .plain
      let clock : Nat ← Script.ask .clock
      let began := (← get).began
      let seconds (n : Nat) : Int := (Machine.epoch + n) / 1000000
      let p := Printf.print Expand.asWord (seconds clock) (seconds began) manner format args
      let tellAll : Script Nat := p.complaints.reverse.foldlM
        (fun status c => do return max status (← tellComplaint c)) 0
      if !isExtended then
        let status ← tellAll
        return max status (← put p.text)
      let written ← match valueOf 'v' options with
        | some name => do
          let base := name.takeWhile (· != '[')
          let index := ((name.drop base.length).drop 1).dropLast
          let _ ← Variables.give base (if base.length = name.length then none else some index)
            false p.text
          pure 0
        | none => put p.text
      return max written (← tellAll)

/-! ### Conditions -/

def conditionFault (f : Condition.Fault) : Script Nat := do
  if ← Script.isExtended then
    Script.refuse <| match f with
      | .missingAfter _ => "argument expected".toList
      | .notUnary a => a ++ ": unary operator expected".toList
      | .notBinary a => a ++ ": binary operator expected".toList
      | .notNumber a => a ++ ": integer expression expected".toList
      | .extra a =>
        if a.head? = some '-' then "syntax error: ".toList ++ Parser.inMarks a ++
          " unexpected".toList
        else "too many arguments".toList
      | .unclosed none => Parser.inMarks [')'] ++ " expected".toList
      | .unclosed (some a) => Parser.inMarks [')'] ++ " expected, found ".toList ++ a
    return 2
  else
    Script.complain <| match f with
      | .missingAfter a => a ++ ": argument expected".toList
      | .notNumber a => "Illegal number: ".toList ++ a
      | .extra a => a ++ ": unexpected operator".toList
      | _ => "closing paren expected".toList
    return 2

/-- The letters and operators of the extended dialect. -/
def extendedManner : Condition.Manner :=
  { letters := ['a', 'v', 'N', 'o', 'R'] ++ Condition.unaryLetters
    operators := "==" :: Condition.operators
    demandsLetter := true }

/-- Conditions about the shell itself become conditions about texts. -/
def settleTests : Condition → Script Condition
  | .file 'v' name => do
    let base := name.takeWhile (· != '[')
    let index := ((name.drop base.length).drop 1).dropLast
    let isSet ← if base.length = name.length then do pure (← Expand.scalar name).isSome
      else do
        let v := (← Script.find? (← Script.target base Script.chain)).bind (·.value)
        let items ← Expand.entries base
        pure (v.isSome && items.any fun i => i.1 == index)
    return .nonEmpty (if isSet then ['x'] else [])
  | .file 'o' name => do
    return .nonEmpty (if ← Script.isOn (String.ofList name) then ['x'] else [])
  | .file 'a' path => return .file 'e' path
  | .negation c => do return .negation (← settleTests c)
  | .both a b => do return .both (← settleTests a) (← settleTests b)
  | .either a b => do return .either (← settleTests a) (← settleTests b)
  | c => return c

def test (args : List Text) : Script Nat := do
  let isExtended ← Script.isExtended
  let parsed := if isExtended then Condition.strict extendedManner args else Condition.parse args
  match parsed with
  | .error fault => conditionFault fault
  | .ok c =>
    match ← Script.run (Condition.holds true isExtended (← settleTests c)) with
    | .ok b => return if b then 0 else 1
    | .error e => conditionFault e

def bracketTest (args : List Text) : Script Nat := do
  if args.getLast? = some [']'] then test args.dropLast
  else
    Script.refuse (if ← Script.isExtended then "missing ".toList ++ Parser.inMarks [']']
      else "missing ]".toList)
    return 2

end Builtin

end CellRunner.Shell
