import CellRunner.Machine.Account
import CellRunner.Shell.Format
import CellRunner.Tool.Options

/-!
# Owners and permission bits

There is one user besides the system. A mode is written as an octal number or as changes for some
of the users.
-/

set_option autoImplicit false

namespace CellRunner.Tool

open Machine (Prog FileInfo FileType)
open Shell (Text asName)

def userNumber : Nat := Machine.Account.user.number

def userName : Text := Machine.Account.user.name.toList

def ownerNumber (i : FileInfo) : Nat := if i.owned then userNumber else 0

def ownerName (i : FileInfo) : Text := if i.owned then userName else "root".toList

/-- The number of a user or group that a text names. -/
def accountNumber? (cs : Text) : Option Nat :=
  match Machine.Account.number? (String.ofList cs) with
  | some n => some n
  | none => if !cs.isEmpty && cs.all Char.isDigit then (String.ofList cs).toNat? else none

namespace Mode

def allBits : Nat := 0o7777

def specialBits : Nat := 0o6000

/-- What the changed bits are. -/
inductive Change where
  | bits (n : Nat)
  /-- bits, and those for running if any user has them or it is a directory -/
  | orRunning (n : Nat)
  /-- what some of the users have -/
  | copied (mask : Nat)
  deriving DecidableEq, Repr

/-- A change for the users whose bits are `affected`; none if nobody was named. -/
structure Step where
  affected : Nat
  operator : Char
  change : Change
  /-- bits that are changed even in directories -/
  mentioned : Nat
  deriving DecidableEq, Repr

def usersOf (c : Char) : Option Nat :=
  match c with
  | 'u' => some 0o4700
  | 'g' => some 0o2070
  | 'o' => some 0o1007
  | 'a' => some allBits
  | _ => none

def isUser (c : Char) : Bool := (usersOf c).isSome

def isOperator (c : Char) : Bool := c = '+' || c = '-' || c = '='

def bitsOf (c : Char) : Option Nat :=
  match c with
  | 'r' => some 0o444
  | 'w' => some 0o222
  | 'x' => some 0o111
  | 'X' => some 0
  | 's' => some 0o6000
  | 't' => some 0o1000
  | _ => none

/-- The bits after an operator, and the rest. -/
def changeAt (cs : Text) : Change × Text :=
  match cs with
  | 'u' :: rest => (.copied 0o700, rest)
  | 'g' :: rest => (.copied 0o070, rest)
  | 'o' :: rest => (.copied 0o007, rest)
  | _ =>
    let letters := cs.takeWhile fun c => (bitsOf c).isSome
    let n := letters.foldl (fun n c => n ||| (bitsOf c).getD 0) 0
    (if letters.contains 'X' then .orRunning n else .bits n, cs.drop letters.length)

/-- The changes of one clause after the users it is about; `fuel` bounds their number. -/
def stepsFrom (affected : Nat) : Nat → Text → Option (List Step)
  | 0, _ => none
  | _ + 1, [] => some []
  | fuel + 1, o :: cs =>
    if !isOperator o then none
    else
      let (change, rest) := changeAt cs
      let mentioned := if affected = 0 then allBits else affected
      (stepsFrom affected fuel rest).map (⟨affected, o, change, mentioned⟩ :: ·)

def clause (cs : Text) : Option (List Step) :=
  let users := cs.takeWhile isUser
  let affected := users.foldl (fun n c => n ||| (usersOf c).getD 0) 0
  let rest := cs.drop users.length
  if rest.isEmpty then none else stepsFrom affected (rest.length + 1) rest

/-- The changes that a text spells. -/
def parse (cs : Text) : Option (List Step) :=
  if !cs.isEmpty && cs.all Shell.Format.isOctal then
    let n := Shell.Format.octalValue cs
    if n > allBits then none
    else
      let mentioned := if cs.length < 5 then (n &&& 0o7000) ||| 0o777 else allBits
      some [⟨allBits, '=', .bits n, mentioned⟩]
  else
    let clauses := cs.foldr (fun c s =>
      if c = ',' then [] :: s
      else
        match s with
        | x :: xs => (c :: x) :: xs
        | [] => [[c]]) [[]]
    (clauses.mapM clause).map List.flatten

def without (n m : Nat) : Nat := n - (n &&& m)

/-- One change of a mode. -/
def Step.apply (s : Step) (isDirectory : Bool) (mask mode : Nat) : Nat :=
  let spread (n : Nat) : Nat :=
    (if n &&& 0o444 != 0 then 0o444 else 0) ||| (if n &&& 0o222 != 0 then 0o222 else 0) |||
      if n &&& 0o111 != 0 then 0o111 else 0
  let value := match s.change with
    | .bits n => n
    | .orRunning n => if isDirectory || mode &&& 0o111 != 0 then n ||| 0o111 else n
    | .copied m => spread (mode &&& m)
  let kept := if isDirectory then without specialBits s.mentioned else 0
  let reach := if s.affected = 0 then without allBits mask else s.affected
  let value := without (value &&& reach) kept
  if s.operator = '+' then mode ||| value
  else if s.operator = '-' then without mode value
  else
    let preserved := (if s.affected = 0 then 0 else without allBits s.affected) ||| kept
    (mode &&& preserved) ||| value

def apply (steps : List Step) (isDirectory : Bool) (mask mode : Nat) : Nat :=
  steps.foldl (fun m s => s.apply isDirectory mask m) mode

/-! ### Showing modes -/

def kindLetter : FileType → Char
  | .file => '-'
  | .directory => 'd'
  | .link => 'l'
  | .pipe => 'p'
  | .device => 'c'

/-- Three letters for one class of users; `special` is the letter of a special bit. -/
def triple (n : Nat) (isSpecial : Bool) (special : Char) : Text :=
  [if n &&& 4 != 0 then 'r' else '-', if n &&& 2 != 0 then 'w' else '-',
    if isSpecial then (if n &&& 1 != 0 then special else special.toUpper)
    else if n &&& 1 != 0 then 'x' else '-']

def letters (mode : Nat) : Text :=
  triple (mode / 64) (mode &&& 0o4000 != 0) 's' ++ triple (mode / 8) (mode &&& 0o2000 != 0) 's' ++
    triple mode (mode &&& 0o1000 != 0) 't'

def octal (width n : Nat) : Text :=
  let ds := Nat.toDigits 8 n
  List.replicate (width - ds.length) '0' ++ ds

/-- A mode as a number and in letters. -/
def both (mode : Nat) : Text := octal 4 mode ++ " (".toList ++ letters mode ++ [')']

/-- Arguments in which a mode that begins with a dash stands after two dashes. -/
def shielded : List Text → List Text
  | [] => []
  | a :: rest =>
    match a with
    | ['-', '-'] => a :: rest
    | '-' :: c :: _ =>
      if "rwxXstugoa,+=".toList.contains c || c.isDigit then ['-', '-'] :: a :: rest
      else a :: shielded rest
    | _ => a :: shielded rest

end Mode

/-- The bits that new files do not get. -/
def maskNow : Run Nat := ask (.mask none)

/-- The mode that an argument spells, starting from none. -/
def modeOperand (base : Nat) (isDirectory : Bool) (cs : Text) : Run Nat := do
  match Mode.parse cs with
  | some steps => return Mode.apply steps isDirectory (← maskNow) base
  | none => fail ("invalid mode ".toList ++ quoted cs)

/-- A name in a directory. -/
def within (dir name : Text) : Text :=
  if dir.getLast? = some '/' then dir ++ name else dir ++ '/' :: name

def namesIn (path : Text) : Run (List Text) := do
  return ((← ask (.list (asName path))).toOption.getD []).map Shell.ofString

def greatestDepth : Nat := 100

namespace Mode

structure Telling where
  all : Bool
  changes : Bool
  quiet : Bool

/-- Changes the mode of a file, and of all that is in a directory; `fuel` bounds the depth. -/
def change (steps : List Step) (recursive : Bool) (t : Telling) : Nat → Text → Run Nat
  | 0, _ => return 1
  | fuel + 1, path => do
    match ← infoOf path with
    | .error e =>
      if !t.quiet then
        match ← ownInfoOf path with
        | .ok _ => complain ("cannot operate on dangling symlink ".toList ++ named path)
        | .error _ => let _ ← cannot "cannot access" path e
      return 1
    | .ok info =>
      let mode := apply steps info.isDirectory (← maskNow) info.mode
      match ← ask (.setMode (asName path) mode) with
      | .error e =>
        let _ ← cannot "changing permissions of" path e
        return 1
      | .ok () =>
        if mode != info.mode && (t.all || t.changes) then
          out ("mode of ".toList ++ named path ++ " changed from ".toList ++ both info.mode ++
            " to ".toList ++ both mode ++ ['\n'])
        else if mode = info.mode && t.all then
          out ("mode of ".toList ++ named path ++ " retained as ".toList ++ both mode ++ ['\n'])
        if recursive && info.isDirectory then
          match ← ask (.list (asName path)) with
          | .error e => cannot "cannot read directory" path e
          | .ok names =>
            forEach (names.map Shell.ofString) fun n => do
              let inner := within path n
              match ← ownInfoOf inner with
              | .ok i => if i.kind == .link then return 0 else change steps recursive t fuel inner
              | .error e => cannot "cannot access" inner e
        else return 0

end Mode

def chmod : Tool := do
  modify fun d => { d with call := { d.call with args := Mode.shielded d.call.args } }
  let (os, operands) ← readOptions <| .make "Rcfv\x01:"
    [("recursive", 'R'), ("changes", 'c'), ("silent", 'f'), ("quiet", 'f'), ("verbose", 'v'),
      ("reference", '\x01')]
  let t : Mode.Telling := { all := has "v" os, changes := has "c" os, quiet := has "f" os }
  match valueOf? '\x01' os, operands with
  | some model, paths => do
    if paths.isEmpty then misuse "missing operand".toList
    match ← infoOf model with
    | .error e => cannot "failed to get attributes of" model e
    | .ok info =>
      let step : Mode.Step := ⟨Mode.allBits, '=', .bits info.mode, Mode.allBits⟩
      forEach paths (Mode.change [step] (has "R" os) t greatestDepth)
  | none, [] => misuse "missing operand".toList
  | none, [only] => misuse ("missing operand after ".toList ++ quoted only)
  | none, mode :: paths =>
    match Mode.parse mode with
    | none => misuse ("invalid mode: ".toList ++ quoted mode)
    | some steps => forEach paths (Mode.change steps (has "R" os) t greatestDepth)

end CellRunner.Tool
