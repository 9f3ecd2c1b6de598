import CellRunner.Tool.Amount

/-!
# The first and the last lines of files
-/

set_option autoImplicit false

namespace CellRunner.Tool

open Machine (Prog Bytes)
open Shell (Text toBytes ofBytes ofString asName)

namespace Ends

inductive Unit where
  | lines
  | bytes
  deriving DecidableEq, Repr

/-- What part of each file is shown. -/
structure Portion where
  unit : Unit := .lines
  size : Signed := ⟨none, 10⟩

def Unit.name : Unit → String
  | .lines => "lines"
  | .bytes => "bytes"

def portion (os : List Given) : Run Portion := do
  match (os.filter fun g => g.1 = 'n' || g.1 = 'c').getLast? with
  | none => return {}
  | some (c, v) =>
    let unit : Unit := if c = 'n' then .lines else .bytes
    match Signed.of? v with
    | some size => return { unit, size }
    | none => fail ("invalid number of ".toList ++ unit.name.toList ++ ": ".toList ++ quoted v)

/-- The text up to the end of the `n`-th line, how many lines it ends, and what follows. -/
def takeLines (n : Nat) : Text → Text → Text × Nat × Text
  | [], out => (out.reverse, n, [])
  | c :: cs, out =>
    if n = 0 then (out.reverse, 0, c :: cs)
    else if c = '\n' then takeLines (n - 1) cs (c :: out)
    else takeLines n cs (c :: out)

/-- What is left of a text when its last `n` lines are dropped, given backwards. -/
def dropLines (n : Nat) : Text → Text
  | [] => []
  | c :: cs => if c = '\n' then (if n = 0 then c :: cs else dropLines (n - 1) cs) else dropLines n cs

def allButLines (n : Nat) (cs : Text) : Text :=
  let back := cs.reverse
  if n = 0 then cs
  else
    match back with
    | [] => []
    | c :: rest =>
      let left := if c = '\n' then dropLines (n - 1) rest else dropLines (n - 1) back
      left.reverse

/-- The last `n` lines; a newline at the very end belongs to the last one. -/
def lastLines (n : Nat) (cs : Text) : Text := cs.drop (allButLines n cs).length

/-- Text from the `n`-th line on. -/
def fromLine (n : Nat) (cs : Text) : Text := (takeLines (n - 1) cs []).2.2

def header (isFirst : Bool) (path : Text) : Text :=
  let name := if path = ['-'] then "standard input".toList else path
  (if isFirst then [] else ['\n']) ++ "==> ".toList ++ name ++ " <==\n".toList

/-- Does something with each operand, with a headline where it is wanted. -/
def overFiles (os : List Given) (operands : List Text) (f : Text → Nat → Run Nat) : Run Nat := do
  let headed := match lastOf? "qv" os with
    | some 'q' => false
    | some _ => true
    | none => operands.length > 1
  let step (s : Nat × Bool) (path : Text) : Run (Nat × Bool) :=
    withInput path
      (fun e => do
        complain ("cannot open ".toList ++
          because (named path ++ " for reading".toList) e)
        return (1, s.2))
      fun d => do
        if headed then out (header s.2 path)
        return (max s.1 (← f path d), false)
  let (code, _) ← (orInput operands).foldlM step (0, true)
  return code

def readError (path : Text) (e : SystemError) : Run Nat := do
  let path := if path = ['-'] then "standard input".toList else path
  cannot "error reading" path e

/-- Copies the first `n` lines. -/
def firstLines (path : Text) (d : Nat) : Nat → Nat → Run Nat
  | 0, _ => return 0
  | fuel + 1, n => do
    if n = 0 then return 0
    match ← ask (.read d 1024) with
    | .ok [] => return 0
    | .ok bytes =>
      let (text, left, rest) := takeLines n (ofBytes bytes) []
      out text
      if left = 0 && !rest.isEmpty then
        let _ ← ask (.back d rest.length)
      firstLines path d fuel left
    | .error e => readError path e

/-- Copies the first `n` bytes. -/
def firstBytes (path : Text) (d : Nat) : Nat → Nat → Run Nat
  | 0, _ => return 0
  | fuel + 1, n => do
    if n = 0 then return 0
    match ← ask (.read d (min n 8192)) with
    | .ok [] => return 0
    | .ok bytes =>
      emit bytes
      firstBytes path d fuel (n - bytes.length)
    | .error e => readError path e

/-- Gives `f` all that comes from a descriptor. -/
def whole (path : Text) (d : Nat) (f : Text → Run Nat) : Run Nat := do
  match ← slurp d with
  | .ok bytes => f (ofBytes bytes)
  | .error e => readError path e

/-- Whether a word is a count of its own, such as `-3` or `-20c`. -/
def count? (cs : Text) : Option (Text × Text) :=
  match cs with
  | '-' :: rest =>
    let (digits, more) := rest.span Char.isDigit
    if digits.isEmpty then none else some (digits, more)
  | _ => none

/-- The words that a count at the very front stands for. -/
def withCount : List Text → Option (List Text)
  | a :: rest =>
    (count? a).bind fun (digits, more) =>
      let size := if more.contains 'k' then some 'k' else if more.contains 'm' then some 'M'
        else if more.contains 'b' then some 'b' else none
      let bytes := more.contains 'c' || size.isSome
      let flags := more.filter fun c => c = 'q' || c = 'v'
      if more.all "cbkmlqvz".toList.contains then
        some (['-', if bytes then 'c' else 'n'] :: (digits ++ size.toList) ::
          (if flags.isEmpty then rest else ('-' :: flags) :: rest))
      else none
  | [] => none

def spelling : Options :=
  .make "c:n:qvz"
    [("bytes", 'c'), ("lines", 'n'), ("quiet", 'q'), ("silent", 'q'), ("verbose", 'v'),
      ("zero-terminated", 'z')]

end Ends

open Ends in
def head : Tool := do
  let args ← arguments
  if let some args := withCount args then modify fun d => { d with call := { d.call with args } }
  let (os, operands) ← readOptions spelling
  let p ← portion os
  let n := p.size.amount
  let all := p.size.sign == some '-'
  overFiles os operands fun path d =>
    match p.unit, all with
    | .lines, false => firstLines path d Prog.fuel n
    | .bytes, false => firstBytes path d Prog.fuel n
    | .lines, true => whole path d fun cs => do
      out (allButLines n cs)
      return 0
    | .bytes, true => whole path d fun cs => do
      out (cs.take (cs.length - n))
      return 0

namespace Ends

/-- Counts at the front that may also begin with a plus sign. -/
def tailCount (args : List Text) : Option (List Text) :=
  let make (sign : Char) (rest more : Text) (files : List Text) : Option (List Text) :=
    let (digits, more) := (rest ++ more).span Char.isDigit
    let digits := if digits.isEmpty then ['1', '0'] else digits
    let letter := if more.head? = some 'c' || more.head? = some 'b' then 'c' else 'n'
    let unit : Text := if more.head? = some 'b' then ['b'] else []
    if ["".toList, ['c'], ['b'], ['l']].contains more then
      some (['-', letter] :: (sign :: digits ++ unit) :: files)
    else none
  match args with
  | ('-' :: c :: cs) :: files =>
    if files.length > 1 && files.head? != some ['-', '-'] then none
    else if c.isDigit then make '-' (c :: cs) [] files
    else none
  | ('+' :: c :: cs) :: files =>
    if files.length > 1 && files.head? != some ['-', '-'] then none
    else if c.isDigit then make '+' (c :: cs) [] files
    else none
  | _ => none

end Ends

open Ends in
def tail : Tool := do
  let args ← arguments
  if let some args := tailCount args then modify fun d => { d with call := { d.call with args } }
  else if let some (digits, _) := args.head?.bind count? then
    fail ("option used in invalid context -- ".toList ++ digits.take 1)
  let (os, operands) ← readOptions <| .make "c:n:qvzfFs:"
    [("bytes", 'c'), ("lines", 'n'), ("quiet", 'q'), ("silent", 'q'), ("verbose", 'v'),
      ("zero-terminated", 'z'), ("follow", 'f'), ("sleep-interval", 's')]
  let p ← portion os
  let n := p.size.amount
  let front := p.size.sign == some '+'
  overFiles os operands fun path d =>
    whole path d fun cs => do
      out <| match p.unit, front with
        | .lines, true => fromLine n cs
        | .lines, false => lastLines n cs
        | .bytes, true => cs.drop (n - 1)
        | .bytes, false => cs.drop (cs.length - n)
      return 0

end CellRunner.Tool
