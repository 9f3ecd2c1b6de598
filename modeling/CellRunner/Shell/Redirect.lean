import CellRunner.Shell.Expand

/-!
# Redirections

A redirection makes a descriptor lead elsewhere; what it led to before is kept for later.
-/

set_option autoImplicit false

namespace CellRunner.Shell.Redirection

open Machine (Prog)
open Copy (close moveDescriptor)

/-- A redirected descriptor, and the descriptor that keeps what it led to before. -/
structure Saved where
  descriptor : Nat
  copy : Option Nat

def restore : List Saved → Script Unit
  | [] => return ()
  | s :: ss => do
    match s.copy with
    | some c => moveDescriptor c s.descriptor
    | none => close s.descriptor
    restore ss

/-- Gives up what redirected descriptors led to before. -/
def forget (saved : List Saved) : Script Unit := do
  for s in saved do
    if let some c := s.copy then close c

def firstSaved : Nat := 10

/-- Keeps what a descriptor leads to. -/
def save (descriptor : Nat) : Script Saved := do
  return ⟨descriptor, (← Script.ask (.copyFrom descriptor firstSaved)).toOption⟩

/-- Why a file cannot be opened, made or run. -/
def reason (missing : String) (e : SystemError) : Text :=
  (if e = .noEntry || e = .notDirectory then missing else e.text).toList

def opening : RedirectKind → Machine.Opening
  | .input => .read
  | .append => .append
  | .appendOutputs => .append
  | .both => .both
  | _ => .truncate

/-- How a file is opened that may not be replaced; the error is that it is there. -/
def sparing (target : Text) : Script (Except SystemError Machine.Opening) := do
  match ← Script.ask (.stat (asName target) true) with
  | .error _ => return .ok .new
  | .ok info => return if info.kind == .file then .error .exists else .ok .write

def openTarget (kind : RedirectKind) (target : Text) : Script (Except SystemError Nat) := do
  let spares := (kind = .output || kind = .outputs) && (← Script.isOn "noclobber")
  let how ← if spares then sparing target else pure (.ok (opening kind))
  match how with
  | .error e => return .error e
  | .ok how => Script.ask (.open (asName target) how 0o666 0)

/-- Tells why a file cannot be opened. -/
def tellFailure (kind : RedirectKind) (target : Text) (e : SystemError) : Script Unit := do
  if ← Script.isExtended then
    let spares := (kind = .output || kind = .outputs) && (← Script.isOn "noclobber")
    let why := if spares && e = .exists then "cannot overwrite existing file" else e.text
    Script.complain (target ++ ": ".toList ++ why.toList)
  else if kind = .input then
    Script.complain ("cannot open ".toList ++ target ++ ": ".toList ++ reason "No such file" e)
  else
    Script.complain
      ("cannot create ".toList ++ target ++ ": ".toList ++ reason "Directory nonexistent" e)

/-- Makes a descriptor lead where a new one leads. -/
def settle (descriptor d : Nat) : Script Saved := do
  if d = descriptor then return ⟨d, none⟩
  else
    let saved ← save descriptor
    moveDescriptor d descriptor
    return saved

def toFile (r : Redirect) (target : Text) : Script (Option (List Saved)) := do
  match ← openTarget r.kind target with
  | .error e =>
    tellFailure r.kind target e
    return none
  | .ok d => return some [← settle r.descriptor d]

/-- Both outputs go to one file. -/
def bothToFile (r : Redirect) (target : Text) : Script (Option (List Saved)) := do
  let kind := if r.kind = .duplicate || r.kind = .duplicateOutput then RedirectKind.outputs
    else r.kind
  match ← openTarget kind target with
  | .error e =>
    tellFailure kind target e
    return none
  | .ok d =>
    let saved ← settle 1 d
    let errors ← save 2
    let _ ← Script.ask (.copy 1 2)
    return some [errors, saved]

def toDescriptor (r : Redirect) (target : Text) : Script (Option (List Saved)) := do
  if target = ['-'] then
    let saved ← save r.descriptor
    close r.descriptor
    return some [saved]
  else
    let moves := target.getLast? = some '-'
    let source := Format.decimal (if moves then target.dropLast else target)
    if source = r.descriptor then
      let used ← Script.ask .descriptors
      if used.contains source then return some []
    let saved ← save r.descriptor
    match ← Script.ask (.copy source r.descriptor) with
    | .ok () =>
      if moves then close source
      return some [saved]
    | .error e =>
      forget [saved]
      Script.complain (target ++ ": ".toList ++ ofString e.text)
      return none

/-- The longest text that a pipe takes before it is read. -/
def pipeRoom : Nat := 4096

/-- The end of a pipe that gives a text, which somebody else fills if the text is long. -/
def readEnd (run : Runner) (text : Text) : Script Nat := do
  let (source, target) ← Script.ask .pipe
  if text.length ≤ pipeRoom then
    let _ ← Script.run (Prog.put target (toBytes text))
  else
    let _ ← Copy.copyAs run true do
      close source
      let _ ← Script.run (Prog.put target (toBytes text))
  close target
  return source

/-- Reads a text. -/
def toText (run : Runner) (r : Redirect) (text : Text) : Script (Option (List Saved)) := do
  return some [← settle r.descriptor (← readEnd run text)]

/-- The target of a redirection as a text; the error tells that it is no single word. -/
def targetOf (run : Runner) (r : Redirect) : Script (Except Text Text) := do
  let isExtended ← Script.isExtended
  match r.kind with
  | .document => return .ok (← Expand.single run r.target)
  | .text => return .ok ((← Expand.single run r.target) ++ ['\n'])
  | _ =>
    if isExtended then
      match ← Expand.fieldsOf run r.target with
      | [only] => return .ok only
      | _ => return .error (Part.written r.target)
    else return .ok (← Expand.single run r.target)

/-- Whether a text names a descriptor, or asks to close one. -/
def isDescriptor (extended : Bool) (cs : Text) : Bool :=
  cs = ['-'] ||
    (if extended then
      let ds := if cs.getLast? = some '-' then cs.dropLast else cs
      Script.isNumber ds
    else cs.length = 1 && cs.all Char.isDigit)

/-- Tells that a word stands for no target. -/
def ambiguous (cs : Text) : Script (Option (List Saved)) := do
  Script.complain (cs ++ ": ambiguous redirect".toList)
  return none

/-- The number in the variable that holds a descriptor. -/
def heldDescriptor (name : Text) : Script (Option Nat) := do
  let base := name.takeWhile (· != '[')
  let index := ((name.drop base.length).drop 1).dropLast
  let v ← if base.length = name.length then Script.value? name
    else do
      let key ← Variables.keyOf base index
      pure (((← Script.find? base).bind (·.value)).bind (Script.Value.item? · key))
  return (v.filter Script.isNumber).map Format.decimal

/-- Keeps a descriptor under a new number that goes to a variable; nothing is restored. -/
def hold (name : Text) (d : Nat) : Script (Option (List Saved)) := do
  let base := name.takeWhile (· != '[')
  let index := ((name.drop base.length).drop 1).dropLast
  match ← Script.ask (.copyFrom d firstSaved) with
  | .error e =>
    close d
    Script.complain (ofString e.text)
    return none
  | .ok n =>
    let _ ← Script.ask (.copy n n)
    close d
    if ← Variables.give base (if base.length = name.length then none else some index) false
        (Script.decimal n) then return some []
    else
      close n
      Script.complain (name ++ ": cannot assign fd to variable".toList)
      return none

/-- Opens what a redirection leads to under a new number. -/
def carryOutHeld (run : Runner) (r : Redirect) (name target : Text) :
    Script (Option (List Saved)) := do
  let isDuplicate := r.kind = .duplicate || r.kind = .duplicateOutput
  if r.kind = .document || r.kind = .text then
    hold name (← readEnd run target)
  else if isDuplicate then
    if target = ['-'] then
      match ← heldDescriptor name with
      | some d =>
        close d
        return some []
      | none => ambiguous name
    else if isDescriptor true target then
      match ← Script.ask (.copyFrom (Format.decimal target) firstSaved) with
      | .ok n => hold name n
      | .error e =>
        Script.complain (target ++ ": ".toList ++ ofString e.text)
        return none
    else ambiguous (Part.written r.target)
  else
    match ← openTarget r.kind target with
    | .error e =>
      tellFailure r.kind target e
      return none
    | .ok d => hold name d

/-- Carries out a redirection; none when it fails. -/
def carryOut (run : Runner) (r : Redirect) : Script (Option (List Saved)) := do
  let isExtended ← Script.isExtended
  match ← targetOf run r with
  | .error spelling => ambiguous spelling
  | .ok target =>
    if let some name := r.holder then return ← carryOutHeld run r name target
    match r.kind with
    | .document => toText run r target
    | .text => toText run r target
    | .outputs => bothToFile r target
    | .appendOutputs => bothToFile r target
    | .duplicate =>
      if isDescriptor isExtended target then toDescriptor r target
      else if isExtended then ambiguous (Part.written r.target)
      else Script.abort "Syntax error: Bad fd number".toList
    | .duplicateOutput =>
      if isDescriptor true target then toDescriptor r target else bothToFile r target
    | _ => toFile r target

/-- Carries out redirections; `saved` has the last one first. None when one fails. -/
def carryOutAll (run : Runner) : List Redirect → List Saved → Script (Option (List Saved))
  | [], saved => return some saved
  | r :: rs, saved => do
    match ← carryOut run r with
    | some s => carryOutAll run rs (s ++ saved)
    | none =>
      restore saved
      return none

/-- The status of a command whose redirections fail. -/
def failure : Script Nat := do return if ← Script.isExtended then 1 else 2

/-- Does `body` with redirections, or `failed` when they cannot be made. -/
def within (run : Runner) (rs : List Redirect) (failed body : Script Unit) : Script Unit := do
  if rs.isEmpty then body
  else
    match ← carryOutAll run rs [] with
    | none => failed
    | some saved => Script.andThen body (restore saved)

end CellRunner.Shell.Redirection
