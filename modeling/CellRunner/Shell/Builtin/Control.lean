import CellRunner.Shell.Builtin.Basic

/-!
# Leaving loops, functions and the shell
-/

set_option autoImplicit false

namespace CellRunner.Shell.Builtin

/-- The lowest eight bits of a number. -/
def lowBits (n : Int) : Nat := (n % 256).toNat

/-- The number in the first argument; in the extended dialect a text that is no number ends
the shell or the function. -/
def statusOf (args : List Text) : Script Nat := do
  match args with
  | [] => return (← get).status
  | a :: _ =>
    if ← Script.isExtended then
      match Condition.integer? a with
      | some n => return lowBits n
      | none =>
        Script.refuse (a ++ ": numeric argument required".toList)
        return 2
    else numberOf a

def tooMany : Script Nat := do
  Script.refuse "too many arguments".toList
  return 1

def exit (args : List Text) : Script Nat := do
  let isNumber := (Condition.integer? (args.headD [])).isSome
  if (← Script.isExtended) && args.length > 1 && isNumber then tooMany
  else
    let n ← match args, (← get).trapped with
      | [], some n => pure n
      | _, _ => statusOf args
    Script.escape (.exit n)

def return_ (args : List Text) : Script Nat := do
  let s ← get
  if s.dialect == .extended && s.calls.isEmpty && s.includes = 0 then
    Script.refuse ("can only ".toList ++ Parser.inMarks "return".toList ++
      " from a function or sourced script".toList)
    return 2
  else if s.dialect == .extended && args.length > 1 then tooMany
  else
    let n ← statusOf args
    Script.setStatus n
    Script.escape (.leaveFunction n)

/-- Leaves loops, or goes on with the next round of one; outside all loops nothing happens. -/
def leaveLoop (how : Nat → Escape) (args : List Text) : Script Nat := do
  let s ← get
  let isExtended := s.dialect == .extended
  if isExtended && s.loops = 0 then
    let marked (w : String) : Text := Parser.inMarks w.toList
    Script.refuse ("only meaningful in a ".toList ++ marked "for" ++ ", ".toList ++
      marked "while" ++ ", or ".toList ++ marked "until" ++ " loop".toList)
    return 0
  let count : Int ← match args with
    | [] => pure 1
    | a :: _ =>
      if isExtended then
        match Condition.integer? a with
        | some n => pure n
        | none => do
          Script.refuse (a ++ ": numeric argument required".toList)
          Script.escape (.exit 128)
      else do pure (Int.ofNat (← numberOf a))
  if count ≤ 0 then
    let a := args.headD []
    if isExtended then
      Script.refuse (a ++ ": loop count out of range".toList)
      Script.setStatus 1
      Script.escape (.leaveLoops s.loops)
    else Script.abort ("Illegal number: ".toList ++ a)
  else if s.loops = 0 then return 0
  else
    Script.setStatus 0
    Script.escape (how (min count.toNat s.loops))

end CellRunner.Shell.Builtin
