import CellRunner.Shell.Copy
import CellRunner.Shell.Lookup

/-!
# Carrying out traps

A trap holds commands that are carried out when a signal has come, when a command has failed or
is about to be carried out, or when a function is over.
-/

set_option autoImplicit false

namespace CellRunner.Shell.Handler

section

variable (run : Runner)

/-- The signals that have come and are waiting, in order. -/
def gather : Nat → Script Unit
  | 0 => return ()
  | fuel + 1 => do
    match ← Script.ask .pending with
    | none => return ()
    | some n =>
      modify fun s =>
        { s with arrived := (n :: s.arrived.filter (· != n)).mergeSort fun a b => a ≤ b }
      gather fuel

/-- Carries out a trap, after which the status is as before. -/
def spring (action : Text) : Script Unit := do
  let s ← get
  modify fun s => { s with trapped := some s.status, nesting := s.nesting + 1, guards := 0 }
  Script.andThen
    (do let _ ← Copy.source run false "trap: ".toList 1 action)
    (modify fun t =>
      { t with
        trapped := s.trapped, nesting := s.nesting, guards := s.guards
        lastTrapStatus := t.status })
  Script.setStatus s.status

/-- Springs the traps of the signals that have come; `fuel` bounds their number. -/
def springFrom : Nat → Script Unit
  | 0 => return ()
  | fuel + 1 => do
    match (← get).arrived with
    | [] => return ()
    | n :: rest =>
      modify fun s => { s with arrived := rest }
      if let some action := (← get).traps.lookup n then spring run action
      springFrom fuel

def springTraps : Script Unit := do
  let s ← get
  if s.traps.isEmpty && s.arrived.isEmpty then return ()
  gather Signal.lastFree
  springFrom run Signal.lastFree

/-- Carries out the trap of an event, which does not come up inside it. -/
def springEvent (event : Nat) : Script Unit := do
  match (← get).traps.lookup event with
  | some (c :: cs) =>
    let action := c :: cs
    modify fun s => { s with traps := s.traps.filter (·.1 != event) }
    Script.andThen (spring run action) <| modify fun t =>
      if (t.traps.lookup event).isSome then t
      else { t with traps := (event, action) :: t.traps }
  | _ => return ()

/-- Notes which command comes next, and carries out the trap that comes before each; whether the
command is carried out at all. -/
def announce (c : Command) : Script Bool := do
  let s ← get
  if s.dialect == .plain then return true
  if s.trapped.isNone then set { s with command := c }
  if (s.traps.lookup Signal.debug).isNone then return true
  let status := s.status
  let result ← do
    modify fun s => { s with lastTrapStatus := 0 }
    springEvent run Signal.debug
    pure (← get).lastTrapStatus
  Script.setStatus status
  return result = 0 || !(← Script.hasFeature "extdebug")

/-- Springs traps, and ends the shell if it stops on failure and this is one. -/
def settle : Script Unit := do
  springTraps run
  let s ← get
  if s.guards = 0 && s.status != 0 then
    if s.dialect == .extended then springEvent run Signal.failure
    if s.options.contains "errexit" then Script.escape (.exit s.status)

/-! ### Functions -/

/-- The events whose traps do not hold inside functions, but for those that are traced. -/
def untraced (s : State) (isTraced : Bool) : List Nat :=
  (if isTraced || s.options.contains "functrace" then [] else [Signal.debug, Signal.return_]) ++
    (if s.options.contains "errtrace" then [] else [Signal.failure])

/-- Does `body` without the traps that do not hold inside it. -/
def inside {α : Type} (isTraced : Bool) (body : Script α) : Script α := do
  let s ← get
  let events := untraced s isTraced
  let kept := s.traps.filter fun t => events.contains t.1
  if kept.isEmpty then body
  else
    set { s with traps := s.traps.filter fun t => !events.contains t.1 }
    Script.andThen body <| modify fun t =>
      { t with traps := t.traps ++ kept.filter fun k => (t.traps.lookup k.1).isNone }

end

end CellRunner.Shell.Handler
