import CellRunner.Shell.Handler

/-!
# Traces of commands

The shell may show each command before it is carried out.
-/

set_option autoImplicit false

namespace CellRunner.Shell.Trace

open Machine (Prog)

/-- A word as traces of the extended dialect show it. -/
def word (cs : Text) : Text :=
  if cs.isEmpty then "''".toList
  else if Format.isSpecial cs then
    Format.singleQuoted cs
  else if cs.any fun c => c < ' ' || c.toNat ≥ 127 then Format.escapeQuoted cs
  else cs

/-- What traces begin with. -/
def introduction (run : Runner) : Script Text := do
  let s ← get
  let mark := (← Script.lookup "PS4".toList).getD []
  let mark ← if mark.any fun c => c = '$' || c = Parser.backquote then
      match Parse.document? s.dialect mark with
      | some w => do
        modify fun s => { s with options := s.options.filter (· != "xtrace") }
        let cs ← Expand.single run w
        modify fun t => { t with options := s.options, status := s.status }
        pure cs
      | none => pure mark
    else pure mark
  match s.dialect, mark with
  | .extended, c :: _ => return List.replicate s.nesting c ++ mark
  | _, _ => return mark

/-- Shows a line on a descriptor. -/
def show_ (run : Runner) (descriptor : Nat) (line : Text) : Script Unit := do
  if ← Script.isOn "xtrace" then
    let front ← introduction run
    let _ ← Script.run (Prog.put descriptor (toBytes (front ++ line ++ ['\n'])))

/-- Shows assignments, as they are, and words of a command. -/
def command (run : Runner) (descriptor : Nat) (assignments args : List Text) : Script Unit := do
  if ← Script.isOn "xtrace" then
    match (← get).dialect with
    | .plain =>
      show_ run descriptor (List.intercalate [' '] (assignments ++ args))
    | .extended =>
      for a in assignments do show_ run descriptor a
      if !args.isEmpty then show_ run descriptor (List.intercalate [' '] (args.map word))

/-- Shows a compound command of the extended dialect. -/
def compound (run : Runner) (line : Script Text) : Script Unit := do
  if (← Script.isOn "xtrace") && (← Script.isExtended) then show_ run 2 (← line)

end CellRunner.Shell.Trace
