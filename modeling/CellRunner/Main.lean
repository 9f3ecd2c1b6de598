import CellRunner.Host.Outcome
import CellRunner.Machine.Installed

/-!
# The command line

Files named by the arguments, by the configuration's usual name and by the directives of the
sources are copied to a fresh machine, on which the program then runs.
-/

set_option autoImplicit false

namespace CellRunner.Main

/-- The machine with a copy of a file, if there is one. -/
def copyIn (s : Machine.System) (path : String) : IO Machine.System := do
  try
    let bytes ← IO.FS.readBinFile path
    return (s.makeParents path).makeFile path bytes 0o644
  catch _ => return s

def sourcesOf (args : List String) : List String :=
  match Host.parse args with
  | .run i => i.sources ++ [i.config.getD Config.defaultPath]
  | _ => []

def scriptsOf (s : Machine.System) (path : String) : List String :=
  match Machine.world.read s path with
  | .ok bytes => (Directives.parse (Utf8.lossy bytes)).testScripts.map Text.trimmed
  | .error _ => []

def machine (args : List String) : IO Machine.System := do
  let mut s := Machine.fresh
  for path in sourcesOf args do
    s ← copyIn s path
    for script in scriptsOf s path do s ← copyIn s script
  if (sourcesOf args).contains "-" then
    let input ← (← IO.getStdin).readBinToEnd
    s := { s with input := input.toList }
  return s

end CellRunner.Main

def main (args : List String) : IO UInt32 := do
  let level ← IO.getEnv "CKERNEL_LOG"
  let (outcome, _) := CellRunner.Host.respond CellRunner.Machine.world args level
    (← CellRunner.Main.machine args)
  IO.print outcome.stdout
  for notice in outcome.notices do
    match notice with
    | .text s => IO.eprint s
    | .log line => IO.eprintln line.render
  return UInt32.ofNat outcome.exitCode
