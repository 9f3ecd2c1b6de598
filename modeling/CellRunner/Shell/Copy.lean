import CellRunner.Machine.Signal
import CellRunner.Shell.Signal
import CellRunner.Shell.State

/-!
# Scripts and copies of a shell

A script is read and carried out a line at a time. Some commands run in a copy of the shell,
which ends with them.
-/

set_option autoImplicit false

namespace CellRunner.Shell.Copy

open Machine (Prog)

def close (descriptor : Nat) : Script Unit := do
  let _ ← Script.ask (.close descriptor)

/-- Makes `target` the only name of what `source` leads to. -/
def moveDescriptor (source target : Nat) : Script Unit := do
  if source != target then
    let _ ← Script.ask (.copy source target)
    close source

/-! ### Scripts -/

/-- A text as a source of commands, the first line of which has a number. -/
def sourceOf (d : Dialect) (line : Nat) (cs : Text) : Source :=
  let lines := match d with
    | .plain => []
    | .extended => ((String.ofList cs).splitOn "\n").map String.toList
  { rest := cs, line, dialect := d, lines, firstLine := line, endsLine := cs.getLast? = some '\n' }

/-- Tells why a script cannot be read on; `label` says what the script is. -/
def report (label : Text) (f : Fault) : Script Unit := do
  let s ← get
  match s.dialect with
  | .plain =>
    modify fun s => { s with line := f.line }
    Script.abort (f.messages.headD [])
  | .extended =>
    for m in f.messages do
      Script.tell (s.messageName ++ ": ".toList ++ label ++ "line ".toList ++
        Script.decimal f.line ++ ": ".toList ++ m)
    Script.setStatus f.status

/-- How a source depends on the state of the shell. -/
def upToDate (s : State) (source : Source) : Source :=
  { source with
    aliases :=
      if s.dialect == .plain || s.features.contains "expand_aliases" then s.aliases else []
    groups := s.features.contains "extglob" }

/-- Carries out one line, after which those that it leaves out may follow; `isMain` tells that
it is one of the outermost script. -/
def carryOut (run : Runner) (isMain last : Bool) (c : Command) : Script Unit := do
  if ← Script.isOn "noexec" then return ()
  match ← Script.outcome (run last c) with
  | .ok () => return ()
  | .error .leaveLine =>
    Script.setStatus 1
    if (← get).copies > 0 then Script.escape (.exit 1)
  | .error .leaveScripts =>
    if isMain && (← get).copies = 0 then Script.setStatus 1 else Script.escape .leaveScripts
  | .error e => Script.escape e

/-- Warnings that came up in reading. -/
def warn (source : Source) : Script Unit := do
  let s ← get
  for (line, message) in source.warnings.reverse do
    Script.tell (Script.introduction { s with builtin := none } line ++ message)

/-- Shows what was read, if that is asked for. -/
def showRead (before after : Text) : Script Unit := do
  if ← Script.isOn "verbose" then
    let _ ← Script.run (Prog.put 2 (toBytes (before.take (before.length - after.length))))

/-- Carries out the commands of a source, line by line; whether all of it could be read.
`fuel` bounds the lines. -/
def follow (run : Runner) (last shows : Bool) (label : Text) : Nat → Source → Script Bool
  | 0, _ => return true
  | fuel + 1, source => do
    let source := upToDate (← get) source
    match Parse.line source with
    | .error (.fault f) =>
      if shows then showRead source.rest []
      report label f
      return false
    | .error .incomplete => return true
    | .ok (l, next) =>
      warn next
      if shows then showRead source.rest next.rest
      match l.command with
      | none => return true
      | some c =>
        carryOut run shows (last && l.isLast) c
        if l.isLast then return true else follow run last shows label fuel next

/-- Carries out the commands of a text. -/
def source (run : Runner) (last : Bool) (label : Text) (line : Nat) (cs : Text) : Script Bool := do
  follow run last false label Prog.fuel (sourceOf (← get).dialect line cs)

/-! ### The end of a shell -/

/-- The status with which commands end the shell. -/
def finalStatus (body : Script Unit) : Script Nat := do
  match ← Script.outcome body with
  | .error (.exit n) => return n
  | .error (.fault n) => return n
  | .error (.leaveFunction n) => return n
  | .error .leaveLine => return 1
  | .error .leaveScripts => return 1
  | _ => return (← get).status

/-- Carries out the last trap, if there is one; the status is that of the shell. -/
def lastTrap (run : Runner) (status : Nat) : Script Nat := do
  match (← get).traps.lookup 0 with
  | none => return status
  | some action =>
    modify fun s =>
      { s with
        traps := s.traps.filter (·.1 != 0), status, builtin := none, trapped := some status
        guards := 0 }
    match ← Script.outcome (source run false "exit trap: ".toList 1 action) with
    | .error (.exit n) => return n
    | .error (.fault n) => return n
    | _ => return status

/-- The status with which the shell ends after `body`, once its last trap is sprung. -/
def conclude (run : Runner) (body : Script Unit) : Script Nat := do
  lastTrap run (← finalStatus body)

/-- The whole task of a shell. -/
def task (run : Runner) (s : State) (body : Script Unit) : Machine.Task :=
  Prog.task do
    let (r, _) ← StateT.run (ExceptT.run (conclude run body)) s
    match r with
    | .ok n => return n
    | .error _ => return s.status

/-- Whether a trap holds in copies as well. -/
def isInherited (s : State) (t : Nat × Text) : Bool :=
  (t.1 != 0 && t.2.isEmpty) || (t.1 = Signal.failure && s.options.contains "errtrace") ||
    ((t.1 = Signal.debug || t.1 = Signal.return_) && s.options.contains "functrace")

/-- The state of a copy; its only traps are those that ignore signals. -/
def copied (s : State) : State :=
  { s with
    traps := s.traps.filter (isInherited s)
    pastTraps := s.traps, loops := if s.dialect == .plain then s.loops else 0
    copies := s.copies + 1, borrowed := [], jobs := [], presentJob := none, previousJob := none
    pastJobs := [] }

/-- The number of a copy of this shell that does `body` and ends. A copy that nobody waits for
ignores what a user would stop it with. -/
def copyAs (run : Runner) (unattended : Bool) (body : Script Unit) : Script Nat := do
  let s := copied (← get)
  let spared := if unattended then [Machine.Signal.interrupt, Machine.Signal.quit] else []
  let s := { s with ignored := s.ignored ++ spared }
  let body := do
    Script.ask (.handle [] (s.ignored ++ (s.traps.filter (·.2.isEmpty)).map (·.1)))
    body
  Script.run (Prog.fork (task run s body))

def copy (run : Runner) (body : Script Unit) : Script Nat := copyAs run false body

/-! ### Waiting -/

/-- The status that a wait reports. -/
def statusCode : Machine.Status → Nat
  | .exited n => n
  | .signaled n => 128 + n

/-- Tells that a signal has ended a process of the plain dialect, but for signals that users
send. -/
def tellEnd (status : Machine.Status) : Script Unit := do
  let s ← get
  match status, s.dialect with
  | .exited _, _ => return ()
  | .signaled n, .plain =>
    if n != Machine.Signal.interrupt && n != Machine.Signal.pipe then
      Script.tell (Signal.description n).toList
  | .signaled _, .extended => return ()

/-- Notes that a child has ended, if a trap asks for that. -/
def noteChild : Script Unit := do
  let s ← get
  let n := Machine.Signal.child
  if (s.traps.lookup n).any (!·.isEmpty) then
    if s.dialect == .extended || !s.arrived.contains n then
      set { s with arrived := s.arrived ++ [n] }

/-- Waits for a process of this shell, and tells when a signal has ended it. -/
def await (number : Nat) : Script Nat := do
  match ← Script.ask (.wait (some number) false) with
  | .ok (_, status) =>
    noteChild
    tellEnd status
    return statusCode status
  | .error _ => return 127

/-! ### Output as text -/

def withoutNewlines (cs : Text) : Text := (cs.reverse.dropWhile (· = '\n')).reverse

/-- Lets a copy know the jobs of the shell that it is a copy of. -/
def keepJobs (s : State) : Script Unit :=
  modify fun t =>
    { t with jobs := s.jobs, presentJob := s.presentJob, previousJob := s.previousJob }

/-- What a command writes, without the newlines at the end and without NUL characters. -/
def capture (run : Runner) (c : Command) : Script Text := do
  let s ← get
  let (r, w) ← Script.ask .pipe
  let number ← copy run do
    close r
    moveDescriptor w 1
    modify fun t => { t with guards := 0, nesting := t.nesting + 1, captures := true }
    if s.dialect == .extended then keepJobs s
    if s.dialect == .extended && !s.features.contains "inherit_errexit" then
      modify fun s => { s with options := s.options.filter (· != "errexit") }
    run true c
  close w
  let bytes ← Script.run (Prog.readAll r Prog.fuel [])
  close r
  let status ← await number
  modify fun s => { s with captured := status }
  let cs := ofBytes (bytes.toOption.getD [])
  if cs.any (·.toNat = 0) then
    if s.dialect == .extended then
      Script.complain "warning: command substitution: ignored null byte in input".toList
    return withoutNewlines (cs.filter (·.toNat != 0))
  else return withoutNewlines cs

/-- The name of a file through which a command is read, or written. -/
def processFile (run : Runner) (reads : Bool) (c : Command) : Script Text := do
  let (r, w) ← Script.ask .pipe
  let (mine, other, target) := if reads then (r, w, 1) else (w, r, 0)
  let _ ← copyAs run true do
    close mine
    moveDescriptor other target
    run true c
  close other
  let used ← Script.ask .descriptors
  let d := ((List.range 64).reverse.find? (!used.contains ·)).getD mine
  moveDescriptor mine d
  modify fun s => { s with borrowed := d :: s.borrowed }
  return "/dev/fd/".toList ++ Script.decimal d

end CellRunner.Shell.Copy
