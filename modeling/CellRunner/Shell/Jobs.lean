import CellRunner.Shell.Copy

/-!
# Jobs

A job is a pipeline. The shell knows those that run in the background, or are stopped, by their
numbers, and tells of changes when it has waited for a command.
-/

set_option autoImplicit false

namespace CellRunner.Shell.Jobs

def hasEnded (j : Job) : Bool := j.members.all (·.status.isSome)

def isStopped (j : Job) : Bool :=
  !hasEnded j && j.members.all fun m => m.status.isSome || m.stopped.isSome

def isRunning (j : Job) : Bool := !hasEnded j && !isStopped j

/-- The process whose number stands for a job. -/
def leader (j : Job) : Nat := (j.members.head?.map (·.process)).getD 0

def lastProcess (j : Job) : Nat := (j.members.getLast?.map (·.process)).getD 0

def withNumber? (n : Nat) : Script (Option Job) := do
  return (← get).jobs.find? (·.number == n)

/-- The job that a process belongs to. -/
def ofProcess? (process : Nat) : Script (Option Job) := do
  return (← get).jobs.find? fun j => j.members.any (·.process == process)

/-- Whether jobs are groups that can be stopped and taken back. -/
def isControlled : Script Bool := do
  let s ← get
  return s.options.contains "monitor" && s.copies = 0

/-- How a job ended as a whole. -/
def statusOf (j : Job) : Script Machine.Status := do
  let statuses := j.members.map fun m => m.status.getD (.exited 0)
  if ← Script.isOn "pipefail" then
    return (statuses.reverse.find? (· != .exited 0)).getD (.exited 0)
  else return statuses.getLastD (.exited 0)

/-! ### The present job -/

/-- The number of the last job below `limit` that satisfies `p`. -/
def lastBelow (limit : Option Nat) (p : Job → Bool) : Script (Option Nat) := do
  let numbers := ((← get).jobs.filter p).map (·.number)
  let numbers := numbers.filter fun n => limit.all (n < ·)
  return numbers.foldl (fun m n => some (max n (m.getD 0))) none

/-- Makes a job the one that is meant when none is named. -/
def setPresent (n : Nat) : Script Unit := do
  let s ← get
  let previous := if s.presentJob = some n then s.previousJob else s.presentJob
  let isStoppedAt (m : Nat) : Bool := s.jobs.any fun j => j.number = m && isStopped j
  set { s with presentJob := some n, previousJob := previous }
  if previous.any fun m => m != n && isStoppedAt m then return ()
  let older ← if isStoppedAt n then lastBelow (some n) isStopped else pure none
  match older with
  | some m => modify fun s => { s with previousJob := some m }
  | none =>
    let runs := s.jobs.any fun j => j.number = n && isRunning j
    let m ← lastBelow (if runs then some n else none) isRunning
    modify fun s => { s with previousJob := some (m.getD n) }

/-- Chooses the present job anew: the last one that is stopped, or else the last one. -/
def choosePresent : Script Unit := do
  let s ← get
  let isStoppedAt (m : Option Nat) : Bool :=
    m.any fun m => s.jobs.any fun j => j.number = m && isStopped j
  let candidate ← if isStoppedAt s.presentJob then pure s.presentJob
    else if isStoppedAt s.previousJob then pure s.previousJob
    else do
      match ← lastBelow none isStopped with
      | some n => pure (some n)
      | none => lastBelow none isRunning
  match candidate with
  | some n => setPresent n
  | none => modify fun s => { s with presentJob := none, previousJob := none }

/-! ### Changes -/

def change (j : Job) : Script Unit :=
  modify fun s => { s with jobs := s.jobs.map fun k => if k.number = j.number then j else k }

/-- Notes a new state of a process. -/
def note (process : Nat) (f : Worker → Worker) : Script Unit := do
  if let some j := ← ofProcess? process then
    let after := { j with members := j.members.map fun m => if m.process = process then f m else m }
    let isNew := (hasEnded after && !hasEnded j) || (isStopped after && !isStopped j)
    change (if isNew then { after with isKnown := false } else after)
    if isStopped after && !isStopped j then setPresent j.number

def noteEnd (process : Nat) (status : Machine.Status) : Script Unit := do
  note process fun m => { m with status := some status, stopped := none }
  Copy.noteChild

/-- Looks how the processes of jobs are, but for those that could not react yet. -/
def refresh : Script Unit := do
  let signaled := (← get).signaled
  for j in (← get).jobs.reverse do
    for m in j.members do
      if m.status.isNone && !signaled.contains m.process then
        match ← Script.ask (.ended m.process) with
        | some _ =>
          match ← Script.ask (.wait (some m.process) false) with
          | .ok (_, status) => noteEnd m.process status
          | .error _ => noteEnd m.process (.exited 127)
        | none =>
          let stopped : Option Nat ← Script.ask (.stopOf m.process)
          if stopped != m.stopped then note m.process fun m => { m with stopped }

/-- Forgets a job; how its last process ended may be asked for later. -/
def remove (remembers : Bool) (j : Job) : Script Unit := do
  modify fun s =>
    let ended := j.members.getLast?.bind fun m => m.status.map fun status => (m.process, status)
    { s with
      jobs := s.jobs.filter (·.number != j.number)
      pastJobs := if remembers && !j.isForeground then ended.toList ++ s.pastJobs
        else s.pastJobs }
  let s ← get
  if s.dialect == .extended &&
      (s.presentJob = some j.number || s.previousJob = some j.number) then choosePresent

/-- Forgets the jobs that have ended and of which that was told. -/
def clean : Script Unit := do
  for j in (← get).jobs.reverse do
    if hasEnded j && j.isKnown then remove true j

/-- A number for a new job. -/
def freeNumber (s : State) : Nat :=
  let used := s.jobs.map (·.number)
  match s.dialect with
  | .plain => ((List.range (used.length + 1)).map (· + 1)).find? (!used.contains ·) |>.getD 1
  | .extended => used.foldl max 0 + 1

/-- Takes up a job in the background. -/
def add (members : List Worker) : Script Unit := do
  let isExtended ← Script.isExtended
  if isExtended then clean
  else
    -- a place whose job has ended and was waited for is free
    let s ← get
    let ended := (s.jobs.filter fun j => hasEnded j && j.isKnown).map (·.number)
    let least := ended.foldl (fun m n => some (match m with | some m => min m n | none => n)) none
    let free := freeNumber { s with jobs := s.jobs.filter fun j => some j.number != least }
    if least = some free then
      set { s with jobs := s.jobs.filter fun j => some j.number != least }
  let isGroup ← isControlled
  modify fun s =>
    let j : Job := { number := freeNumber s, members, place := s.cwd, isGroup }
    { s with jobs := j :: s.jobs }
  if isExtended then choosePresent

/-! ### Listing -/

def padded (width : Nat) (cs : Text) : Text := cs ++ List.replicate (width - cs.length) ' '

def paddedLeft (width : Nat) (cs : Text) : Text := List.replicate (width - cs.length) ' ' ++ cs

/-- The state of a process as jobs are listed. -/
def stateText (isLong : Bool) (j : Job) (m : Worker) : Text :=
  if isStopped j && !isLong then "Stopped".toList
  else if isRunning j then "Running".toList
  else
    match m.stopped, m.status with
    | some n, none => (Signal.description n).toList
    | _, some (.signaled n) => (Signal.description n).toList
    | _, some (.exited 0) => "Done".toList
    | _, some (.exited n) => "Exit ".toList ++ Script.decimal n
    | none, none => "Running".toList

/-- A path below the home directory begins with a tilde. -/
def shownPlace (path : Text) : Script Text := do
  match ← Script.lookup "HOME".toList with
  | some home =>
    if home.length > 1 && home.isPrefixOf path &&
        (path.length = home.length || (path.drop home.length).head? = some '/') then
      return '~' :: path.drop home.length
    else return path
  | none => return path

/-- What follows the commands of a job. -/
def ending (j : Job) : Script Text := do
  let place ← if (← get).cwd = j.place then pure [] else do
    pure ("  (wd: ".toList ++ (← shownPlace j.place) ++ [')'])
  return (if isRunning j && !j.isForeground then " &".toList else []) ++ place ++ ['\n']

/-- The processes of a job with their states. -/
def pipelineText (isLong : Bool) (j : Job) : Script Text := do
  let tail ← ending j
  let last := j.members.getLastD { process := 0 }
  let first := j.members.headD { process := 0 }
  let size := j.members.length
  let one (m : Worker) (i : Nat) : Text :=
    let front := if i = 0 then [] else if isLong then "     ".toList else " |".toList
    let number := if isLong then paddedLeft 5 (Script.decimal m.process) else []
    let state := stateText isLong j (if isLong then m else last)
    let state :=
      if i = 0 then padded 24 state
      else if !isLong then []
      else if m.status = first.status && m.stopped = first.stopped then padded 22 []
      else padded 24 state
    let isLast := i + 1 = size
    front ++ number ++ ' ' :: state ++ (if i > 0 && isLong then "| ".toList else []) ++ m.text ++
      (if isLast then tail else if isLong then ['\n'] else [])
  return (j.members.zipIdx.map fun (m, i) => one m i).flatten

/-- The line, or the lines, of a job in a list. -/
def listed (isLong : Bool) (j : Job) : Script Text := do
  let s ← get
  let mark := if s.presentJob = some j.number then '+'
    else if s.previousJob = some j.number then '-' else ' '
  let body ← pipelineText isLong j
  return '[' :: Script.decimal j.number ++ ']' :: mark :: ' ' :: body

/-- Texts of errors go to the standard error. -/
def say (cs : Text) : Script Unit := do
  let _ ← Script.run (Machine.Prog.put 2 (toBytes cs))

/-- Tells where the shell is if a job was started elsewhere. -/
def sayPlace (j : Job) : Script Unit := do
  let cwd := (← get).cwd
  if cwd != j.place then say ("(wd now: ".toList ++ (← shownPlace cwd) ++ ")\n".toList)

/-- Tells how a job ended, if that is told at all. -/
def tellEnd (j : Job) (status : Machine.Status) : Script Unit := do
  let s ← get
  let quiet := [Machine.Signal.interrupt, Machine.Signal.pipe]
  match status with
  | .signaled n =>
    if !quiet.contains n && n != Machine.Signal.terminate && (s.traps.lookup n).isNone then
      say (Script.introduction { s with builtin := none } s.line)
      say (← pipelineText true j)
    else if j.isForeground then
      if !quiet.contains n then say ((Signal.description n).toList ++ ['\n'])
    else if ← isControlled then
      say (← listed false j)
      sayPlace j
  | .exited _ =>
    if !j.isForeground then
      if ← isControlled then
        say (← listed false j)
        sayPlace j

/-- Whether commands whose output is taken are not told of. -/
def tells (s : State) (j : Job) (status : Machine.Status) : Bool :=
  let isSignaled := match status with
    | .signaled _ => true
    | .exited _ => false
  s.isArgument || isSignaled || !((hasEnded j && !j.isForeground) || isStopped j)

/-- Tells of jobs whose state has changed, and forgets those that have ended. -/
def tellChanges : Script Unit := do
  for k in (← get).jobs.reverse do
    if let some j := ← withNumber? k.number then
      let s ← get
      let status ← statusOf j
      if !j.isKnown && tells s j status then
        if hasEnded j then
          if s.captures && s.isArgument then
            if s.lastBackground != some (lastProcess j) then change { j with isKnown := true }
          else
            tellEnd j status
            change { j with isKnown := true }
        else if isStopped j && !(s.captures && s.isArgument) then
          say ['\n']
          say (← listed false j)
          sayPlace j
          change { j with isKnown := true }
  clean

/-! ### Commands in the foreground -/

/-- Waits for the processes of a job in the foreground, which becomes one in the background if
it is stopped; `fuel` bounds the number of changes. -/
def awaitMembers : Nat → List Worker → List Worker → Script (List Worker)
  | 0, _, done => return done.reverse
  | _ + 1, [], done => return done.reverse
  | fuel + 1, m :: rest, done => do
    if ← isControlled then
      match ← Script.ask (.waitChange m.process) with
      | .ok (some status) =>
        Copy.noteChild
        awaitMembers fuel rest ({ m with status := some status } :: done)
      | .ok none =>
        let stopped : Option Nat ← Script.ask (.stopOf m.process)
        awaitMembers fuel rest ({ m with stopped } :: done)
      | .error _ => awaitMembers fuel rest ({ m with status := some (.exited 127) } :: done)
    else
      match ← Script.ask (.wait (some m.process) false) with
      | .ok (_, status) =>
        Copy.noteChild
        awaitMembers fuel rest ({ m with status := some status } :: done)
      | .error _ => awaitMembers fuel rest ({ m with status := some (.exited 127) } :: done)

/-- The status of a command with a process. -/
def codeOf (m : Worker) : Nat :=
  match m.stopped, m.status with
  | some n, none => 128 + n
  | _, some status => Copy.statusCode status
  | _, none => 0

/-- Waits for the processes of a command; their statuses. -/
def await (members : List Worker) : Script (List Nat) := do
  if !(← Script.isExtended) then
    let mut out : List Nat := []
    for m in members do out := (← Copy.await m.process) :: out
    return out.reverse
  let members ← awaitMembers (2 * members.length + 1) members []
  modify fun s => { s with signaled := [] }
  refresh
  let s ← get
  let j : Job :=
    { number := freeNumber s, members, place := s.cwd, isForeground := true
      isGroup := ← isControlled }
  if hasEnded j then
    tellChanges
    tellEnd j (← statusOf j)
  else
    set { s with jobs := { j with isForeground := false } :: s.jobs }
    setPresent j.number
    tellChanges
  return members.map codeOf

/-- Makes a new process one of a group with the first one, if jobs are groups. -/
def group (first : Option Nat) (process : Nat) : Script Unit := do
  if ← isControlled then
    let _ ← Script.ask (.join process first)

end CellRunner.Shell.Jobs
