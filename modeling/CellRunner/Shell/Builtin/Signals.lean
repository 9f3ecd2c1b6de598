import CellRunner.Shell.Builtin.Basic
import CellRunner.Shell.Jobs

/-!
# Signals, processes and limits
-/

set_option autoImplicit false

namespace CellRunner.Shell.Builtin

/-! ### Traps -/

/-- Tells the kernel which signals have traps, and which are ignored. -/
def takeSignals : Script Unit := do
  let s ← get
  let signals := s.traps.filter fun t => 0 < t.1 && t.1 ≤ Signal.lastFree
  let taken := (signals.filter fun t => !t.2.isEmpty && !s.ignored.contains t.1).map (·.1)
  let silent := (signals.filter (·.2.isEmpty)).map (·.1)
  Script.ask (.handle taken (s.ignored ++ silent))

/-- A trap as it may be set again. -/
def trapLine (d : Dialect) (t : Nat × Text) : Text :=
  let (action, name) := match d with
    | .plain => (quoted t.2, Signal.name d t.1)
    | .extended => (Expand.reusable t.2, Signal.fullName t.1)
  "trap -- ".toList ++ action ++ ' ' :: name.toList ++ ['\n']

def listTraps (shows : Nat → Bool) : Script Nat := do
  let s ← get
  let past := if s.dialect == .plain then []
    else s.pastTraps.filter fun t => !s.traps.any (·.1 == t.1)
  let ts := ((s.traps ++ past).filter (shows ·.1)).mergeSort fun a b => a.1 ≤ b.1
  put (ts.flatMap (trapLine s.dialect))

/-- Lists signals with their numbers, five in a line. -/
def listSignals : Script Nat := do
  let numbers := ((List.range (Signal.lastFree + 1)).drop 1).filter fun n =>
    n < 32 || n ≥ Signal.firstFree
  let cells := numbers.zipIdx.flatMap fun (n, i) =>
    let digits := Script.decimal n
    (if digits.length < 2 then ' ' :: digits else digits) ++ ')' :: ' ' ::
      (Signal.fullName n).toList ++ [if i % 5 = 4 then '\n' else '\t']
  put (cells ++ ['\n'])

def setTrap (signal : Nat) (action : Option Text) : Script Unit := do
  modify fun s =>
    let others := s.traps.filter (·.1 != signal)
    { s with
      pastTraps := []
      traps := match action with
        | some cs => (signal, cs) :: others
        | none => others }
  takeSignals

def trapUsage : String := "trap: usage: trap [-lp] [[arg] signal_spec ...]"

/-- Sets the traps of signals; the status tells whether all of them are known. -/
def setTraps (action : Option Text) (signals : List Text) : Script Nat := do
  let d := (← get).dialect
  let mut status := 0
  for name in signals do
    match Signal.ofText? d 0 name with
    | some n => setTrap n action
    | none =>
      match d with
      | .plain =>
        Script.tell ("trap: ".toList ++ name ++ ": bad trap".toList)
        return 1
      | .extended =>
        Script.refuse (name ++ ": invalid signal specification".toList)
        status := 1
  return status

def trap (args : List Text) : Script Nat := do
  let d := (← get).dialect
  withOptions "" "" trapUsage (if d == .plain then args else args.dropWhile (· = ['-', 'p']))
    fun _ operands => do
      if d == .extended && args.head? = some ['-', 'p'] then
        let numbers := operands.filterMap (Signal.ofText? d 0)
        listTraps fun n => operands.isEmpty || numbers.contains n
      else
        match operands with
        | [] => listTraps fun _ => true
        | action :: signals =>
          let isNumber := Script.isNumber action && (Signal.ofText? d 0 action).isSome
          match d with
          | .plain =>
            if signals.isEmpty || isNumber then setTraps none operands
            else setTraps (if action = ['-'] then none else some action) signals
          | .extended =>
            if signals.isEmpty then
              if (Signal.ofText? d 0 action).isSome then setTraps none operands
              else Script.usage trapUsage
            else if isNumber then setTraps none operands
            else setTraps (if action = ['-'] then none else some action) signals

/-! ### Processes -/

/-- What the name of a job means. -/
inductive Meant where
  | job (j : Job)
  | missing
  | ambiguous

/-- The only job that satisfies `p`. -/
def onlyJob (jobs : List Job) (p : Job → Bool) : Meant :=
  match jobs.filter p with
  | [] => .missing
  | [j] => .job j
  | _ => .ambiguous

/-- Whether a text stands in another one. -/
def isInside (cs text : Text) : Bool :=
  (List.range (text.length + 1)).any fun i => cs.isPrefixOf (text.drop i)

/-- The job that a name means in the extended dialect. -/
def meantExtended (a : Text) : Script Meant := do
  let s ← get
  let numbered (n : Option Nat) : Meant :=
    match s.jobs.find? fun j => some j.number == n with
    | some j => .job j
    | none => .missing
  let name := if a.head? = some '%' then a.drop 1 else a
  let like (cs : Text) (p : Text → Bool) : Script Meant := do
    let m := onlyJob s.jobs fun j => j.members.any fun m => p m.text
    if let .ambiguous := m then Script.refuse (cs ++ ": ambiguous job spec".toList)
    return m
  match name with
  | [] => return if a.isEmpty then .missing else numbered s.presentJob
  | c :: rest =>
    if Script.isNumber name then return numbered (some (Format.decimal name))
    else if c = '%' || c = '+' then return numbered s.presentJob
    else if c = '-' then return numbered s.previousJob
    else if c = '?' then like rest (isInside rest)
    else like name (name.isPrefixOf ·)

/-- The job that a name means in the plain dialect, where commands are not known. -/
def meantPlain (a : Text) : Script Job := do
  let s ← get
  let missing {α : Type} : Script α := Script.abort ("No such job: ".toList ++ a)
  let at_ (n : Nat) (message : String) : Script Job := do
    match s.jobs[n]? with
    | some j => return j
    | none => Script.abort message.toList
  let name := a.drop 1
  if a.head? != some '%' then missing
  else if name.isEmpty || name = ['+'] || name = ['%'] then at_ 0 "No current job"
  else if name = ['-'] then at_ 1 "No previous job"
  else if Script.isNumber name then
    match s.jobs.find? (·.number == Format.decimal name) with
    | some j => return j
    | none => missing
  else if name = ['?'] then
    match s.jobs with
    | [j] => return j
    | [] => missing
    | _ => Script.abort (a ++ ": ambiguous".toList)
  else missing

/-- Sends a signal to a job of the extended dialect. -/
def signalJob (j : Job) (signal : Nat) : Script Unit := do
  let isGentle := signal = Machine.Signal.terminate || signal = 1
  Jobs.change { j with isKnown := false }
  modify fun s => { s with signaled := j.members.map (·.process) ++ s.signaled }
  if j.isGroup then
    let _ ← Script.ask (.killGroup (some (Jobs.leader j)) signal)
    if Jobs.isStopped j && isGentle then
      let _ ← Script.ask (.killGroup (some (Jobs.leader j)) Machine.Signal.continue_)
    if Jobs.isStopped j && signal = Machine.Signal.continue_ then
      let members := j.members.map fun m => { m with stopped := none }
      Jobs.change { j with members, isKnown := true }
  else
    for m in j.members do
      if m.status.isNone then
        let _ ← Script.ask (.kill m.process signal)

/-- Sends a signal to processes by number. -/
def sendTo (signal : Nat) (a : Text) : Script (Machine.Outcome Unit) := do
  let isExtended ← Script.isExtended
  let digits := if a.head? = some '-' then a.drop 1 else a
  let n := Format.decimal digits
  if a.head? = some '-' then
    if isExtended then
      if let some j := ← Jobs.ofProcess? n then Jobs.change { j with isKnown := false }
    Script.ask (.killGroup (some n) signal)
  else if n = 0 then Script.ask (.killGroup none signal)
  else
    modify fun s => { s with signaled := n :: s.signaled }
    Script.ask (.kill n signal)

/-- Sends a signal to a process; the status. -/
def sendSignal (signal : Nat) (a : Text) : Script Nat := do
  let isExtended ← Script.isExtended
  let digits := if a.head? = some '-' then a.drop 1 else a
  if a.head? = some '%' then
    if isExtended then
      Jobs.refresh
      match ← meantExtended a with
      | .job j =>
        signalJob j signal
        return 0
      | .missing =>
        Script.refuse (a ++ ": no such job".toList)
        return 1
      | .ambiguous => return 1
    else
      let _ ← meantPlain a
      Script.complain "No such process\n".toList
      return 1
  else if !Script.isNumber digits then
    if isExtended then
      Script.refuse (a ++ ": arguments must be process or job IDs".toList)
      return 1
    else Script.abort ("Illegal number: ".toList ++ digits)
  else
    match ← sendTo signal a with
    | .ok () => return 0
    | .error e =>
      if isExtended then
        Script.refuse ("(".toList ++ a ++ ") - ".toList ++ ofString e.text)
      else Script.complain (ofString e.text ++ ['\n'])
      return 1

def killUsage : String :=
  "kill: usage: kill [-s sigspec | -n signum | -sigspec] pid | jobspec ... or kill -l [sigspec]"

def killUsagePlain {α : Type} : Script α :=
  Script.abort ("Usage: kill [-s sigspec | -signum | -sigspec] [pid | job]... or\n" ++
    "kill -l [exitstatus]").toList

/-- Tells the names of signals, or of the one behind a status. -/
def nameSignal (args : List Text) : Script Nat := do
  let d := (← get).dialect
  match d, args with
  | .plain, [] =>
    put ("0\n".toList ++ ((List.range (Signal.lastFree + 1)).drop 1).flatMap fun n =>
      (Signal.name d n).toList ++ ['\n'])
  | .plain, a :: _ =>
    let n ← numberOf a
    let n := if n > 128 then n - 128 else n
    if 0 < n && n ≤ Signal.lastFree then put ((Signal.name d n).toList ++ ['\n'])
    else Script.abort ("invalid signal number or exit status: ".toList ++ a)
  | .extended, [] => listSignals
  | .extended, args =>
    let mut status := 0
    for a in args do
      if Script.isNumber a then
        let n := Format.decimal a
        let n := if n > 128 then n - 128 else n
        if n ≤ Signal.lastFree then
          let _ ← put ((if n = 0 then "EXIT" else Signal.name d n).toList ++ ['\n'])
        else
          Script.refuse (a ++ ": invalid signal specification".toList)
          status := 1
      else
        match Signal.ofText? d 0 a with
        | some n => let _ ← put (Script.decimal n ++ ['\n'])
        | none =>
          Script.refuse (a ++ ": invalid signal specification".toList)
          status := 1
    return status

/-- Sends a signal to processes; the status is that of the first failure. -/
def sendAll (signal : Nat) (targets : List Text) : Script Nat := do
  let mut status := 0
  let mut sent := false
  for a in targets do
    let r ← sendSignal signal a
    if r = 0 then sent := true else status := r
  return if sent && (← Script.isExtended) then 0 else status

/-- The options of `kill` in the plain dialect, where a signal may stand for an option. -/
def killPlain (args : List Text) : Script Nat := do
  let d := Dialect.plain
  let direct : Option Nat := match args with
    | ('-' :: name) :: _ => Signal.ofText? d 1 name
    | _ => none
  match direct, args with
  | some signal, _ :: targets => if targets.isEmpty then killUsagePlain else sendAll signal targets
  | _, [] => killUsagePlain
  | _, args =>
    withOptions "l" "s" "" args fun options targets => do
      if has 'l' options then nameSignal targets
      else
        let signal ← match valueOf 's' options with
          | none => pure Machine.Signal.terminate
          | some name =>
            match Signal.ofText? d 0 name with
            | some n => pure n
            | none => Script.abort ("invalid signal number or name: ".toList ++ name)
        if targets.isEmpty then killUsagePlain else sendAll signal targets

def killExtended (args : List Text) : Script Nat := do
  let d := Dialect.extended
  let named (name : Text) (targets : List Text) : Script Nat := do
    match Signal.ofText? d 0 name with
    | some n => if targets.isEmpty then Script.usage killUsage else sendAll n targets
    | none =>
      Script.refuse (name ++ ": invalid signal specification".toList)
      return 1
  match args with
  | [] => Script.usage killUsage
  | ['-', 'l'] :: rest => nameSignal rest
  | ['-', 'L'] :: rest => nameSignal rest
  | ['-', c] :: rest =>
    if c = 's' || c = 'n' then
      match rest with
      | name :: targets => named name targets
      | [] =>
        Script.refuse ('-' :: c :: ": option requires an argument".toList)
        return 1
    else if c = '-' then
      if rest.isEmpty then Script.usage killUsage else sendAll Machine.Signal.terminate rest
    else named [c] rest
  | ('-' :: name) :: targets => named name targets
  | _ => sendAll Machine.Signal.terminate args

def kill (args : List Text) : Script Nat := do
  if ← Script.isExtended then killExtended args else killPlain args

/-! ### Waiting -/

/-- The signal that interrupted a wait. -/
def interrupted : Script Nat := do
  let n ← Script.ask .pending
  match n with
  | some n =>
    modify fun s => { s with arrived := s.arrived ++ [n] }
    return 128 + n
  | none => return 128

/-- Waits until a job is over; none if it is, or the status of the signal that came between.
`fuel` bounds the number of its processes. -/
def waitOver (number : Nat) : Nat → Script (Option Nat)
  | 0 => return none
  | fuel + 1 => do
    modify fun s => { s with signaled := [] }
    match (← Jobs.withNumber? number).bind fun j => j.members.find? (·.status.isNone) with
    | none => return none
    | some m =>
      match ← Script.ask (.wait (some m.process) true) with
      | .ok (_, status) =>
        Jobs.noteEnd m.process status
        waitOver number fuel
      | .error .interrupted => return some (← interrupted)
      | .error _ =>
        Jobs.noteEnd m.process (.exited 127)
        waitOver number fuel

/-- Waits for a job in the background; the status, unless a signal came between. -/
def waitJob (j : Job) : Script (Except Nat Nat) := do
  let isExtended ← Script.isExtended
  match ← waitOver j.number (j.members.length + 1) with
  | some status => return .error status
  | none =>
    let j := (← Jobs.withNumber? j.number).getD j
    let status ← Jobs.statusOf j
    if isExtended then
      Jobs.refresh
      Jobs.tellChanges
    else if !j.isKnown then Copy.tellEnd status
    if let some j := ← Jobs.withNumber? j.number then Jobs.change { j with isKnown := true }
    return .ok (Copy.statusCode status)

/-- Waits for the jobs in the background that run; `fuel` bounds their number. -/
def waitAll : Nat → Script Nat
  | 0 => return 0
  | fuel + 1 => do
    let isExtended ← Script.isExtended
    if isExtended then
      for j in (← get).jobs.reverse do
        if Jobs.isStopped j then
          Script.refuse ("warning: job ".toList ++ Script.decimal j.number ++ '[' ::
            Script.decimal (Jobs.lastProcess j) ++ "] stopped".toList)
    else modify fun s =>
      { s with jobs := s.jobs.map fun j => { j with isKnown := j.isKnown || Jobs.hasEnded j } }
    match (← get).jobs.reverse.find? Jobs.isRunning with
    | none =>
      if isExtended then
        modify fun s =>
          { s with
            pastJobs := []
            jobs := s.jobs.map fun j =>
              if Jobs.hasEnded j && s.lastBackground != some (Jobs.lastProcess j) then
                { j with isKnown := true }
              else j }
        Jobs.clean
      return 0
    | some j =>
      let interruption ← if isExtended then do
          match ← waitJob j with
          | .ok _ => pure none
          | .error status => pure (some status)
        else waitOver j.number (j.members.length + 1)
      match interruption with
      | none => waitAll fuel
      | some status => return status

/-- A job that has ended and of which that was not told, among some. -/
def endedJob (wanted : List Nat) : Script (Option Job) := do
  let isWanted (j : Job) : Bool := wanted.isEmpty || wanted.contains j.number
  return (← get).jobs.reverse.find? fun j => isWanted j && Jobs.hasEnded j && !j.isKnown

/-- Waits until one job is over, among some; `fuel` bounds how often a process ends. The process
and the status, if there is such a job. -/
def waitAny (wanted : List Nat) : Nat → Script (Except Nat (Option (Nat × Nat)))
  | 0 => return .ok none
  | fuel + 1 => do
    modify fun s => { s with signaled := [] }
    Jobs.refresh
    match ← endedJob wanted with
    | some j =>
      let status ← Jobs.statusOf j
      Jobs.tellChanges
      if let some j := ← Jobs.withNumber? j.number then Jobs.remove true j
      return .ok (some (Jobs.lastProcess j, Copy.statusCode status))
    | none =>
      let runs (j : Job) : Bool :=
        Jobs.isRunning j && (wanted.isEmpty || wanted.contains j.number)
      if !(← get).jobs.any runs then return .ok none
      match ← Script.ask (.wait none true) with
      | .ok (number, status) =>
        Jobs.noteEnd number status
        waitAny wanted fuel
      | .error .interrupted => return .error (← interrupted)
      | .error _ => return .ok none

/-- What `wait` waits for. -/
inductive Awaited where
  | job (j : Job)
  /-- a process whose job is forgotten -/
  | past (process : Nat) (status : Machine.Status)
  /-- the status when there is nothing to wait for -/
  | nothing (status : Nat)

/-- The job that an argument names. -/
def awaited (a : Text) : Script Awaited := do
  let isExtended ← Script.isExtended
  if a.head? = some '%' then
    if isExtended then
      match ← meantExtended a with
      | .job j => return .job j
      | .missing =>
        Script.refuse (a ++ ": no such job".toList)
        return .nothing 127
      | .ambiguous => return .nothing 127
    else return .job (← meantPlain a)
  else if Script.isNumber a then
    let n := Format.decimal a
    let found ← if isExtended then Jobs.ofProcess? n
      else do pure ((← get).jobs.find? fun j => Jobs.lastProcess j = n)
    match found, (← get).pastJobs.lookup n with
    | some j, _ => return .job j
    | none, some status => return .past n status
    | none, none =>
      if isExtended then
        Script.refuse ("pid ".toList ++ a ++ " is not a child of this shell".toList)
      return .nothing 127
  else if isExtended then
    Script.refuse (Parser.inMarks a ++ ": not a pid or valid job spec".toList)
    return .nothing 1
  else Script.abort ("Illegal number: ".toList ++ a)

/-- Waits for jobs one after the other; the last process, and the last status. -/
def waitEach (last : Option Nat) (status : Nat) : List Text → Script (Option Nat × Nat)
  | [] => return (last, status)
  | a :: rest => do
    match ← awaited a with
    | .nothing status => waitEach none status rest
    | .past n status => waitEach (some n) (Copy.statusCode status) rest
    | .job j =>
      let process := if Script.isNumber a then Format.decimal a else Jobs.lastProcess j
      match ← waitJob j with
      | .ok status => waitEach (some process) status rest
      | .error status => return (none, status)

/-- The numbers of the jobs that arguments name. -/
def wantedJobs : List Text → Script (List Nat)
  | [] => return []
  | a :: rest => do
    match ← awaited a with
    | .job j => return j.number :: (← wantedJobs rest)
    | _ => wantedJobs rest

def wait (args : List Text) : Script Nat := do
  let isExtended ← Script.isExtended
  withOptions (if isExtended then "fn" else "") (if isExtended then "p" else "")
    "wait: usage: wait [-fn] [-p var] [id ...]" args fun options targets => do
      let name := valueOf 'p' options
      if let some name := name then
        if !Parser.isName (name.takeWhile (· != '[')) then
          Script.refuse (Parser.inMarks name ++ ": not a valid identifier".toList)
          return 1
        Script.remove name
      let keep (process : Option Nat) : Script Unit := do
        match name, process with
        | some name, some n => Script.assign name (Script.decimal n)
        | _, _ => return ()
      if has 'n' options then
        let wanted ← wantedJobs targets
        if !targets.isEmpty && wanted.isEmpty then return 127
        match ← waitAny wanted Machine.Prog.fuel with
        | .ok (some (process, status)) =>
          keep (some process)
          return status
        | .ok none => return 127
        | .error status => return status
      else if targets.isEmpty then waitAll Machine.Prog.fuel
      else
        let (process, status) ← waitEach none 0 targets
        keep process
        return status

/-- Gives up jobs. -/
def disown (args : List Text) : Script Nat := do
  withOptions "ahr" "" "disown: usage: disown [-h] [-ar] [jobspec ... | pid ...]" args
    fun options targets => do
      let giveUp (j : Job) : Script Unit := if has 'h' options then return () else Jobs.remove false j
      if targets.isEmpty && (has 'a' options || has 'r' options) then
        for j in (← get).jobs do
          if has 'a' options || Jobs.isRunning j then giveUp j
        return 0
      let mut status := 0
      for a in (if targets.isEmpty then [['%']] else targets) do
        let found ← if Script.isNumber a then do
            match ← Jobs.ofProcess? (Format.decimal a) with
            | some j => pure (.job j)
            | none => pure .missing
          else meantExtended a
        match found with
        | .job j => giveUp j
        | _ =>
          let shown := if targets.isEmpty then "current".toList else a
          Script.refuse (shown ++ ": no such job".toList)
          status := 1
      return status

/-- Lists the jobs of the plain dialect, and forgets those that have ended. -/
def jobsPlain (args : List Text) : Script Nat := do
  withOptions "lp" "" "" args fun options targets => do
    let chosen ← if targets.isEmpty then pure ((← get).jobs.map (·.number))
      else targets.mapM fun a => do return (← meantPlain a).number
    Jobs.refresh
    for n in chosen do
      let all := (← get).jobs
      if let some j := ← Jobs.withNumber? n then
        if has 'p' options then
          let _ ← put (Script.decimal (Jobs.leader j) ++ ['\n'])
        else
          let mark := if all.head?.map (·.number) = some n then '+'
            else if (all[1]?).map (·.number) = some n then '-' else ' '
          let state : Text := if Jobs.isRunning j then "Running".toList else
            match (j.members.getLast?.bind (·.status)).getD (.exited 0) with
            | .exited 0 => "Done".toList
            | .exited code => "Done(".toList ++ Script.decimal code ++ [')']
            | .signaled signal => (Signal.description signal).toList
          let number := if has 'l' options then Script.decimal (Jobs.leader j) ++ [' '] else []
          let line := '[' :: Script.decimal n ++ "] ".toList ++ mark :: ' ' :: number ++ state
          let more := (j.members.drop 1).flatMap fun m =>
            if has 'l' options then
              let front := " |\n".toList ++ List.replicate 6 ' ' ++ Script.decimal m.process
              front ++ List.replicate (33 - (front.length - 3)) ' '
            else " | ".toList
          let _ ← put (line ++ List.replicate (33 - line.length) ' ' ++ more ++ ['\n'])
          if Jobs.hasEnded j then Jobs.remove false j
    return 0

/-- Carries out a command in which names of jobs stand for processes. -/
def replacedJobs : List Text → Script (List Text)
  | [] => return []
  | a :: rest => do
    let here ← if a.head? = some '%' then do
        match ← meantExtended a with
        | .job j => pure (Script.decimal (Jobs.leader j))
        | _ => pure a
      else pure a
    return here :: (← replacedJobs rest)

/-- Lists the jobs of the extended dialect. -/
def jobsExtended (args : List Text) : Script Nat := do
  withOptions "lpnxrs" "" "jobs: usage: jobs [-lnprs] [jobspec ...] or jobs -x command [args]" args
    fun options targets => do
      Jobs.refresh
      let layout := ((options.filter fun o => ['l', 'p', 'n'].contains o.1).getLast?).map (·.1)
      let show_ (j : Job) : Script Unit := do
        if layout = some 'p' then
          let _ ← put (Script.decimal (Jobs.leader j) ++ ['\n'])
        else if layout = some 'n' && j.isKnown then return ()
        else
          let _ ← put (← Jobs.listed (layout = some 'l') j)
          Jobs.change { j with isKnown := true }
      let kind := ((options.filter fun o => ['r', 's'].contains o.1).getLast?).map (·.1)
      if targets.isEmpty then
        Jobs.clean
        for j in (← get).jobs.mergeSort fun a b => a.number ≤ b.number do
          let fits := match kind with
            | some 'r' => Jobs.isRunning j
            | some 's' => Jobs.isStopped j
            | _ => true
          if fits then show_ j
        return 0
      else
        let mut status := 0
        for a in targets do
          match ← meantExtended a with
          | .job j =>
            show_ j
            Jobs.clean
          | _ =>
            Script.refuse (a ++ ": no such job".toList)
            status := 1
        return status

def jobs (args : List Text) : Script Nat := do
  if ← Script.isExtended then jobsExtended args else jobsPlain args

/-- Jobs of the plain dialect cannot be taken back. -/
def resume (args : List Text) : Script Nat := do
  let args := if args.head? = some "--".toList then args.tail else args
  let _ ← meantPlain (args.headD ['%'])
  Script.abort "job (null) not created under job control".toList

/-- What a job is called when it goes on. -/
def callOf (j : Job) : Script Text := do
  let cwd := (← get).cwd
  let place ← if cwd = j.place then pure [] else do
    pure ("\t(wd: ".toList ++ (← Jobs.shownPlace j.place) ++ [')'])
  return List.intercalate " | ".toList (j.members.map (·.text)) ++ place

/-- The job that a command goes on with. -/
def resumed (args : List Text) (body : Job → Script Nat) : Script Nat := do
  if !(← Jobs.isControlled) then
    Script.refuse "no job control".toList
    return 1
  Jobs.refresh
  let args := if args.head? = some "--".toList then args.tail else args
  match ← meantExtended (args.headD ['%']) with
  | .job j => if j.isGroup then body j else do
    Script.refuse ("job ".toList ++ Script.decimal j.number ++
      " started without job control".toList)
    return 1
  | .ambiguous => return 1
  | .missing =>
    Script.refuse ((if args.isEmpty then "current".toList else args.headD []) ++
      ": no such job".toList)
    return 1

/-- Lets a job go on in the foreground. -/
def foreground (args : List Text) : Script Nat := do
  resumed args fun j => do
    if Jobs.hasEnded j then
      Script.refuse "job has terminated".toList
      return 1
    let _ ← put ((← callOf j) ++ ['\n'])
    modify fun s => { s with jobs := s.jobs.filter (·.number != j.number) }
    if Jobs.isStopped j then
      let _ ← Script.ask (.killGroup (some (Jobs.leader j)) Machine.Signal.continue_)
    Jobs.choosePresent
    let members := j.members.filter (·.status.isNone)
    return ((← Jobs.await (members.map fun m => { m with stopped := none })).getLast?).getD 0

/-- Lets jobs go on in the background. -/
def background (args : List Text) : Script Nat := do
  let targets := if args.isEmpty then [[]] else args.map ([·])
  let mut status := 0
  for t in targets do
    status ← resumed t fun j => do
      if Jobs.isRunning j then
        Script.refuse ("job ".toList ++ Script.decimal j.number ++ " already in background".toList)
        return 0
      let s ← get
      let mark := if s.presentJob = some j.number then "+ ".toList
        else if s.previousJob = some j.number then "- ".toList else [' ']
      let _ ← put ('[' :: Script.decimal j.number ++ ']' :: mark ++ (← callOf j) ++ " &\n".toList)
      let _ ← Script.ask (.killGroup (some (Jobs.leader j)) Machine.Signal.continue_)
      Jobs.change { j with members := j.members.map fun m => { m with stopped := none } }
      Jobs.choosePresent
      return 0
  return status

/-- Tells how much time the shell has used, which is next to none. -/
def times (_ : List Text) : Script Nat := do
  let zero := if ← Script.isExtended then "0m0.000s" else "0m0.000000s"
  let line := zero.toList ++ ' ' :: zero.toList ++ ['\n']
  put (line ++ line)

/-! ### Permission bits -/

/-- Bits in letters, as `u=rwx,g=rx,o=`. -/
def symbolic (mode : Nat) : Text :=
  let letters (n : Nat) : Text :=
    (if n &&& 4 != 0 then ['r'] else []) ++ (if n &&& 2 != 0 then ['w'] else []) ++
      (if n &&& 1 != 0 then ['x'] else [])
  "u=".toList ++ letters (mode / 64) ++ ",g=".toList ++ letters (mode / 8) ++ ",o=".toList ++
    letters mode

/-- The bits that letters of users stand for. -/
def usersOf (cs : Text) : Nat :=
  cs.foldl
    (fun n c => n ||| (if c = 'u' then 0o100 else if c = 'g' then 0o10 else if c = 'o' then 1
      else 0o111))
    0

/-- Changes to the permitted bits; the error is the character that cannot be there, if there
is one. `fuel` bounds the number of changes. -/
def changed (copies : Bool) (before : Nat) : Nat → Nat → Nat → Text → Except (Option Char) Nat
  | 0, _, mode, _ => .ok mode
  | fuel + 1, users, mode, cs =>
    let who := cs.takeWhile fun c => c = 'a' || c = 'u' || c = 'g' || c = 'o'
    let cs := cs.drop who.length
    let users := users ||| usersOf who
    let users := if users = 0 then 0o111 else users
    match cs with
    | [] => if copies then .ok mode else .error none
    | operator :: cs =>
      if operator != '=' && operator != '+' && operator != '-' then .error (some operator)
      else
        let isLetter (c : Char) : Bool :=
          "rwxXs".toList.contains c || (copies && "ugo".toList.contains c)
        let letters := cs.takeWhile isLetter
        let rest := cs.drop letters.length
        let value := letters.foldl
          (fun n c => n ||| (match c with
            | 'r' => 4
            | 'w' => 2
            | 'x' => 1
            | 'u' => before / 64
            | 'g' => before / 8
            | 'o' => before
            | 'X' => if before &&& 0o111 != 0 then 1 else 0
            | _ => 0))
          0
        let bits := (value &&& 7) * users
        let all := users * 7
        let mode :=
          if operator = '-' then mode &&& (0o777 ^^^ bits)
          else if operator = '+' then mode ||| bits
          else bits ||| (mode &&& (0o777 ^^^ all))
        match rest with
        | [] => .ok mode
        | ',' :: more =>
          if more.isEmpty && copies then .ok mode else changed copies before fuel 0 mode more
        | c :: _ =>
          if c = '=' || c = '+' || c = '-' then changed copies before fuel users mode rest
          else .error (some c)

def umask (args : List Text) : Script Nat := do
  let isExtended ← Script.isExtended
  withOptions (if isExtended then "pS" else "S") "" "umask: usage: umask [-p] [-S] [mode]" args
    fun options operands => do
      let mask : Nat ← Script.ask (.mask none)
      let digits (n : Nat) : Text :=
        let ds := Nat.toDigits 8 n
        List.replicate (4 - ds.length) '0' ++ ds
      let show_ (mask : Nat) : Script Nat := do
        let cs := if has 'S' options then symbolic (0o777 ^^^ (mask &&& 0o777)) else digits mask
        let front := if has 'p' options then
            if has 'S' options then "umask -S ".toList else "umask ".toList
          else []
        put (front ++ cs ++ ['\n'])
      match operands with
      | [] => show_ mask
      | a :: _ =>
        if a.head?.any Char.isDigit then
          let isOctal := a.all Format.isOctal
          let n := Format.octalValue a
          if isExtended then
            if !isOctal || n > 0o777 then
              Script.refuse (a ++ ": octal number out of range".toList)
              return 1
          else if !isOctal then Script.abort ("Illegal number: ".toList ++ a)
          let _ : Nat ← Script.ask (.mask (some (n &&& 0o777)))
          if has 'S' options then show_ n else return 0
        else
          let permitted := 0o777 ^^^ (mask &&& 0o777)
          let made := if a.isEmpty && !isExtended then .ok permitted
            else changed (!isExtended) permitted (a.length + 1) 0 permitted a
          match made with
          | .ok mode =>
            let _ : Nat ← Script.ask (.mask (some (0o777 ^^^ (mode &&& 0o777))))
            return 0
          | .error c =>
            if isExtended then
              let isLetter := c.any Char.isAlpha && a.any fun c => c = '=' || c = '+' || c = '-'
              Script.refuse (Parser.inMarks [c.getD (Char.ofNat 0)] ++
                (if isLetter then ": invalid symbolic mode character".toList
                  else ": invalid symbolic mode operator".toList))
              return 1
            else Script.abort ("Illegal mode: ".toList ++ a)

/-! ### Limits -/

/-- What limits are at first. -/
def usualLimit (letter : Char) : Text :=
  (match letter with
    | 'c' => "0"
    | 's' => "8192"
    | 'n' => "1048576"
    | 'l' => "8192"
    | 'r' => "0"
    | 'e' => "0"
    | 'p' => "8"
    | _ => "unlimited").toList

def ulimit (args : List Text) : Script Nat := do
  let isExtended ← Script.isExtended
  let letters := if isExtended then "HSabcdefiklmnpqrstuvxPRT" else "HSatfdscmlpnvwr"
  withOptions letters "" "ulimit: usage: ulimit [-SHabcdefiklmnpqrstuvxPRT] [limit]" args
    fun options operands => do
      let chosen := (options.map (·.1)).filter fun c => c != 'H' && c != 'S' && c != 'a'
      let letter := chosen.getLastD 'f'
      match operands with
      | [] => put (((← get).limits.lookup letter).getD (usualLimit letter) ++ ['\n'])
      | a :: rest =>
        if !isExtended && (!rest.isEmpty || has 'a' options) then
          Script.abort "too many arguments".toList
        let isWord := a = "unlimited".toList || (isExtended && (a = "hard".toList ||
          a = "soft".toList))
        if !Script.isNumber a && !isWord then
          if isExtended then
            Script.refuse (a ++ ": invalid number".toList)
            return 1
          else Script.abort "bad number".toList
        modify fun s => { s with limits := (letter, a) :: s.limits.filter (·.1 != letter) }
        return 0

end CellRunner.Shell.Builtin
