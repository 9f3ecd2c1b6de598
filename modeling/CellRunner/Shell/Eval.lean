import CellRunner.Regex.Parse
import CellRunner.Shell.Invoke

/-!
# Carrying out commands

A command runs in the shell itself or in a copy of it. Nothing can follow the last command of a
copy, so the program that it names takes the place of the copy.
-/

set_option autoImplicit false

namespace CellRunner.Shell.Eval

open Machine (Prog)
open Copy (close moveDescriptor)
open Handler (announce settle springTraps)

section

variable (run : Runner)

/-- Carries out a command whose failure is not one of the script. -/
def guarded (body : Script Unit) : Script Unit := do
  modify fun s => { s with guards := s.guards + 1 }
  Script.andThen body (modify fun s => { s with guards := s.guards - 1 })

def inOrder (last : Bool) : List Command → Script Unit
  | [] => return ()
  | [c] => run last c
  | c :: cs => do
    run false c
    inOrder last cs

/-! ### Pipelines -/

/-- Announces a stage that is a simple command before the copy that carries it out is made. -/
def announceStage (c : Command) : Script Unit := do
  match c with
  | .simple line _ _ _ =>
    modify fun s => { s with line }
    let _ ← announce run c
    modify fun s => { s with isStage := true }
  | _ => return ()

def leaveStage : Script Unit := modify fun s => { s with isStage := false }

/-- Lets a stage that is a simple command know the jobs of the shell. -/
def keepFor (s : State) (c : Command) : Script Unit := do
  match s.dialect, c with
  | .extended, .simple _ _ _ _ =>
    Copy.keepJobs s
    modify fun s => { s with isPiped := true }
  | _, _ => return ()

/-- How a command is shown in lists of jobs. -/
def shownCommand (c : Command) : Script Text := do
  return if ← Script.isExtended then Show.commandText c else []

/-- Copies of the shell that carry out the stages, each reading what the one before writes;
`first` is the first one and `input` is where the next one reads. -/
def startStages (unattended : Bool) : Option Nat → Option Nat → List Command →
    Script (List Worker)
  | _, _, [] => return []
  | first, input, [c] => do
    announceStage run c
    let s ← get
    let number ← Copy.copyAs run unattended do
      keepFor s c
      if let some d := input then moveDescriptor d 0
      run true c
    leaveStage
    Jobs.group first number
    if let some d := input then close d
    return [{ process := number, text := ← shownCommand c }]
  | first, input, c :: cs => do
    let (r, w) ← Script.ask .pipe
    announceStage run c
    let s ← get
    let number ← Copy.copyAs run unattended do
      keepFor s c
      close r
      if let some d := input then moveDescriptor d 0
      moveDescriptor w 1
      run true c
    leaveStage
    Jobs.group first number
    if let some d := input then close d
    close w
    let first := first.getD number
    return { process := number, text := ← shownCommand c } ::
      (← startStages unattended (some first) (some r) cs)

/-- Carries out the last stage in the shell itself, and the others in copies. -/
def pipeInto (stages : List Command) : Script (List Nat) := do
  let (r, w) ← Script.ask .pipe
  let firsts := stages.dropLast
  let members ← match firsts.getLast? with
    | none => pure []
    | some c => do
      let writes : Command := .redirected (← get).line c
        [.mk 1 none .duplicateOutput ((Script.decimal w).map (.char · false))]
      startStages run false none none (firsts.dropLast ++ [writes])
  close w
  let saved ← Redirection.save 0
  moveDescriptor r 0
  Script.andThen (run false (stages.getLastD default)) (Redirection.restore [saved])
  let last := (← get).status
  return (← Jobs.await members) ++ [last]

def stagesStatus (statuses : List Nat) : Script Nat := do
  let last := statuses.getLastD 0
  if ← Script.isOn "pipefail" then
    return (statuses.reverse.find? (· != 0)).getD 0
  else return last

def pipeline (negated : Bool) (stages : List Command) : Script Unit := do
  let body : Script Unit := do
    match stages with
    | [c] => run false c
    | _ =>
      let s ← get
      let statuses ← if s.features.contains "lastpipe" then pipeInto run stages
        else do Jobs.await (← startStages run false none none stages)
      let status ← stagesStatus statuses
      modify fun s => { s with statuses, status }
  if negated then
    guarded body
    Script.setStatus (if (← get).status = 0 then 1 else 0)
    springTraps run
  else
    body
    if stages.length > 1 then settle run

/-- Carries out a command in copies of the shell that nobody waits for; it reads nothing. -/
def background (c : Command) : Script Unit := do
  let stages := match c with
    | .pipeline false stages => stages
    | c => [c]
  let guards := (← get).guards
  modify fun s => { s with guards := 0 }
  let isControlled ← Jobs.isControlled
  let input ← if isControlled then pure none else do
    let opened ← Script.ask (.open "/dev/null" .read Redirection.firstSaved 0)
    pure (opened : Machine.Outcome Nat).toOption
  let members ← startStages run (!isControlled) none input stages
  modify fun s =>
    { s with guards, lastBackground := members.getLast?.map (·.process), status := 0 }
  Jobs.add members

/-! ### Loops -/

/-- A round of a loop; the answer tells whether another follows. -/
def round (body : Script Bool) : Script Bool := do
  match ← Script.outcome body with
  | .ok more => return more
  | .error (.leaveLoops n) => if n ≤ 1 then return false else Script.escape (.leaveLoops (n - 1))
  | .error (.nextRound n) => if n ≤ 1 then return true else Script.escape (.nextRound (n - 1))
  | .error e => Script.escape e

/-- `status` is that of the round before; `fuel` bounds the number of rounds. -/
def loop (until_ : Bool) (test body : Command) : Nat → Nat → Script Unit
  | 0, _ => return ()
  | fuel + 1, status => do
    let more ← round do
      guarded (run false test)
      if ((← get).status = 0) != until_ then
        run false body
        return true
      else
        Script.setStatus status
        return false
    if more then loop until_ test body fuel (← get).status

def inLoop (body : Script Unit) : Script Unit := do
  modify fun s => { s with loops := s.loops + 1 }
  Script.andThen body (modify fun s => { s with loops := s.loops - 1 })

/-- A bound on the rounds of a loop. -/
def patience : Nat := 1000000000

def each (line : Nat) (name : Text) (shown : Text) (body whole : Command) :
    List Text → Script Unit
  | [] => return ()
  | value :: values => do
    let _ ← announce run whole
    Trace.compound run (return "for ".toList ++ name ++ " in ".toList ++ shown)
    modify fun s => { s with line }
    if !(← Script.assign? name value) then Script.setStatus 1
    else
      let more ← round do
        run false body
        return true
      if more then each line name shown body whole values

/-- The value of a part of a loop that counts; none if it cannot be had. -/
def countPart (w : Word) (usual : Int) : Script (Option Int) := do
  if w.isEmpty then return some usual
  let _ ← announce run (.arithmetic 0 w)
  let cs ← Expand.single run w
  Trace.compound run (return "((".toList ++ ' ' :: cs ++ " ))".toList)
  match ← Script.outcome (Script.inBuiltin "((".toList (RichArithmetic.evaluate cs)) with
  | .ok n => return some n
  | .error .leaveLine =>
    Script.setStatus 1
    return none
  | .error e => Script.escape e

/-- The rounds of a loop that counts; `fuel` bounds them. -/
def countFrom (line : Nat) (test step : Word) (body : Command) : Nat → Script Unit
  | 0 => return ()
  | fuel + 1 => do
    modify fun s => { s with line }
    match ← countPart run test 1 with
    | none => return ()
    | some 0 => return ()
    | some _ =>
      let more ← round do
        run false body
        return true
      if more then
        modify fun s => { s with line }
        if (← countPart run step 1).isSome then countFrom line test step body fuel

/-! ### Menus -/

/-- Blanks from one column to another, with as many tabs as there can be; `fuel` bounds their
number. -/
def indent : Nat → Nat → Nat → Text
  | 0, _, _ => []
  | fuel + 1, start, stop =>
    if start ≥ stop then []
    else if stop / 8 > start / 8 then '\t' :: indent fuel (start + 8 - start % 8) stop
    else ' ' :: indent fuel (start + 1) stop

/-- The lines of a menu, in as many columns as there is room for. -/
def menuText (items : List Text) : Text :=
  let digits := (Script.decimal items.length).length
  let widest := (items.map List.length).foldl max 0
  let width := widest + digits + 4
  let columns := max 1 (80 / width)
  let n := items.length
  let rows := (n + columns - 1) / columns
  let rows := if rows ≤ 1 then n else rows
  let cell (i : Nat) : Text :=
    let number := Script.decimal (i + 1)
    List.replicate (digits - number.length) ' ' ++ number ++ ") ".toList ++ items.getD i []
  ((List.range rows).map fun r =>
    let places := (List.range ((n + rows - 1) / rows)).map fun c => r + c * rows
    let places := places.filter (· < n)
    (places.zipIdx.map fun (i, c) =>
      let cs := cell i
      let start := c * width + cs.length
      cs ++ (if c + 1 = places.length then [] else indent 100 start ((c + 1) * width))).flatten
        ++ ['\n']).flatten

/-- Asks for a choice until the input ends; `fuel` bounds the rounds. -/
def menuFrom (name : Text) (items : List Text) (body : Command) : Nat → Bool → Script Unit
  | 0, _ => return ()
  | fuel + 1, shows => do
    if shows then
      let _ ← Script.run (Prog.put 2 (toBytes (menuText items)))
    let mark := (← Script.lookup "PS3".toList).getD "#? ".toList
    let _ ← Script.run (Prog.put 2 (toBytes mark))
    let status ← Builtin.read []
    if status != 0 then
      let _ ← Builtin.put ['\n']
      Script.setStatus 1
    else
      let reply := (← Script.lookup "REPLY".toList).getD []
      if reply.isEmpty then menuFrom name items body fuel true
      else
        let chosen := match Condition.integer? reply with
          | some n => if n ≥ 1 then (items[n.toNat - 1]?).getD [] else []
          | none => []
        Script.assign name chosen
        let more ← round do
          run false body
          return true
        if more then
          menuFrom name items body fuel ((← Script.lookup "REPLY".toList).getD []).isEmpty

/-! ### Choices -/

/-- The pattern that a word stands for, and the texts that it describes. -/
def describes (w : Word) (text : Text) : Script Bool := do
  let s ← get
  let ignoresCase := s.features.contains "nocasematch"
  let groups := s.dialect == .extended && s.features.contains "extglob"
  let p ← Expand.pieces run false false w
  let p := if ignoresCase then p.map fun
      | .glyph c q b => .glyph c.toLower q b
      | x => x
    else p
  return (Expand.patternOf groups p).describes (if ignoresCase then text.map Char.toLower else text)

def anyDescribes (text : Text) : List Word → Script Bool
  | [] => return false
  | p :: ps => do
    if ← describes run p text then return true else anyDescribes text ps

def isEmpty : Command → Bool
  | .sequence [] => true
  | _ => false

/-- Carries out a command; one with nothing in it succeeds. -/
def orSuccess (last : Bool) (c : Command) : Script Unit :=
  if isEmpty c then Script.setStatus 0 else run last c

/-- Carries out the clauses that are chosen; `falls` tells that the next one is, whatever its
patterns, and `found` that one was before. -/
def choose (last : Bool) (text : Text) : Bool → Bool → List Clause → Script Unit
  | _, found, [] => if found then return () else Script.setStatus 0
  | falls, found, .mk patterns body after :: clauses => do
    let chosen ← if falls then pure true else anyDescribes run text patterns
    if !chosen then choose last text false found clauses
    else
      match after with
      | .leave => orSuccess run last body
      | .fall =>
        orSuccess run false body
        choose last text true true clauses
      | .resume =>
        orSuccess run false body
        choose last text false true clauses

/-! ### Conditions in double brackets -/

/-- The regular expression that a word stands for, in which quoted characters are themselves. -/
def regexText (w : Word) : Script Text := do
  let special : List Char := "\\.[]*^$+?\x7b\x7d()|".toList
  return (Expand.flat (← Expand.pieces run false false w)).flatMap fun (c, q) =>
    if q && special.contains c then ['\\', c] else [c]

/-- Whether a regular expression describes a part of a text; its groups go to a variable. -/
def matchesRegex (text : Text) (w : Word) : Script Nat := do
  match Regex.parse { extended := true, strict := true, loose := true } (← regexText run w) with
  | .error _ => return 2
  | .ok r =>
    let ignoresCase ← Script.hasFeature "nocasematch"
    let name := "BASH_REMATCH".toList
    match Regex.find? { ignoresCase } r text 0 with
    | none =>
      Script.put { name, value := some (.list []) }
      return 1
    | some m =>
      let items := (List.range (r.groups + 1)).map fun n => (n, (m.group? text n).getD [])
      Script.put { name, value := some (.list items) }
      return 0

def compareNumbers (operator : String) (a b : Text) : Script Nat := do
  let x ← RichArithmetic.evaluate a
  let y ← RichArithmetic.evaluate b
  return if Condition.compareNumbers operator x y then 0 else 1

def truth (b : Bool) : Nat := if b then 0 else 1

def shownSide (w : Word) : Script Text := do
  let cs ← Expand.single run w
  return if cs.isEmpty then "''".toList else cs

/-- The status of a condition. -/
def test : Shell.Test → Script Nat
  | .word w => do
    Trace.compound run (do return "[[ -n ".toList ++ (← shownSide run w) ++ " ]]".toList)
    return truth !(← Expand.single run w).isEmpty
  | .unary letter w => do
    let cs ← Expand.single run w
    Trace.compound run (do
      return "[[ ".toList ++ letter ++ ' ' :: (if cs.isEmpty then "''".toList else cs) ++
        " ]]".toList)
    match letter with
    | ['-', 'n'] => return truth !cs.isEmpty
    | ['-', 'z'] => return truth cs.isEmpty
    | ['-', c] =>
      let settled ← Builtin.settleTests (.file c cs)
      match ← Script.run (Condition.holds false true settled) with
      | .ok b => return truth b
      | .error _ => return 2
    | _ => return 2
  | .binary operator left right => do
    let a ← Expand.single run left
    let o := String.ofList operator
    Trace.compound run (do
      return "[[ ".toList ++ (if a.isEmpty then "''".toList else a) ++ ' ' :: operator ++ ' ' ::
        (← shownSide run right) ++ " ]]".toList)
    match o with
    | "==" => return truth (← describes run right a)
    | "=" => return truth (← describes run right a)
    | "!=" => return truth !(← describes run right a)
    | "=~" => matchesRegex run a right
    | "<" => return truth (String.ofList a < String.ofList (← Expand.single run right))
    | ">" => return truth (String.ofList (← Expand.single run right) < String.ofList a)
    | _ =>
      let b ← Expand.single run right
      if Condition.fileOperators.contains o then
        return truth (← Script.run (Condition.compareFiles true o a b))
      else compareNumbers o a b
  | .negation t => do
    let n ← test t
    return if n = 0 then 1 else if n = 1 then 0 else n
  | .group t => test t
  | .both a b => do
    let n ← test a
    if n = 0 then test b else return n
  | .either a b => do
    let n ← test a
    if n = 0 then return n else test b

/-- Does `body` under a name for messages; a fault in an expression is a failure. -/
def under (name : String) (body : Script Nat) : Script Unit := do
  match ← Script.outcome (Script.inBuiltin name.toList body) with
  | .ok n => modify fun s => { s with status := n, statuses := [n] }
  | .error .leaveLine => modify fun s => { s with status := 1, statuses := [1] }
  | .error e => Script.escape e

/-! ### Commands -/

/-- How much time a command took, which is next to none. -/
def timed (c : Command) : Script Unit := do
  let start : Nat ← Script.ask .clock
  run false c
  let stop : Nat ← Script.ask .clock
  let ms := (stop - start) / 1000
  let pad (n : Nat) : Text := List.replicate (3 - (Script.decimal n).length) '0' ++ Script.decimal n
  let real := Script.decimal (ms / 60000) ++ 'm' :: Script.decimal (ms / 1000 % 60) ++ '.' ::
    pad (ms % 1000) ++ ['s']
  Script.tell ("\nreal\t".toList ++ real ++ "\nuser\t0m0.000s\nsys\t0m0.000s".toList)

def define (line : Nat) (name : Text) (body : Command) : Script Unit := do
  let s ← get
  let before := s.function? name
  if before.any (·.readOnly) then
    Script.complain (name ++ ": readonly function".toList)
    Script.setStatus 1
  else
    let file := if s.isArgument && s.includes = 0 then "environment".toList else s.file
    let f : Function :=
      { name, body, line, file, exported := before.any (·.exported)
        traced := before.any (·.traced) }
    set { s with functions := f :: s.functions.filter (·.name != name), status := 0 }

/-- The values that a loop goes through. -/
def valuesOf (words : Option (List Word)) : Script (List Text) := do
  match words with
  | some ws => Expand.fields run ws
  | none => return (← get).arguments

/-- One command, given how the commands inside it are carried out. -/
def step (last : Bool) : Command → Script Unit
  | .simple line assignments items redirects => do
    springTraps run
    modify fun s => { s with line }
    if (← get).isStage then
      modify fun s => { s with isStage := false }
      Invoke.simple run last line assignments items redirects
    else if ← announce run (.simple line assignments items redirects) then
      Invoke.simple run last line assignments items redirects
    else Script.setStatus 0
    settle run
  | .pipeline negated stages => pipeline run negated stages
  | .conjunction left right => do
    guarded (run false left)
    if (← get).status = 0 then run last right
  | .disjunction left right => do
    guarded (run false left)
    if (← get).status != 0 then run last right
  | .sequence commands => inOrder run last commands
  | .group body => run last body
  | .background c => background run c
  | .subshell line body => do
    modify fun s => { s with line }
    if last && (← get).traps.isEmpty then
      modify fun s => { s with copies := s.copies + 1 }
      run true body
    else
      let number ← Copy.copy run (run true body)
      Jobs.group none number
      let text ← shownCommand (.subshell line body)
      let status := (← Jobs.await [{ process := number, text }]).headD 0
      modify fun s => { s with status, statuses := [status] }
    settle run
  | .redirected line body redirects => do
    let before := (← get).borrowed
    modify fun s => { s with line }
    let failed : Script Unit := do
      Script.setStatus (← Redirection.failure)
      if ← Script.isExtended then settle run
    Script.andThen (Redirection.within run redirects failed (run false body))
      (Invoke.release before)
  | .conditional test body otherwise => do
    guarded (run false test)
    if (← get).status = 0 then run last body else orSuccess run last otherwise
  | .loop until_ test body => inLoop (loop run until_ test body patience 0)
  | .each line name words body => do
    modify fun s => { s with line }
    let values ← valuesOf run words
    if values.isEmpty then Script.setStatus 0
    let shown := List.intercalate [' '] (match words with
      | some _ => values.map Trace.word
      | none => ["\"$@\"".toList])
    inLoop (each run line name shown body (.each line name words body) values)
  | .count line first test step body => do
    modify fun s => { s with line }
    Script.setStatus 0
    if (← countPart run first 1).isSome then
      inLoop (countFrom run line test step body patience)
  | .select line word clauses => do
    modify fun s => { s with line }
    let _ ← announce run (.select line word clauses)
    let text ← Expand.single run word
    Trace.compound run (return "case ".toList ++ Trace.word text ++ " in".toList)
    choose run last text false false clauses
  | .menu line name words body => do
    modify fun s => { s with line }
    let items ← valuesOf run words
    Script.setStatus 0
    if !items.isEmpty then inLoop (menuFrom run name items body patience true)
  | .define line name body => define line name body
  | .arithmetic line source => do
    modify fun s => { s with line }
    let _ ← announce run (.arithmetic line source)
    let cs ← Expand.single run source
    Trace.compound run (return "(( ".toList ++ cs ++ " ))".toList)
    under "((" do
      let n ← RichArithmetic.evaluate cs
      return if n = 0 then 1 else 0
    settle run
  | .test line t => do
    modify fun s => { s with line }
    let _ ← announce run (.test line t)
    under "[[" (test run t)
    settle run
  | .timed c => timed run c
  | .source line text => do
    let _ ← Copy.source run last "command substitution: ".toList line text

end

/-- Carries out a command; the number bounds how deep commands stand in one another. -/
def eval : Nat → Runner
  | 0 => fun _ _ => Script.abort "Maximum function recursion depth (1000) reached".toList
  | fuel + 1 => step (eval fuel)

end CellRunner.Shell.Eval
