import CellRunner.Shell.Candidates
import CellRunner.Shell.Trace

/-!
# Simple commands

A simple command is a function, a command of the shell itself or a program. Assignments in front
of it hold for it only, but for the commands of the plain dialect after which they last.
-/

set_option autoImplicit false

namespace CellRunner.Shell.Invoke

open Machine (Prog)
open Builtin (Operand)
open Redirection (Saved)

section

variable (run : Runner)

/-! ### Assignments and arguments -/

/-- The items of a list, with their indices. -/
def itemsOf : List (Option Word × Word) → Script (List (Option Text × Text))
  | [] => return []
  | (index, w) :: rest => do
    let here ← match index with
      | some i => do
        let i ← Expand.single run i
        pure [(some i, ← Expand.assigned run w)]
      | none => do pure ((← Expand.fieldsOf run w).map fun cs => (none, cs))
    return here ++ (← itemsOf rest)

/-- The front of an assignment as it is written. -/
def front (name : Text) (index : Option Text) (appends : Bool) : Text :=
  name ++ (match index with
    | some i => '[' :: i ++ [']']
    | none => []) ++ (if appends then ['+', '='] else ['='])

/-- The items of a list as traces show them. -/
def shownItems (items : List (Option Text × Text)) : Text :=
  let one (i : Option Text × Text) : Text :=
    let value := if Format.isSpecial i.2 || i.2.isEmpty then Script.doubleQuoted i.2 else i.2
    match i.1 with
    | some k => '[' :: k ++ "]=".toList ++ value
    | none => value
  '(' :: List.intercalate [' '] (items.map one) ++ [')']

/-- Carries out an assignment, and gives it as it is shown. -/
def assign (a : Assignment) : Script Text := do
  match a.value with
  | .word w =>
    let cs ← Expand.assigned run w
    if ← Script.isExtended then
      let index ← match a.index with
        | some i => some <$> Expand.single run i
        | none => pure none
      if !(← Variables.give a.name index a.appends cs) then
        Script.setStatus 1
        Script.escape .leaveLine
      return front a.name index a.appends ++ (if cs.isEmpty then [] else Trace.word cs)
    else
      Script.assign a.name cs
      return a.name ++ '=' :: cs
  | .items items =>
    let items ← itemsOf run items
    if !(← Variables.giveList a.name a.appends items) then
      Script.setStatus 1
      Script.escape .leaveLine
    return front a.name none a.appends ++ shownItems items

def assignAll : List Assignment → Script (List Text)
  | [] => return []
  | a :: rest => do
    let cs ← assign run a
    return cs :: (← assignAll rest)

/-- Does `body` with assignments that hold for it only. -/
def temporarily (assignments : List Assignment) (body : List Text → Script Unit) :
    Script Unit := do
  let outer := (← get).temporaries
  if assignments.isEmpty then
    if outer.isEmpty then body []
    else
      modify fun s => { s with temporaries := [] }
      Script.andThen (body []) (modify fun s => { s with temporaries := outer })
  else
    let names := assignments.map Assignment.name
    let before ← names.mapM fun n => do return (n, ← Script.find? n)
    let changed : Script Unit := do
      let shown ← assignAll run assignments
      for n in names do Script.change n fun v => { v with exported := true }
      modify fun s => { s with temporaries := names }
      body shown
    Script.andThen changed <| modify fun s =>
      { s with
        temporaries := outer
        variables_ := before.reverse.foldl Script.reinstate s.variables_
        found := if names.contains "PATH".toList then [] else s.found }

/-- The arguments that an item of a command stands for. -/
def operandsOf : List Item → Script (List Operand)
  | [] => return []
  | i :: rest => do
    let here : List Operand ← match i with
      | .word w => do pure ((← Expand.fieldsOf run w).map Operand.word)
      | .assignment a =>
        match a.value with
        | .items items => do
          pure [Operand.list a.name a.appends (← itemsOf run items)]
        | .word w => do
          let cs ← Expand.assigned run w
          let index ← match a.index with
            | some i => some <$> Expand.single run i
            | none => pure none
          pure [Operand.word (front a.name index a.appends ++ cs)]
    return here ++ (← operandsOf rest)

/-! ### Programs -/

def exitMissing : Nat := 127

def exitRefused : Nat := 126

/-- Whether a file that is no program cannot be a script. -/
def isBinary (d : Dialect) (bytes : Machine.Bytes) : Bool :=
  let line := bytes.takeWhile (· != 10)
  match d with
  | .plain => line.any fun b => (b < 32 && !(9 ≤ b && b ≤ 13)) || b = 127
  | .extended =>
    let lines := if bytes.take 2 == [35, 33] then
        line ++ 10 :: (bytes.drop (line.length + 1)).takeWhile (· != 10)
      else line
    bytes.take 4 == [127, 69, 76, 70] || (lines.take 128).contains 0

def firstBytes (path : String) : Script Machine.Bytes := do
  match ← Script.ask (.open path .read Redirection.firstSaved 0) with
  | .error _ => return []
  | .ok d =>
    let bytes ← Script.ask (.read d 256)
    Copy.close d
    return (bytes : Machine.Outcome Machine.Bytes).toOption.getD []

/-- Why a program takes the place of the shell. -/
inductive Succession where
  /-- nothing follows the command -/
  | final
  /-- the command asks for it, with an environment that may be empty -/
  | wanted (isBare : Bool)
deriving DecidableEq

/-- Shells that stand deeper in one another than this begin to count anew. -/
def deepestShell : Nat := 1000

/-- How deep the shell says that it stands in other shells, changed by a step. -/
def deepen (step : Int) : Script Unit := do
  let level := ((← Script.lookup "SHLVL".toList).bind Condition.word?).getD 0
  let level := (level + step).toNat
  let level ← if level < deepestShell then pure level
    else do
      Script.tell ((← get).messageName ++ ": warning: shell level (".toList ++
        Script.decimal level ++ ") too high, resetting to 1".toList)
      pure 1
  Script.store "SHLVL".toList (Script.decimal level)
  Script.change "SHLVL".toList fun v => { v with exported := true }

/-- The environment of a program that is started. -/
def environmentFor (how : Succession) (path : Text) : Script (List (String × Machine.Bytes)) := do
  let s ← get
  let env := Script.environment s
  if s.dialect == .plain then return env
  else
    let env := env.filter (·.1 != "_")
    return match how with
      | .final => env ++ [("_", toBytes path)]
      | .wanted isBare => if isBare then [] else env

/-- Tries a program file; one that is no program is read as a script. -/
def attempt (how : Succession) (path : Text) (args : List Text) : Script SystemError := do
  let s ← get
  let env ← environmentFor how path
  let args := args.map toBytes
  match ← Script.ask (.exec (asName path) args env) with
  | .notExecutable =>
    let bytes ← firstBytes (asName path)
    let isEmpty := s.dialect == .extended && bytes.isEmpty
    if isEmpty || isBinary s.dialect bytes then return .notExecutable
    else
      let shell := match s.dialect with
        | .plain => "/bin/sh"
        | .extended => "/bin/bash"
      Script.ask (.exec shell (shell.toUTF8.toList :: toBytes path :: args.tail) env)
  | e => return e

/-- The interpreter in the first line of a file. -/
def interpreterOf (path : Text) : Script (Option Text) := do
  match ← firstBytes (asName path) with
  | 35 :: 33 :: rest =>
    let line := ofBytes (rest.takeWhile (· != 10))
    return some ((line.dropWhile (· = ' ')).takeWhile fun c => c != ' ' && c != '\t')
  | _ => return none

/-- Whether a file may be run as a program, and whether it is a directory. -/
def standing (path : Text) : Script (Bool × Bool) := do
  match ← Script.ask (.stat (asName path) true) with
  | .ok info =>
    let isDirectory := info.kind == .directory
    return (!isDirectory && info.allows Machine.Files.searching, isDirectory)
  | .error _ => return (false, false)

/-- Tells why a program file that may be run is not one; the status. -/
def tellUnfit (path : Text) (e : SystemError) : Script Nat := do
  let why : Text := ofString e.text
  match e with
  | .notExecutable =>
    if (← firstBytes (asName path)).isEmpty then return 0
    else
      Script.complain (path ++ ": cannot execute binary file: ".toList ++ why)
      return exitRefused
  | .noEntry =>
    Script.complain (path ++ ": cannot execute: required file not found".toList)
    return exitMissing
  | .tooManyArguments =>
    Script.complain (path ++ ": ".toList ++ why)
    return exitRefused
  | _ =>
    match ← interpreterOf path with
    | some i =>
      let i := if i.getLast? = some '\r' then i.dropLast ++ ['^', 'M'] else i
      let s ← get
      Script.tell (s.messageName ++ ": ".toList ++ path ++ ": ".toList ++ i ++
        ": bad interpreter: ".toList ++ why)
    | none => Script.complain (path ++ ": ".toList ++ why)
    return exitRefused

/-- Tells why a program file cannot be run; the status. -/
def tellRefusal (how : Succession) (name path : Text) (e : SystemError) : Script Nat := do
  let missing := e = .noEntry || e = .notDirectory || e = .nameTooLong || e = .tooManyLinks
  match (← get).dialect with
  | .plain =>
    Script.complain (name ++ ": ".toList ++ Redirection.reason "not found" e)
    return if missing then exitMissing else exitRefused
  | .extended =>
    let (isFit, isDirectory) ← standing path
    let why : Text := if isDirectory then "Is a directory".toList else ofString e.text
    let status ← if isFit then tellUnfit path e
      else do
        Script.complain (path ++ ": ".toList ++ why)
        pure (if e = .noEntry then exitMissing else exitRefused)
    if how != .final && status != exitMissing then
      if isFit then Script.complain (path ++ ": Success".toList)
      else Script.refuse (path ++ ": cannot execute: ".toList ++ why)
    return status

/-- Goes on as a program; if that cannot be, the shell ends. -/
def become (how : Succession) (path : Text) (args : List Text) : Script Unit := do
  let e ← attempt how path args
  let name := args.headD []
  let status ← tellRefusal how name path e
  Script.escape (.exit status)

/-- Directories in which programs are looked for. -/
def directories (usual : Bool) : Script (List Text) :=
  if usual then return Lookup.directoriesIn Lookup.usualPath else Lookup.searchPath

/-- Runs a program in a copy of the shell, or in its place when nothing follows. -/
def external (last usual : Bool) (args : List Text) : Script Unit := do
  let name := args.headD []
  match ← Lookup.program usual (← directories usual) name with
  | .error e =>
    if ← Script.isExtended then Script.complain (name ++ ": command not found".toList)
    else
      let e := if name.isEmpty then .accessDenied else e
      Script.complain (name ++ ": ".toList ++ Redirection.reason "not found" e)
    Script.setStatus exitMissing
  | .ok path =>
    let s ← get
    if last && s.traps.isEmpty then
      if s.dialect == .extended && !s.isPiped then deepen (-1)
      become .final path args
    else
      let number ← Copy.copy run (become .final path args)
      Jobs.group none number
      let text := if s.dialect == .extended then Show.commandText s.command else []
      Script.setStatus ((← Jobs.await [{ process := number, text }]).headD 0)

/-! ### Functions and scripts -/

/-- How deep functions of the plain dialect may stand in one another. -/
def deepestCall : Nat := 1000

/-- Carries out a function with its arguments. -/
def call (f : Function) (args : List Text) : Script Unit := do
  let s ← get
  let isExtended := s.dialect == .extended
  if !isExtended && s.calls.length ≥ deepestCall then
    Script.abort "Maximum function recursion depth (1000) reached".toList
  let c : Call :=
    { function := f.name, line := s.line, file := f.file, temporaries := s.temporaries }
  set { s with
    arguments := args, loops := 0, scopes := [] :: s.scopes, calls := c :: s.calls
    optionPlace := if isExtended then s.optionPlace else 0
    messageName := if isExtended then f.file else s.messageName }
  let index ← Script.lookup "OPTIND".toList
  if !isExtended then Script.store "OPTIND".toList ['1']
  let body : Script Unit :=
    if isExtended then Handler.inside f.traced do
      if !(s.traps.lookup Signal.debug).isNone then
        let _ ← Handler.announce run (← get).command
      let r ← Script.outcome (run false f.body)
      if let .error (.leaveFunction n) := r then Script.setStatus n
      Handler.springEvent run Signal.return_
      match r with
      | .ok () => return ()
      | .error e => Script.escape e
    else run false f.body
  let r ← Script.outcome body
  modify fun t =>
    let scope := t.scopes.headD []
    let options : Option (List String) := if scope.any (·.1 == ['-']) then
        (t.variables_.find? (·.name == ['-'])).bind fun v =>
          (v.value.bind Script.Value.text?).map fun cs => (String.ofList cs).splitOn " "
      else none
    { t with
      arguments := s.arguments, loops := s.loops, scopes := s.scopes, calls := s.calls
      messageName := s.messageName
      optionPlace := if isExtended then t.optionPlace else s.optionPlace
      options := (options.map fun os => os.filter (!·.isEmpty)).getD t.options
      variables_ := scope.foldl Script.reinstate t.variables_ }
  if !isExtended then
    if let some cs := index then Script.store "OPTIND".toList cs
  match r with
  | .ok () => return ()
  | .error (.leaveFunction n) => Script.setStatus n
  | .error e => Script.escape e

/-- Whether a text holds no command. -/
def isBlankScript (d : Dialect) (cs : Text) : Bool :=
  match Parse.line (Copy.sourceOf d 1 cs) with
  | .ok (l, _) => l.command.isNone
  | .error _ => false

/-- Carries out the commands in the arguments. -/
def evaluate (args : List Text) : Script Unit := do
  let s ← get
  let isExtended := s.dialect == .extended
  let args := if args.head? = some "--".toList then args.tail else args
  let text := List.intercalate [' '] args
  if isBlankScript s.dialect text then Script.setStatus 0
  else
    modify fun s =>
      { s with nesting := s.nesting + 1, builtin := if isExtended then none else s.builtin }
    Script.andThen
      (do let _ ← Copy.source run false "eval: ".toList (if isExtended then s.line else 1) text)
      (modify fun s => { s with nesting := s.nesting - 1 })

/-- The file that a name of a script stands for. -/
def scriptFile (name : Text) : Script (Option Text) := do
  if name.contains '/' then return some name
  else
    match ← Lookup.fileIn name (← Lookup.searchPath) with
    | some path => return some path
    | none => return if ← Script.isExtended then some name else none

/-- Carries out the commands in a file. -/
def include_ (args : List Text) : Script Unit := do
  let s ← get
  let isExtended := s.dialect == .extended
  let args := if args.head? = some "--".toList then args.tail else args
  match args with
  | [] =>
    if isExtended then
      Script.refuse "filename argument required".toList
      let name := asName (s.builtin.getD [])
      Script.setStatus (← Script.usage (name ++ ": usage: " ++ name ++ " filename [arguments]"))
    else Script.setStatus 0
  | name :: rest =>
    match ← scriptFile name with
    | none => Script.abort (name ++ ": not found".toList)
    | some path =>
      let opened ← Script.ask (.open (asName path) .read Redirection.firstSaved 0)
      match (opened : Machine.Outcome Nat) with
      | .error e =>
        if isExtended then
          Script.complain (path ++ ": ".toList ++ ofString e.text)
          Script.setStatus 1
        else
          Script.abort ("cannot open ".toList ++ name ++ ": ".toList ++
            Redirection.reason "No such file" e)
      | .ok d =>
        let bytes ← Script.run (Prog.readAll d Prog.fuel [])
        Copy.close d
        match bytes with
        | .error e =>
          if isExtended then
            Script.refuse (path ++ ": ".toList ++ (if e = .isDirectory then
              "is a directory".toList else ofString e.text))
            Script.setStatus 1
          else Script.setStatus 0
        | .ok bytes =>
          let text := (ofBytes bytes).filter (·.toNat != 0)
          if isBlankScript s.dialect text then Script.setStatus 0
          else
            modify fun t =>
              if isExtended then
                { t with
                  includes := t.includes + 1, builtin := none, messageName := path, file := path
                  nesting := t.nesting + 1
                  arguments := if rest.isEmpty then t.arguments else rest }
              else { t with builtin := some path, guards := 0 }
            let r ← Script.outcome (Copy.source run false [] 1 text)
            modify fun t =>
              { t with
                includes := s.includes, messageName := s.messageName, file := s.file
                guards := s.guards, nesting := s.nesting
                arguments := if isExtended && !rest.isEmpty then s.arguments else t.arguments }
            match r with
            | .ok _ => return ()
            | .error (.leaveFunction n) => Script.setStatus n
            | .error e => Script.escape e

/-! ### Commands of the shell itself -/

/-- Options of `command` that leave a command to be carried out: whether only the usual
directories are searched, and the command. None if it is a question. -/
def commandOf : Nat → Bool → List Text → Option (Bool × List Text)
  | 0, _, _ => none
  | _ + 1, _, [] => none
  | fuel + 1, usual, a :: rest =>
    match a with
    | ['-', '-'] => if rest.isEmpty then none else some (usual, rest)
    | '-' :: c :: cs =>
      if (c :: cs).all (· = 'p') then commandOf fuel true rest else none
    | _ => some (usual, a :: rest)

/-- How a command is looked for. -/
structure Resolved where
  args : List Text
  /-- how many arguments at the front were left out -/
  skipped : Nat := 0
  /-- whether functions do not count -/
  isPlain : Bool := false
  /-- whether only the usual directories are searched -/
  usual : Bool := false
  /-- whether its faults end the shell and assignments last -/
  special : Bool := false

/-- Leaves out `command` at the front; `fuel` bounds how often. -/
def resolve : Nat → Resolved → Script Resolved
  | 0, r => return r
  | fuel + 1, r => do
    let s ← get
    let name := r.args.headD []
    let isFunction := !r.isPlain && (s.function? name).isSome
    let special := if r.skipped = 0 then Lookup.isSpecial s.dialect name && !isFunction
      else r.special
    let r := { r with special }
    if name = "command".toList && !isFunction then
      match commandOf (r.args.length + 1) r.usual r.args.tail with
      | some (usual, args) =>
        resolve fuel
          { r with args, usual, isPlain := true, skipped := r.skipped + r.args.length - args.length }
      | none => return r
    else if name = "builtin".toList && !isFunction && s.dialect == .extended then
      match r.args.tail with
      | b :: rest =>
        if Lookup.isOwn s b then
          resolve fuel { r with args := b :: rest, isPlain := true, skipped := r.skipped + 1 }
        else return r
      | [] => return r
    else return r

/-- Tells what names stand for, as `command` is asked to. -/
def question (args : List Text) : Script Nat := do
  let isExtended ← Script.isExtended
  Builtin.withOptions "pVv" "" "command: usage: command [-pVv] command [arg ...]" args
    fun options names => do
      let usual := Builtin.has 'p' options
      let verbose := (options.filter (·.1 != 'p')).getLast?.map (·.1) = some 'V'
      let asks := options.any (·.1 != 'p')
      if !asks || names.isEmpty then return 0
      else if isExtended then
        let mut status := 1
        for n in names do
          if ← Lookup.describe { form := if verbose then .sentence else .reusable, usual } n then
            status := 0
          else if verbose then Script.refuse (n ++ ": not found".toList)
        return status
      else Lookup.describePlain verbose (← directories usual) (names.headD [])

/-- Goes on as another program, as the plain dialect does. -/
def replacePlain : List Text → Script Unit
  | [] => Script.setStatus 0
  | name :: rest => do
    let placed ← if name.contains '/' then pure (.ok name)
      else Lookup.lookedFor (← directories false) name
    match placed with
    | .ok path => become (.wanted false) path (name :: rest)
    | .error e =>
      Script.complain (name ++ ": ".toList ++ Redirection.reason "not found" e)
      Script.escape (.exit (if e = .accessDenied then exitRefused else exitMissing))

/-- Where the program is that takes the place of the shell, as a path from the root. -/
def successor (name : Text) : Script (Except Nat Text) := do
  let placed ← if name.contains '/' then pure (.ok name)
    else Lookup.lookedFor (← directories false) name
  match placed with
  | .ok path =>
    if path.contains '/' && path.head? != some '/' then
      let bare := if path.take 2 = ['.', '/'] then path.drop 2 else path
      return .ok ((← get).cwd ++ '/' :: bare)
    else return .ok path
  | .error _ =>
    if ← FileNames.isDirectory name then
      Script.refuse (name ++ ": cannot execute: Is a directory".toList)
      return .error exitRefused
    else
      Script.refuse (name ++ ": not found".toList)
      return .error exitMissing

/-- Goes on as another program, as the extended dialect does. -/
def replaceExtended (args : List Text) : Script Nat :=
  Builtin.withOptions "cl" "a" (Help.usage "exec") args fun options operands => do
    match operands with
    | [] => return 0
    | name :: rest =>
      let status ← match ← successor name with
        | .error status => pure status
        | .ok path =>
          let isBare := Builtin.has 'c' options
          let shown := (Builtin.valueOf 'a' options).getD name
          let shown := if Builtin.has 'l' options then '-' :: shown else shown
          let how := Succession.wanted isBare
          if !isBare then deepen (-1)
          let e ← attempt how path (shown :: rest)
          if !isBare then deepen 1
          tellRefusal how name path e
      let survives := ← Script.hasFeature "execfail"
      if survives then return status else Script.escape (.exit status)

/-- Goes on as another program. -/
def replace (args : List Text) : Script Unit := do
  if ← Script.isExtended then Script.setStatus (← replaceExtended args) else replacePlain args

/-- Lists commands that were given before, or carries one out again. -/
def again (args : List Text) : Script Unit := do
  let status ← Builtin.withOptions "lnrs" "e" (Help.usage "fc") args fun options operands => do
    if Builtin.has 'l' options then return ← Builtin.listPast options operands
    let past := (← get).past
    if past.isEmpty && !Builtin.has 's' options then return 0
    let choice := match operands.filter (!·.contains '=') with
      | a :: _ => Builtin.pastChoice past a
      | [] => if past.isEmpty then none else some (past.length - 1)
    match choice.bind (past[·]?) with
    | none =>
      Script.refuse "no command found".toList
      return 1
    | some cs =>
      Script.tell cs
      evaluate run [cs]
      return (← get).status
  Script.setStatus status

/-- Carries out a command of the shell itself. -/
def builtin (name : Text) (operands : List Operand) : Script Unit := do
  let s ← get
  let args := operands.map Operand.text
  match asName name with
  | "eval" => evaluate run args
  | "." => include_ run args
  | "source" => include_ run args
  | "exec" => replace args
  | "command" => Script.setStatus (← question args)
  | "fc" => again run args
  | "compgen" => Script.setStatus (← Candidates.compgen run (call run) args)
  | "builtin" =>
    match args with
    | [] => Script.setStatus 0
    | b :: _ =>
      Script.refuse (b ++ ": not a shell builtin".toList)
      Script.setStatus 1
  | word =>
    if s.dialect == .extended && Lookup.declaring.contains word then
      Script.setStatus (← Builtin.declare word operands)
    else
      match Lookup.find? s.dialect word with
      | some b => Script.setStatus (← b args)
      | none => Script.setStatus 0

/-- Carries out a command of the shell itself; a fault in one that is not special is caught. -/
def guardedBuiltin (special : Bool) (name : Text) (operands : List Operand) : Script Unit := do
  let isExtended ← Script.isExtended
  match ← Script.outcome (Script.inBuiltin name (builtin run name operands)) with
  | .ok () => return ()
  | .error (.fault n) => if special then Script.escape (.fault n) else Script.setStatus n
  | .error .leaveLine =>
    if isExtended && name = "let".toList then Script.setStatus 1 else Script.escape .leaveLine
  | .error e => Script.escape e

/-- Carries out a command in which the names of jobs stand for their processes. -/
def withJobs (last : Bool) (operands : List Operand) : Script Unit := do
  let args := (operands.drop 1).map Operand.text
  let front := args.takeWhile fun a => a.head? = some '-' && a != "--".toList
  if front != ["-x".toList] then
    Script.inBuiltin "jobs".toList <|
      Script.refuse ("no other options allowed with ".toList ++ Parser.inMarks "-x".toList)
    Script.setStatus 1
  else
    let args ← Builtin.replacedJobs (args.drop 1)
    match args with
    | [] => Script.setStatus 0
    | name :: rest =>
      match (← get).function? name with
      | some f => call run f rest
      | none =>
        if Lookup.isOwn (← get) name then
          guardedBuiltin run false name (rest.map Operand.word)
        else external run last false args

/-- Whether arguments ask for a command with jobs in it. -/
def asksForJobs (args : List Text) : Bool :=
  (args.takeWhile fun a => a.head? = some '-' && a != "--".toList).any (·.contains 'x')

/-- Carries out what a resolved command stands for. -/
def dispatch (last : Bool) (r : Resolved) (operands : List Operand) : Script Unit := do
  let s ← get
  let name := r.args.headD []
  let function := if r.isPlain then none else s.function? name
  match function with
  | some f => call run f r.args.tail
  | none =>
    if name = "jobs".toList && s.dialect == .extended && asksForJobs r.args.tail then
      withJobs run last (operands.drop r.skipped)
    else if Lookup.isOwn s name then
      guardedBuiltin run r.special name (operands.drop (r.skipped + 1))
    else external run last r.usual r.args

/-! ### Simple commands -/

/-- Where traces go while descriptors are redirected. -/
def traceTarget (saved : List Saved) : Nat :=
  match (saved.filter (·.descriptor == 2)).getLast? with
  | some { copy := some d, .. } => d
  | _ => 2

/-- A simple command of the plain dialect: redirections come before assignments. -/
def simplePlain (last : Bool) (assignments : List Assignment) (operands : List Operand)
    (redirects : List Redirect) : Script Unit := do
  let args := operands.map Operand.text
  let r ← resolve (args.length + 1) { args }
  let isExec := r.args.headD [] = "exec".toList && !r.args.isEmpty
  match ← Redirection.carryOutAll run redirects [] with
  | none =>
    Script.setStatus 2
    if r.special then Script.escape (.fault 2)
  | some saved =>
    let descriptor := traceTarget saved
    let body : Script Unit := do
      if args.isEmpty then
        let shown ← assignAll run assignments
        Trace.command run descriptor shown []
        Script.setStatus (← get).captured
      else if r.special then
        let shown ← assignAll run assignments
        if isExec && r.args.length > 1 then
          for a in assignments do Script.change a.name fun v => { v with exported := true }
        Trace.command run descriptor shown args
        dispatch run last r operands
      else
        temporarily run assignments fun shown => do
          Trace.command run descriptor shown args
          dispatch run last r operands
    if isExec && r.args.length = 1 then
      Script.andThen body (Redirection.forget saved)
    else Script.andThen body (Redirection.restore saved)

/-- A simple command of the extended dialect. -/
def simpleExtended (last : Bool) (assignments : List Assignment) (operands : List Operand)
    (redirects : List Redirect) : Script Unit := do
  let args := operands.map Operand.text
  let failed : Script Unit := Script.setStatus 1
  if args.isEmpty then
    let shown ← assignAll run assignments
    Trace.command run 2 shown []
    let status := (← get).captured
    Redirection.within run redirects failed (Script.setStatus status)
  else
    let r ← resolve (args.length + 1) { args }
    let isExec := r.args.headD [] = "exec".toList
    temporarily run assignments fun shown => do
      Trace.command run 2 shown (operands.map fun
        | .word cs => cs
        | .list name appends items => front name none appends ++ shownItems items)
      if isExec && r.args.length = 1 then
        match ← Redirection.carryOutAll run redirects [] with
        | none => failed
        | some saved =>
          Redirection.forget saved
          Script.setStatus 0
      else Redirection.within run redirects failed (dispatch run last r operands)
    if let some a := args.getLast? then Script.store ['_'] a

/-- Closes the files of processes that were opened for a command. -/
def release (before : List Nat) : Script Unit := do
  for d in (← get).borrowed do
    if !before.contains d then Copy.close d
  modify fun s => { s with borrowed := before }

def simple (last : Bool) (line : Nat) (assignments : List Assignment) (items : List Item)
    (redirects : List Redirect) : Script Unit := do
  let before := (← get).borrowed
  modify fun s => { s with line, captured := 0 }
  Script.ask .yield
  let body : Script Unit := do
    let operands ← operandsOf run items
    match (← get).dialect with
    | .plain => simplePlain run last assignments operands redirects
    | .extended =>
      simpleExtended run last assignments operands redirects
      modify fun s => { s with statuses := [s.status] }
  Script.andThen body (release before)

end

end CellRunner.Shell.Invoke
