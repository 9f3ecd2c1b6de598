import CellRunner.Shell.Parse

/-!
# The state of a shell

Variables hold texts, lists or tables; the plain dialect knows texts only. A script is carried
out on the state, and may leave out the commands that follow.
-/

set_option autoImplicit false

namespace CellRunner.Shell

open Machine (Prog Request)

inductive Value where
  | text (cs : Text)
  /-- items with their places, in order -/
  | list (items : List (Nat × Text))
  /-- items with their names -/
  | table (items : List (Text × Text))
  deriving DecidableEq, Repr

structure Variable where
  name : Text
  /-- none while it has attributes only -/
  value : Option Value := none
  exported : Bool := false
  readOnly : Bool := false
  /-- values are the results of arithmetic -/
  integer : Bool := false
  /-- how the letters of values are changed -/
  casing : Option Recasing := none
  /-- stands for the variable that its value names -/
  reference : Bool := false
  traced : Bool := false
  /-- whether the value is only what the attributes ask for -/
  pending : Bool := false
  deriving DecidableEq, Repr

/-- A command that a name was given to. -/
structure Function where
  name : Text
  body : Command
  line : Nat := 1
  /-- the file that it was read from -/
  file : Text := []
  exported : Bool := false
  readOnly : Bool := false
  /-- whether the traps of the caller hold inside -/
  traced : Bool := false

/-- A function that is being carried out. -/
structure Call where
  function : Text
  /-- where it was called -/
  line : Nat
  /-- the names of variables that were set for it only -/
  temporaries : List Text := []
  /-- the file that it was read from -/
  file : Text
  deriving DecidableEq, Repr

/-- A process of a job. -/
structure Worker where
  process : Nat
  /-- the command that it carries out -/
  text : Text := []
  /-- how it ended, once that is known -/
  status : Option Machine.Status := none
  /-- the signal that has stopped it -/
  stopped : Option Nat := none
  deriving DecidableEq, Repr

/-- A pipeline whose processes are known by a number. -/
structure Job where
  number : Nat
  members : List Worker
  /-- the directory in which it was started -/
  place : Text := []
  isForeground : Bool := false
  /-- whether its present state was told -/
  isKnown : Bool := false
  /-- whether its processes are a group of their own -/
  isGroup : Bool := false
  deriving DecidableEq, Repr

/-- Where a program is. -/
structure Remembered where
  name : Text
  path : Text
  /-- how often it was wanted -/
  hits : Nat := 0
  deriving DecidableEq, Repr

/-- What completes the words after a command. -/
structure Completion where
  options : List String := []
  /-- kinds of names -/
  kinds : List String := []
  /-- a pattern that describes file names -/
  files : Option Text := none
  words : Option Text := none
  function : Option Text := none
  command : Option Text := none
  /-- a pattern of what is left out -/
  filter : Option Text := none
  /-- what is put in front of each word, and after it -/
  front : Option Text := none
  back : Option Text := none
  deriving DecidableEq, Repr

structure State where
  dialect : Dialect := .plain
  variables_ : List Variable := []
  /-- for each function being carried out, variables as they were before, the last one first -/
  scopes : List (List (Text × Option Variable)) := []
  functions : List Function := []
  /-- commands of the shell itself that are not to be used -/
  disabled : List Text := []
  completions : List (Text × Completion) := []
  /-- commands that were noted -/
  past : List Text := []
  calls : List Call := []
  arguments : List Text := []
  /-- how the shell calls itself -/
  name : Text := "sh".toList
  /-- how messages call the script -/
  messageName : Text := "sh".toList
  /-- the file that commands are read from -/
  file : Text := []
  /-- whether commands are read from an argument -/
  isArgument : Bool := false
  /-- whether the output of the shell is taken as text -/
  captures : Bool := false
  /-- the command of the shell itself that is being carried out, as messages name it -/
  builtin : Option Text := none
  status : Nat := 0
  /-- the statuses of the stages of the last pipeline -/
  statuses : List Nat := [0]
  lastBackground : Option Nat := none
  /-- the last one first -/
  jobs : List Job := []
  /-- the number of the job that is meant when none is named, and of the one before it -/
  presentJob : Option Nat := none
  previousJob : Option Nat := none
  /-- processes that a signal was just sent to, which have not had the time to end -/
  signaled : List Nat := []
  /-- how processes ended whose jobs are forgotten -/
  pastJobs : List (Nat × Machine.Status) := []
  /-- programs that were looked for -/
  found : List Remembered := []
  /-- directories to go back to, the last one first -/
  places : List Text := []
  /-- the number of the first shell, also in its copies -/
  number : Nat := 0
  /-- how many copies lead to this shell -/
  copies : Nat := 0
  traps : List (Nat × Text) := []
  /-- the traps of the shell that this one is a copy of -/
  pastTraps : List (Nat × Text) := []
  /-- signals that came and whose traps were not sprung yet -/
  arrived : List Nat := []
  /-- limits that were set, by their letters -/
  limits : List (Char × Text) := []
  /-- signals that were ignored from the beginning -/
  ignored : List Nat := []
  line : Nat := 1
  /-- when the shell began, in microseconds -/
  began : Nat := 0
  /-- how many conditions the present command stands in -/
  guards : Nat := 0
  /-- how many loops the present command stands in -/
  loops : Nat := 0
  /-- how many scripts of other files are being carried out -/
  includes : Nat := 0
  /-- the status of the last command whose output was taken -/
  captured : Nat := 0
  options : List String := []
  /-- further options of the extended dialect -/
  features : List String := []
  aliases : List (Text × Text) := []
  cwd : Text := ['/']
  /-- the place inside the argument that `getopts` looks at next -/
  optionPlace : Nat := 0
  /-- how many texts are carried out inside one another, which traces show -/
  nesting : Nat := 0
  /-- the status before the present trap -/
  trapped : Option Nat := none
  /-- the status of the last command of the last trap -/
  lastTrapStatus : Nat := 0
  /-- the command that was carried out last, outside of traps -/
  command : Command := default
  /-- what the next random number is made of -/
  seed : Nat := 1
  /-- descriptors of processes whose files the present command reads or writes -/
  borrowed : List Nat := []
  /-- whether the next simple command was announced already -/
  isStage : Bool := false
  /-- whether the next simple command stands in a pipeline of its own copy -/
  isPiped : Bool := false
  /-- what programs get from the environment that cannot be a variable -/
  passed : List (String × Machine.Bytes) := []
  /-- the names of variables that were set for the present function only -/
  temporaries : List Text := []

def State.function? (s : State) (name : Text) : Option Function :=
  s.functions.find? (·.name == name)

/-- Why the commands that follow are left out. -/
inductive Escape where
  | exit (code : Nat)
  /-- a fault that ends the shell unless a command of its own can take it -/
  | fault (code : Nat)
  /-- a fault that ends the line -/
  | leaveLine
  /-- a fault that ends the line of the outermost script -/
  | leaveScripts
  | leaveLoops (count : Nat)
  | nextRound (count : Nat)
  | leaveFunction (code : Nat)
  deriving DecidableEq, Repr

abbrev Script := ExceptT Escape (StateT State Prog)

/-- Carries out a command, given whether nothing follows it in this shell. -/
abbrev Runner := Bool → Command → Script Unit

namespace Script

def run {α : Type} (p : Prog α) : Script α :=
  (liftM (m := Prog) (n := StateT State Prog) p : StateT State Prog α)

def ask (r : Request) : Script r.Reply := run (Prog.ask r)

def escape {α : Type} (e : Escape) : Script α := throw e

/-- What comes of a part of a script, whether or not commands are left out. -/
def outcome {α : Type} (x : Script α) : Script (Except Escape α) :=
  tryCatch (Except.ok <$> x) fun e => return .error e

/-- Does `after` when `x` is over, however it is. -/
def andThen {α : Type} (x : Script α) (after : Script Unit) : Script α := do
  let r ← outcome x
  after
  match r with
  | .ok a => return a
  | .error e => escape e

def isExtended : Script Bool := do return (← get).dialect == .extended

def setStatus (n : Nat) : Script Unit := modify fun s => { s with status := n }

def isOn (option : String) : Script Bool := do return (← get).options.contains option

def hasFeature (name : String) : Script Bool := do return (← get).features.contains name

/-! ### Messages -/

/-- Writes a line to the standard error. -/
def tell (message : Text) : Script Unit := do
  let _ ← run (Prog.put 2 (toBytes (message ++ ['\n'])))

/-- What messages of the shell begin with. -/
def introduction (s : State) (line : Nat) : Text :=
  let number := ofString (toString line)
  match s.dialect with
  | .plain =>
    let command := match s.builtin with
      | some name => name ++ ": ".toList
      | none => []
    s.messageName ++ ": ".toList ++ number ++ ": ".toList ++ command
  | .extended => s.messageName ++ ": line ".toList ++ number ++ ": ".toList

/-- Writes a message of the shell. -/
def complain (message : Text) : Script Unit := do
  let s ← get
  tell (introduction s s.line ++ message)

/-- Writes a message of a command of the shell itself. -/
def refuse (message : Text) : Script Unit := do
  let s ← get
  match s.dialect, s.builtin with
  | .extended, some name => complain (name ++ ": ".toList ++ message)
  | _, _ => complain message

/-- Writes how a command of the shell itself is used. -/
def usage (message : String) : Script Nat := do
  tell message.toList
  return 2

/-- Carries out a command of the shell itself. -/
def inBuiltin {α : Type} (name : Text) (body : Script α) : Script α := do
  let before := (← get).builtin
  modify fun s => { s with builtin := some name }
  andThen body (modify fun s => { s with builtin := before })

/-- A fault of the plain dialect, which ends the shell. -/
def abort {α : Type} (message : Text) : Script α := do
  complain message
  setStatus 2
  escape (.fault 2)

/-- A fault of the extended dialect, which ends the line. -/
def dropLine {α : Type} (message : Text) : Script α := do
  complain message
  setStatus 1
  escape .leaveLine

/-- Does `body`; a fault that ends a line ends that of the outermost script. -/
def escalating {α : Type} (body : Script α) : Script α :=
  tryCatch body fun e => throw (if e = .leaveLine then .leaveScripts else e)

/-! ### Variables -/

def find? (name : Text) : Script (Option Variable) := do
  return (← get).variables_.find? (·.name == name)

/-- Puts a variable in place of the one with its name. -/
def put (v : Variable) : Script Unit :=
  modify fun s =>
    if s.variables_.any (·.name == v.name) then
      { s with variables_ := s.variables_.map fun w => if w.name == v.name then v else w }
    else { s with variables_ := v :: s.variables_ }

def remove (name : Text) : Script Unit :=
  modify fun s => { s with variables_ := s.variables_.filter (·.name != name) }

/-- The variable that a name stands for when references are followed; `fuel` bounds them. -/
def target (name : Text) : Nat → Script Text
  | 0 => return name
  | fuel + 1 => do
    match ← find? name with
    | some { reference := true, value := some (.text next), .. } => target next fuel
    | _ => return name

def chain : Nat := 16

/-- Changes a variable, which is made if it is not there. -/
def change (name : Text) (f : Variable → Variable) : Script Unit := do
  put (f ((← find? name).getD { name }))

/-- The text of a value: a list stands for its item with number zero. -/
def Value.text? : Value → Option Text
  | .text cs => some cs
  | .list items => items.lookup 0
  | .table items => items.lookup ['0']

def lookup (name : Text) : Script (Option Text) := do
  return ((← find? (← target name chain)).bind (·.value)).bind Value.text?

/-- The random number after another one. -/
def nextRandom (n : Nat) : Nat :=
  let n := if n = 0 then 123459876 else n
  16807 * n % 2147483647

/-- Places of a list for texts in a row. -/
def numbered (items : List Text) : Value := .list (items.zipIdx.map fun (cs, n) => (n, cs))

/-- The version of the extended dialect in parts. -/
def versionParts : List String := ["5", "2", "21", "1", "release", "x86_64-pc-linux-gnu"]

/-- Names in order with colons between. -/
def listedNames (names : List String) : Text :=
  ofString (String.intercalate ":" (names.mergeSort (· ≤ ·)))

/-- Variables of the extended dialect whose values follow the state of the shell. -/
def dynamicIn (s : State) (name : String) : Option Value :=
  let number (n : Nat) : Option Value := some (.text (ofString (toString n)))
  match name with
  | "LINENO" => number s.line
  | "BASH_SUBSHELL" => number s.copies
  | "BASH_COMMAND" => some (.text (Show.headText s.command))
  | "BASH_ARGV0" => some (.text s.name)
  | "FUNCNAME" =>
    if s.calls.isEmpty then none
    else some (numbered (s.calls.map (·.function) ++ ["main".toList]))
  | "BASH_SOURCE" => some (numbered (s.calls.map (·.file) ++ [s.file]))
  | "BASH_LINENO" => some (numbered (s.calls.map (fun c => ofString (toString c.line)) ++ [['0']]))
  | "PIPESTATUS" => some (numbered (s.statuses.map fun n => ofString (toString n)))
  | "BASH_VERSINFO" => some (numbered (versionParts.map String.toList))
  | "DIRSTACK" => some (numbered (s.cwd :: s.places))
  | "BASH_ALIASES" => some (.table s.aliases)
  | "BASH_CMDS" => some (.table (s.found.map fun r => (r.name, r.path)))
  | "SHELLOPTS" => some (.text (listedNames s.options))
  | "BASHOPTS" => some (.text (listedNames s.features))
  | _ => none

/-- The value of a variable that follows the state of the shell, or the time. -/
def dynamic? (name : Text) : Script (Option Value) := do
  let s ← get
  if s.dialect == .plain then return none
  let number (n : Nat) : Option Value := some (.text (ofString (toString n)))
  match String.ofList name with
  | "RANDOM" =>
    let n := nextRandom s.seed
    set { s with seed := n }
    return number (((n / 65536) ^^^ (n % 65536)) % 32768)
  | "SRANDOM" =>
    let n := nextRandom s.seed
    set { s with seed := n }
    return number n
  | "SECONDS" =>
    let now : Nat ← ask .clock
    return number ((now - s.began) / 1000000)
  | "EPOCHSECONDS" =>
    let now : Nat ← ask .clock
    return number ((Machine.epoch.toNat + now) / 1000000)
  | "EPOCHREALTIME" =>
    let now : Nat ← ask .clock
    let micros := Machine.epoch.toNat + now
    let rest := ofString (toString (micros % 1000000))
    return some (.text (ofString (toString (micros / 1000000)) ++ '.' ::
      List.replicate (6 - rest.length) '0' ++ rest))
  | "BASHPID" =>
    let self : Nat ← ask .self
    return number self
  | name => return dynamicIn s name

/-- What a variable holds. -/
def content? (name : Text) : Script (Option Value) := do
  match ← dynamic? name with
  | some v => return some v
  | none => return (← find? (← target name chain)).bind (·.value)

/-- The value of a variable. -/
def value? (name : Text) : Script (Option Text) := do
  return (← content? name).bind Value.text?

def recase (how : Recasing) (cs : Text) : Text :=
  match how with
  | .upper => cs.map Char.toUpper
  | .lower => cs.map Char.toLower
  | .toggle => cs.map fun c => if c.isUpper then c.toLower else c.toUpper

/-- The message about a variable that cannot be changed. -/
def readOnlyFault (name : Text) : Script Unit := do
  if ← isExtended then complain (name ++ ": readonly variable".toList)
  else abort (name ++ ": is read only".toList)

/-- What tells the items of a variable apart. -/
inductive Key where
  /-- a place, counted from the end if it is negative -/
  | place (n : Int)
  | entry (name : Text)
  deriving DecidableEq, Repr

/-- The place after the last one. -/
def sizeOf (items : List (Nat × Text)) : Nat :=
  match items.getLast? with
  | some (n, _) => n + 1
  | none => 0

def placeIn (items : List (Nat × Text)) (n : Int) : Option Nat :=
  let n := if n < 0 then n + sizeOf items else n
  if n < 0 then none else some n.toNat

def Value.item? : Value → Key → Option Text
  | .text cs, .place 0 => some cs
  | .text cs, .place (-1) => some cs
  | .list items, .place n => (placeIn items n).bind fun n => items.lookup n
  | .table items, .entry name => items.lookup name
  | .text cs, .entry ['0'] => some cs
  | _, _ => none

/-- An item of a list in its place. -/
def withItem (place : Nat) (cs : Text) : List (Nat × Text) → List (Nat × Text)
  | [] => [(place, cs)]
  | (n, v) :: rest =>
    if place < n then (place, cs) :: (n, v) :: rest
    else if place = n then (place, cs) :: rest
    else (n, v) :: withItem place cs rest

/-- An item of a table under its name. -/
def withEntry (name cs : Text) (items : List (Text × Text)) : List (Text × Text) :=
  if items.any (·.1 == name) then items.map fun i => if i.1 == name then (name, cs) else i
  else items ++ [(name, cs)]

/-- A text as the attributes of a variable ask for. -/
def Variable.cased (v : Variable) (cs : Text) : Text :=
  match v.casing, cs with
  | some .toggle, c :: rest => c.toUpper :: rest.map Char.toLower
  | some how, cs => recase how cs
  | none, cs => cs

/-- Gives a variable a text, whatever its attributes. -/
def store (name cs : Text) : Script Unit := do
  if name = "PATH".toList then modify fun s => { s with found := [] }
  change name fun v =>
    let cs := Variable.cased v cs
    let v := { v with pending := false }
    match v.value with
    | some (.list items) => { v with value := some (.list (withItem 0 cs items)) }
    | some (.table items) => { v with value := some (.table (withEntry ['0'] cs items)) }
    | _ => { v with value := some (.text cs) }

/-- The items of a value by their places. -/
def Value.items : Option Value → List (Nat × Text)
  | some (.text cs) => [(0, cs)]
  | some (.list items) => items
  | _ => []

/-- Gives an item of a variable a text; whether it could be changed. -/
def assignItem? (name : Text) (key : Key) (cs : Text) : Script Bool := do
  let name ← target name chain
  match ← find? name with
  | some { readOnly := true, .. } =>
    readOnlyFault name
    return false
  | v =>
    let v := { v.getD { name } with pending := false }
    let cs := Variable.cased v cs
    match v.value, key with
    | some (.table items), .entry entry =>
      put { v with value := some (.table (withEntry entry cs items)) }
      return true
    | value, .place n =>
      let items := Value.items value
      match placeIn items n with
      | some place =>
        put { v with value := some (.list (withItem place cs items)) }
        return true
      | none =>
        complain (name ++ "[".toList ++ ofString (toString n) ++ "]: bad array subscript".toList)
        return false
    | _, _ => return false

/-- Gives a variable a text; whether it could be changed. -/
def assign? (name cs : Text) : Script Bool := do
  let name ← target name chain
  match ← find? name with
  | some { readOnly := true, .. } =>
    readOnlyFault name
    return false
  | _ =>
    store name cs
    if ← isOn "allexport" then change name fun v => { v with exported := true }
    if name = "OPTIND".toList then modify fun s => { s with optionPlace := 0 }
    if name = "RANDOM".toList then
      modify fun s => { s with seed := cs.foldl (fun n c => n * 10 + (c.toNat - 48)) 0 }
    return true

def assign (name cs : Text) : Script Unit := do
  let _ ← assign? name cs

/-- Variables with one of them as it was before. -/
def reinstate (vs : List Variable) (before : Text × Option Variable) : List Variable :=
  before.2.toList ++ vs.filter (·.name != before.1)

/-- A variable is restored when the present function ends. -/
def keepForScope (name : Text) : Script Unit :=
  modify fun s =>
    match s.scopes with
    | scope :: scopes =>
      if scope.any (·.1 == name) then s
      else
        { s with
          scopes := ((name, s.variables_.find? (·.name == name)) :: scope) :: scopes }
    | [] => s

/-! ### Order

Programs get the variables of the environment in the order of a table of buckets. -/

def bucketSum (cs : Text) : Nat :=
  match cs with
  | [] => 0
  | c :: _ => cs.foldl (fun n d => n + d.toNat) (c.toNat * 16)

/-- A number that spreads names over buckets. -/
def spread (cs : Text) : Nat :=
  cs.foldl (fun h c => ((h * 16777619) % Nat.pow 2 32) ^^^ c.toNat) 2166136261

/-- The bucket that a variable belongs to. -/
def bucket (d : Dialect) (name : Text) : Nat :=
  match d with
  | .plain => bucketSum name % 39
  | .extended => spread name % 1024

/-- Names by buckets; of those in one bucket, later ones come first in the extended dialect. -/
def byBucket {α : Type} (d : Dialect) (name : α → Text) (xs : List α) : List α :=
  let xs := match d with
    | .plain => xs
    | .extended => xs.reverse
  xs.mergeSort fun a b => bucket d (name a) ≤ bucket d (name b)

/-- What the names of functions in the environment begin and end with. -/
def functionMark : Text × Text := ("BASH_FUNC_".toList, "%%".toList)

/-- The environment of the programs that this shell starts. -/
def environment (s : State) : List (String × Machine.Bytes) :=
  let vs := (s.variables_.filter (·.exported)).reverse
  let own := (byBucket s.dialect Variable.name vs).filterMap fun v =>
    match v.value with
    | some (.text cs) => some (asName v.name, toBytes cs)
    | _ => none
  let functions := (s.functions.filter (·.exported)).mergeSort fun f g =>
    spread f.name % 512 ≤ spread g.name % 512
  own ++ s.passed ++ functions.map fun f =>
    (asName (functionMark.1 ++ f.name ++ functionMark.2), toBytes (Show.definition true [] f.body))

/-- The items of a table in the order in which they are listed. -/
def entriesInOrder (items : List (Text × Text)) : List (Text × Text) :=
  (items.reverse.mergeSort fun a b => spread a.1 % 1024 ≤ spread b.1 % 1024)

/-- The letters of a variable's attributes. -/
def attributes (v : Variable) : Text :=
  (match v.value with
    | some (.list _) => ['a']
    | some (.table _) => ['A']
    | _ => []) ++
  (if v.integer then ['i'] else []) ++ (if v.reference then ['n'] else []) ++
  (if v.readOnly then ['r'] else []) ++ (if v.traced then ['t'] else []) ++
  (if v.exported then ['x'] else []) ++
  (match v.casing with
    | some .upper => ['u']
    | some .lower => ['l']
    | some .toggle => ['c']
    | none => [])

/-- A text in double quotes as it is listed. -/
def doubleQuoted (cs : Text) : Text :=
  if cs.any fun c => c < ' ' || c.toNat = 127 then Format.escapeQuoted cs
  else
    '"' :: cs.flatMap (fun c =>
      if c = '"' || c = '\\' || c = '$' || c = Parser.backquote then ['\\', c] else [c]) ++ ['"']

/-- A name in a table as it is written. -/
def entryName (cs : Text) : Text :=
  if !cs.isEmpty && cs.all fun c => c.isAlphanum || "_./-+:@%".toList.contains c then cs
  else doubleQuoted cs

/-- The items of a value, each in the form of an assignment. -/
def shownList : Value → Text
  | .text cs => doubleQuoted cs
  | .list items =>
    List.intercalate [' '] (items.map fun (n, cs) =>
      '[' :: ofString (toString n) ++ "]=".toList ++ doubleQuoted cs)
  | .table items =>
    (entriesInOrder items).flatMap fun (k, cs) =>
      '[' :: entryName k ++ "]=".toList ++ doubleQuoted cs ++ [' ']

/-- The items of a value, each after its name. -/
def shownItems : Value → Text
  | .text cs => doubleQuoted cs
  | .list items =>
    List.intercalate [' '] (items.map fun (n, cs) =>
      ofString (toString n) ++ ' ' :: doubleQuoted cs)
  | .table items =>
    (entriesInOrder items).flatMap fun (k, cs) => entryName k ++ ' ' :: doubleQuoted cs ++ [' ']

def decimal (n : Nat) : Text := ofString (toString n)

def isNumber (cs : Text) : Bool := !cs.isEmpty && cs.all Char.isDigit

end Script

end CellRunner.Shell
