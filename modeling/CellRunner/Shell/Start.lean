import CellRunner.Shell.Eval

/-!
# A shell as a program

Its script is an argument, a file, or what it reads.
-/

set_option autoImplicit false

namespace CellRunner.Shell

open Machine (Prog Task)

/-- What the arguments of a shell ask for. -/
structure Launch where
  /-- whether the script is an argument -/
  isArgument : Bool := false
  /-- whether the script is read from the input -/
  isInput : Bool := false
  /-- what is left after the options -/
  operands : List Text := []
  deriving DecidableEq, Repr

namespace Start

/-- How deep commands may stand in one another. -/
def depth : Nat := 100000

def run : Runner := Eval.eval depth

/-! ### Options -/

/-- A fault before the first line. -/
def refuse {α : Type} (message : Text) : Script α := do
  let s ← get
  match s.dialect with
  | .plain =>
    modify fun s => { s with line := 0 }
    Script.complain message
  | .extended => Script.tell (s.messageName ++ ": ".toList ++ message)
  Script.escape (.exit 2)

/-- Turns an option on or off by its name. -/
def turnNamed (on : Bool) (args : List Text) : Script (List Text) := do
  let d := (← get).dialect
  match args with
  | [] =>
    let _ ← Builtin.listOptions on
    return []
  | name :: rest =>
    if (Builtin.knownOptions d).contains (String.ofList name) then
      Builtin.turn on (String.ofList name)
      return rest
    else
      match d with
      | .plain => refuse ("Illegal option -o ".toList ++ name)
      | .extended => refuse (name ++ ": invalid option name".toList)

/-- Letters of options, and the arguments that are left after them. -/
def letters (on : Bool) : Text → List Text → Launch → Script (List Text × Launch)
  | [], args, r => return (args, r)
  | 'c' :: cs, args, r => do
    if (← Script.isExtended) || on then letters on cs args { r with isArgument := true }
    else letters on cs args r
  | 's' :: cs, args, r => do
    Builtin.turn on "stdin"
    letters on cs args { r with isInput := on }
  | 'o' :: cs, args, r => do letters on cs (← turnNamed on args) r
  | 'l' :: cs, args, r => letters on cs args r
  | 'i' :: cs, args, r => do
    Builtin.turn on "interactive"
    letters on cs args r
  | 'O' :: cs, args, r => do
    if ← Script.isExtended then
      if let name :: _ := args then Builtin.turnFeature on (String.ofList name)
      letters on cs args.tail r
    else refuse "Illegal option -O".toList
  | c :: cs, args, r => do
    if ← Builtin.turnLetter on c then letters on cs args r
    else if ← Script.isExtended then
      refuse ((if on then '-' else '+') :: c :: ": invalid option".toList)
    else refuse ("Illegal option -".toList ++ [c])

/-- Options that are words, and that change nothing here. -/
def longOptions : List String :=
  ["--norc", "--noprofile", "--posix", "--login", "--noediting", "--restricted", "--verbose"]

/-- Reads options; `fuel` bounds their number. -/
def options : Nat → List Text → Launch → Script Launch
  | 0, args, r => return { r with operands := args }
  | fuel + 1, args, r => do
    match args with
    | [] => return r
    | ['-'] :: rest => return { r with operands := rest }
    | ['-', '-'] :: rest => return { r with operands := rest }
    | ('-' :: '-' :: name) :: rest =>
      let word := String.ofList ('-' :: '-' :: name)
      if !(← Script.isExtended) then refuse "Illegal option --".toList
      else if longOptions.contains word then
        if word = "--verbose" then Builtin.turn true "verbose"
        options fuel rest r
      else refuse (word.toList ++ ": invalid option".toList)
    | (sign :: cs) :: rest =>
      if sign = '-' || sign = '+' then
        let (rest, r) ← letters (sign = '-') cs rest r
        options fuel rest r
      else return { r with operands := args }
    | _ => return { r with operands := args }

/-! ### Scripts -/

/-- The characters of a script, in which NUL characters do not count. -/
def scriptText (bytes : Machine.Bytes) : Text := (ofBytes bytes).filter (·.toNat != 0)

/-- Whether a command is a simple one without redirections. -/
def isBare : Command → Bool
  | .simple _ _ _ [] => true
  | _ => false

/-- Whether a command ends with a simple one that may take the place of the shell. -/
def endsBare : Command → Bool
  | .sequence cs => isBare (cs.getLastD default)
  | .conjunction _ c => isBare c
  | .disjunction _ c => isBare c
  | c => isBare c

/-- Carries out a script in an argument. The last program of the extended dialect may take the
place of the shell. -/
def fromArgument (cs : Text) : Script Unit := do
  let isExtended ← Script.isExtended
  let outer : Runner := fun last c => run (last && isExtended && endsBare c) c
  let _ ← Copy.source outer true "-c: ".toList 1 cs

/-- Where a script of the extended dialect is. -/
def placeOf (path : Text) : Script Text := do
  if path.contains '/' then return path
  match ← Script.ask (.stat (asName path) true) with
  | .ok _ => return path
  | .error _ => return (← Lookup.fileIn path (← Lookup.searchPath)).getD path

def fromFile (given : Text) : Script Unit := do
  let isExtended ← Script.isExtended
  let path ← if isExtended then placeOf given else pure given
  match ← Script.ask (.open (asName path) .read Redirection.firstSaved 0) with
  | .error e =>
    if isExtended then
      let s ← get
      Script.tell (s.messageName ++ ": ".toList ++ path ++ ": ".toList ++ ofString e.text)
      Script.escape (.exit (if e = .noEntry || e = .notDirectory then 127 else 126))
    else
      refuse ("cannot open ".toList ++ path ++ ": ".toList ++
        Redirection.reason "No such file" e)
  | .ok d =>
    let bytes ← Script.run (Prog.readAll d Prog.fuel [])
    Copy.close d
    match bytes with
    | .error e =>
      if isExtended then
        let s ← get
        Script.tell (s.messageName ++ ": ".toList ++ path ++ ": ".toList ++ ofString e.text)
        Script.escape (.exit 126)
      else Script.setStatus 0
    | .ok bytes =>
      if isExtended && Invoke.isBinary .extended bytes then
        let s ← get
        Script.tell (s.messageName ++ ": ".toList ++ path ++ ": cannot execute binary file".toList)
        Script.escape (.exit 126)
      modify fun s => { s with name := given, messageName := given, file := path }
      let _ ← Copy.follow run false true [] Prog.fuel
        (Copy.sourceOf (← get).dialect 1 (scriptText bytes))

/-- The bytes up to the end of the next line. -/
def inputLine : Nat → Machine.Bytes → Prog Machine.Bytes
  | 0, out => pure out.reverse
  | fuel + 1, out => do
    match ← Prog.ask (.read 0 1) with
    | .ok [b] => if b = 10 then pure (b :: out).reverse else inputLine fuel (b :: out)
    | _ => pure out.reverse

/-- More of the script; nothing at its end. The plain dialect takes what there is, the other
one a line. -/
def moreInput (d : Dialect) : Script Text := do
  match d with
  | .plain =>
    match ← Script.ask (.read 0 8192) with
    | .ok bytes => return ofBytes (bytes : Machine.Bytes)
    | .error _ => return []
  | .extended => return ofBytes (← Script.run (inputLine Prog.fuel []))

/-- Carries out what is read, line by line, as soon as a line is complete; `fuel` bounds the
number of lines and of reads. -/
def fromInput : Nat → Source → Script Unit
  | 0, _ => return ()
  | fuel + 1, source => do
    let source := Copy.upToDate (← get) source
    let more : Script Unit := do
      let cs ← moreInput source.dialect
      if cs.isEmpty then fromInput fuel { source with isWhole := true }
      else
        let cs := cs.filter (·.toNat != 0)
        let rest := source.rest ++ cs
        let known := source.lines.dropLast ++
          ((String.ofList (source.lines.getLastD [] ++ cs)).splitOn "\n").map String.toList
        fromInput fuel { source with rest, lines := known, endsLine := rest.getLast? = some '\n' }
    if source.rest.isEmpty && !source.isWhole then more
    else
      match Parse.line source with
      | .error .incomplete => more
      | .error (.fault f) =>
        Copy.showRead source.rest []
        Copy.report [] f
      | .ok (l, next) =>
        Copy.warn next
        Copy.showRead source.rest next.rest
        match l.command with
        | none => if source.isWhole then return () else fromInput fuel next
        | some c =>
          Copy.carryOut run true false c
          fromInput fuel next

def body (r : Launch) : Script Unit := do
  if r.isArgument then
    match r.operands with
    | [] =>
      refuse (if ← Script.isExtended then "-c: option requires an argument".toList
        else "-c requires an argument".toList)
    | cs :: rest =>
      modify fun s => { s with isArgument := true }
      match rest with
      | [] => pure ()
      | name :: arguments =>
        modify fun s => { s with name, messageName := name, arguments }
      fromArgument cs
      if r.isInput then fromInput Prog.fuel (Copy.sourceOf (← get).dialect 1 [])
  else
    match r.isInput, r.operands with
    | false, path :: arguments =>
      modify fun s => { s with arguments }
      fromFile path
    | _, arguments =>
      modify fun s => { s with arguments }
      Builtin.turn true "stdin"
      let d := (← get).dialect
      fromInput Prog.fuel { Copy.sourceOf d 1 [] with isWhole := false }

/-! ### The state at first -/

/-- Variables that a shell has before it looks at its environment, in order. -/
def usualVariables : Dialect → List (String × String)
  | .plain =>
    [("IFS", " \t\n"), ("PATH", "/usr/local/sbin:/usr/local/bin:/usr/sbin:/usr/bin:/sbin:/bin"),
      ("PS1", "$ "), ("PS2", "> "), ("PS4", "+ "), ("OPTIND", "1")]
  | .extended =>
    [("BASH", "/bin/bash"), ("BASH_VERSION", "5.2.21(1)-release"), ("EUID", "1000"),
      ("HOSTTYPE", "x86_64"), ("IFS", " \t\n"), ("MACHTYPE", "x86_64-pc-linux-gnu"),
      ("OPTERR", "1"), ("OPTIND", "1"), ("OSTYPE", "linux-gnu"),
      ("PATH", "/usr/local/sbin:/usr/local/bin:/usr/sbin:/usr/bin:/sbin:/bin"), ("PS4", "+ "),
      ("UID", "1000")]

/-- Adds the variables of the environment, marked as such. -/
def withEnvironment (vs : List Variable) (environment : List (String × Machine.Bytes)) :
    List Variable :=
  environment.foldl
    (fun vs (name, value) =>
      let name := ofString name
      if !Parser.isName name || name = "IFS".toList || name = "OPTIND".toList then vs
      else
        let v : Variable := { name, value := some (.text (ofBytes value)), exported := true }
        if vs.any (·.name == name) then vs.map fun w => if w.name == name then v else w
        else v :: vs)
    vs

/-- The name of a function that an entry of the environment defines. -/
def functionIn? (entry : String × Machine.Bytes) : Option Text :=
  let name := ofString entry.1
  let (front, back) := Script.functionMark
  if front.isPrefixOf name && back.isSuffixOf name &&
      "() \x7b".toList.isPrefixOf (ofBytes entry.2) then
    some ((name.drop front.length).take (name.length - front.length - back.length))
  else none

def initial (d : Dialect) (args : List Machine.Bytes)
    (environment : List (String × Machine.Bytes)) : State :=
  let usual := (usualVariables d).map fun (name, value) =>
    { name := name.toList, value := some (.text value.toList) : Variable }
  let name := ofBytes (args.headD [])
  { dialect := d, variables_ := withEnvironment usual.reverse environment, name
    messageName := name
    options := match d with
      | .plain => []
      | .extended => ["braceexpand", "hashall", "interactive-comments"]
    features := match d with
      | .plain => []
      | .extended => Builtin.usualFeatures
    passed := match d with
      | .plain => []
      | .extended => environment.filter fun entry =>
        !Parser.isName (ofString entry.1) && (functionIn? entry).isNone }

/-- Takes the functions in the environment over. -/
def takeFunctions (environment : List (String × Machine.Bytes)) : Script Unit := do
  for entry in environment do
    if let some name := functionIn? entry then
      let text := name ++ ' ' :: ofBytes entry.2
      match Parse.line (Copy.sourceOf .extended 1 text) with
      | .ok ({ command := some (.define line name body), .. }, _) =>
        let f : Function :=
          { name, body, line, file := "environment".toList, exported := true }
        modify fun s => { s with functions := f :: s.functions }
      | _ =>
        let s ← get
        Script.tell (s.messageName ++ ": error importing function definition for ".toList ++
          Parser.inMarks name)

/-- Finds out where the shell is. -/
def findPlace : Script Unit := do
  let given := (← Script.lookup "PWD".toList).getD []
  let here := (← Script.ask (.stat "." true) : Machine.Outcome Machine.FileInfo).toOption
  let there := (← Script.ask (.stat (asName given) true) : Machine.Outcome Machine.FileInfo).toOption
  let isRight := given.head? = some '/' && here.isSome &&
    here.map (·.number) = there.map (·.number)
  let cwd ← if isRight then pure given else Builtin.physical
  modify fun s => { s with cwd }
  Builtin.setExported "PWD".toList cwd

/-- What a shell notes about itself before it looks at its arguments. -/
def prepare (environment : List (String × Machine.Bytes)) : Script Unit := do
  let number : Nat ← Script.ask .self
  let parent : Nat ← Script.ask .parent
  let ignored : List Nat ← Script.ask .ignored
  let began : Nat ← Script.ask .clock
  modify fun s => { s with number, ignored, began, seed := number }
  Script.store "PPID".toList (Script.decimal parent)
  findPlace
  if ← Script.isExtended then
    takeFunctions environment
    Invoke.deepen 1
    for name in ["PPID", "UID", "EUID"] do
      Script.change name.toList fun v => { v with readOnly := true, integer := true }
    if (← Script.find? "OLDPWD".toList).isNone then
      Script.put { name := "OLDPWD".toList, exported := true }
    Script.store ['_'] (← get).name
    Script.change ['_'] fun v => { v with exported := false }

end Start

/-- The shell as a task. -/
def start (d : Dialect) (args : List Machine.Bytes)
    (environment : List (String × Machine.Bytes)) : Task :=
  Copy.task Start.run (Start.initial d args environment) do
    Start.prepare environment
    let r ← Start.options (args.length + 1) (args.tail.map ofBytes) {}
    Start.body r

end CellRunner.Shell
