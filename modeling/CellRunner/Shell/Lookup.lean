import CellRunner.Shell.Builtin.Complete
import CellRunner.Shell.Builtin.Control
import CellRunner.Shell.Builtin.Declare
import CellRunner.Shell.Builtin.Directory
import CellRunner.Shell.Builtin.History
import CellRunner.Shell.Builtin.Options
import CellRunner.Shell.Builtin.Read
import CellRunner.Shell.Builtin.Signals

/-!
# What the names of commands stand for

A name is a reserved word, an alias, a function, a command of the shell itself or a program in
one of the directories that are searched.
-/

set_option autoImplicit false

namespace CellRunner.Shell.Lookup

open Builtin (put has withOptions)

/-! ### Commands of the shell itself -/

/-- Commands whose faults end the shell and whose assignments last, in the plain dialect. -/
def specials : List String := Parse.specialNames

/-- Commands that carry out others. -/
def drivers : Dialect → List String
  | .plain => [".", "command", "eval", "exec"]
  | .extended => [".", "builtin", "command", "compgen", "eval", "exec", "fc", "source"]

/-- Commands that declare variables. -/
def declaring : List String := ["declare", "export", "local", "readonly", "typeset"]

/-- Commands of both dialects. -/
def shared? : String → Option Builtin
  | ":" => some fun _ => return 0
  | "true" => some fun _ => return 0
  | "false" => some fun _ => return 1
  | "[" => some Builtin.bracketTest
  | "alias" => some Builtin.alias_
  | "break" => some (Builtin.leaveLoop .leaveLoops)
  | "cd" => some Builtin.cd
  | "continue" => some (Builtin.leaveLoop .nextRound)
  | "echo" => some Builtin.echo
  | "exit" => some Builtin.exit
  | "getopts" => some Builtin.getopts
  | "kill" => some Builtin.kill
  | "printf" => some Builtin.printf
  | "pwd" => some Builtin.pwd
  | "read" => some Builtin.read
  | "return" => some Builtin.return_
  | "set" => some Builtin.set_
  | "shift" => some Builtin.shift
  | "test" => some Builtin.test
  | "times" => some Builtin.times
  | "trap" => some Builtin.trap
  | "ulimit" => some Builtin.ulimit
  | "umask" => some Builtin.umask
  | "unalias" => some Builtin.unalias
  | "wait" => some Builtin.wait
  | "jobs" => some Builtin.jobs
  | _ => none

def plain? : String → Option Builtin
  | "chdir" => some Builtin.cd
  | "export" => some (Builtin.markPlain false)
  | "readonly" => some (Builtin.markPlain true)
  | "local" => some Builtin.localPlain
  | "unset" => some Builtin.unsetPlain
  | "bg" => some Builtin.resume
  | "fg" => some Builtin.resume
  | _ => none

def extended? (name : String) : Option Builtin :=
  match name with
  | "bg" => some Builtin.background
  | "bind" => some Builtin.bind
  | "complete" => some Builtin.complete
  | "compopt" => some Builtin.compopt
  | "dirs" => some Builtin.dirs
  | "disown" => some Builtin.disown
  | "fg" => some Builtin.foreground
  | "help" => some Help.help
  | "history" => some Builtin.history
  | "let" => some Builtin.let_
  | "logout" => some fun _ => do
    Script.refuse ("not login shell: use ".toList ++ Parser.inMarks "exit".toList)
    return 1
  | "mapfile" => some Builtin.mapfile
  | "popd" => some Builtin.popd
  | "pushd" => some Builtin.pushd
  | "readarray" => some Builtin.mapfile
  | "shopt" => some Builtin.shopt
  | "suspend" => some fun _ => do
    Script.refuse "cannot suspend: no job control".toList
    return 1
  | "unset" => some Builtin.unsetExtended
  | _ =>
    if declaring.contains name then
      some fun args => Builtin.declare name (args.map Builtin.Operand.word)
    else none

/-- The commands of the shell that look at names only. -/
def names : Dialect → List String
  | .plain => ["hash", "type"]
  | .extended => ["caller", "enable", "hash", "type"]

/-- A command of the shell that needs nothing but the state. -/
def simple? (d : Dialect) (name : String) : Option Builtin :=
  match shared? name with
  | some b => some b
  | none =>
    match d with
    | .plain => plain? name
    | .extended => extended? name

def isBuiltin (d : Dialect) (name : Text) : Bool :=
  let name := asName name
  (simple? d name).isSome || (drivers d).contains name || (names d).contains name

/-- Whether the shell carries out a command of this name itself at present. -/
def isOwn (s : State) (name : Text) : Bool := isBuiltin s.dialect name && !s.disabled.contains name

/-- The commands that the extended dialect carries out itself, in order. -/
def builtinNames : List String :=
  [".", ":", "[", "alias", "bg", "bind", "break", "builtin", "caller", "cd", "command",
    "compgen", "complete", "compopt", "continue", "declare", "dirs", "disown", "echo", "enable",
    "eval", "exec", "exit", "export", "false", "fc", "fg", "getopts", "hash",
    "help", "history", "jobs", "kill", "let", "local", "logout", "mapfile", "popd", "printf", "pushd",
    "pwd", "read", "readarray", "readonly", "return", "set", "shift", "shopt", "source",
    "suspend", "test", "times", "trap", "true", "type", "typeset", "ulimit", "umask",
    "unalias", "unset", "wait"]

def isSpecial (d : Dialect) (name : Text) : Bool :=
  d == .plain && specials.contains (asName name)

/-! ### Programs -/

/-- The directories in which programs are looked for. -/
def directoriesIn (path : Text) : List Text :=
  ((String.ofList path).splitOn ":").map String.toList

def searchPath : Script (List Text) := do
  return match ← Script.lookup "PATH".toList with
    | some path => directoriesIn path
    | none => []

/-- The directories that are searched when only the usual ones are wanted. -/
def usualPath : Text := "/usr/local/sbin:/usr/local/bin:/usr/sbin:/usr/bin:/sbin:/bin".toList

def inDirectory (dir name : Text) : Text :=
  if dir.isEmpty then name else dir ++ '/' :: name

/-- The first program with a name in some directories, or why there is none. -/
def search (name : Text) : SystemError → List Text → Script (Except SystemError Text)
  | e, [] => return .error e
  | e, dir :: dirs => do
    let path := inDirectory dir name
    match ← Script.ask (.stat (asName path) true) with
    | .ok info =>
      if info.kind == .file && info.allows Machine.Files.searching then return .ok path
      else search name .accessDenied dirs
    | .error .noEntry => search name e dirs
    | .error .notDirectory => search name e dirs
    | .error e => search name e dirs

/-- The first file with a name in some directories. -/
def fileIn (name : Text) : List Text → Script (Option Text)
  | [] => return none
  | dir :: dirs => do
    let path := inDirectory dir name
    match ← Script.ask (.stat (asName path) true) with
    | .ok info => if info.kind == .file then return some path else fileIn name dirs
    | .error _ => fileIn name dirs

/-- Where a program is that was looked for before. -/
def remembered? (name : Text) : Script (Option Text) := do
  match (← get).found.find? (·.name == name) with
  | none => return none
  | some r =>
    modify fun s =>
      { s with found := s.found.map fun q => if q.name == name then { q with hits := q.hits + 1 }
                                             else q }
    return some r.path

/-- Where a program is when it is looked for. -/
def lookedFor (path : List Text) (name : Text) : Script (Except SystemError Text) := do
  match ← search name .noEntry path with
  | .ok path => return .ok path
  | .error e =>
    if ← Script.isExtended then
      match ← fileIn name path with
      | some path => return .ok path
      | none => return .error .noEntry
    else return .error e

/-- Remembers where a program is. -/
def remember (name path : Text) (hits : Nat) : Script Unit :=
  modify fun s =>
    { s with found := s.found.filter (·.name != name) ++ [{ name, path, hits }] }

def forget (name : Text) : Script Unit :=
  modify fun s => { s with found := s.found.filter (·.name != name) }

/-- Where a program is, or why it cannot be run; it is remembered unless only the usual
directories are searched. -/
def program (usual : Bool) (path : List Text) (name : Text) :
    Script (Except SystemError Text) := do
  if name.contains '/' then return .ok name
  else if usual then lookedFor path name
  else
    match ← remembered? name with
    | some path => return .ok path
    | none =>
      let r ← lookedFor path name
      if let .ok place := r then remember name place 1
      return r

/-! ### Telling what names stand for -/

/-- A file that a name with a slash leads to. -/
def fileAt (name : Text) : Script Bool := do
  match ← Script.ask (.stat (asName name) true) with
  | .ok info =>
    return if ← Script.isExtended then !info.isDirectory && info.allows Machine.Files.searching
      else true
  | .error _ => return false

/-- Tells what a name stands for in the plain dialect. -/
def describePlain (verbose : Bool) (path : List Text) (name : Text) : Script Nat := do
  let s ← get
  let say (sentence brief : Text) : Script Nat :=
    put ((if verbose then name ++ sentence else brief) ++ ['\n'])
  let unknown : Script Nat := do
    if verbose then
      let _ ← put (name ++ ": not found\n".toList)
    return 127
  if (Parse.reservedWords .plain).contains (String.ofList name) then
    say " is a shell keyword".toList name
  else if let some value := s.aliases.lookup name then
    say (" is an alias for ".toList ++ value)
      ("alias ".toList ++ name ++ '=' :: Builtin.quoted value)
  else if (s.function? name).isSome then say " is a shell function".toList name
  else if isBuiltin .plain name then
    say (if isSpecial .plain name then " is a special shell builtin".toList
      else " is a shell builtin".toList) name
  else if name.contains '/' then
    if ← fileAt name then say (" is ".toList ++ name) name else unknown
  else
    match s.found.find? (·.name == name) with
    | some r => say (" is a tracked alias for ".toList ++ r.path) r.path
    | none =>
      match ← search name .noEntry path with
      | .ok place => say (" is ".toList ++ place) place
      | .error _ => unknown

/-- How the extended dialect tells what a name stands for. -/
inductive Form where
  | sentence
  /-- a word for the kind of command -/
  | kind
  /-- the path of a program -/
  | path
  /-- so that it can be read again -/
  | reusable
  deriving DecidableEq, Repr

structure Query where
  form : Form := .sentence
  /-- whether all that the name stands for is told -/
  all : Bool := false
  omitsFunctions : Bool := false
  /-- whether only programs count -/
  programsOnly : Bool := false
  /-- whether only the usual directories are searched -/
  usual : Bool := false

/-- All programs with a name. -/
def programs (name : Text) : List Text → Script (List Text)
  | [] => return []
  | dir :: dirs => do
    let here ← match ← search name .noEntry [dir] with
      | .ok place => pure [place]
      | .error _ => pure []
    return here ++ (← programs name dirs)

/-- The path of a program as it is told. -/
def shownPlace (q : Query) (name place : Text) : Script Text := do
  if place = name || (q.form == .sentence && place.head? != some '/') then
    let cwd := (← get).cwd
    return if place.head? = some '/' then place else cwd ++ '/' :: place
  else return place

/-- What a name stands for as the query asks for it, the first one or all. -/
def answers (q : Query) (name : Text) : Script (List Text) := do
  let s ← get
  let form (kind : String) (sentence : Text) (path : Option Text) (again : Text) :
      List Text :=
    match q.form with
    | .kind => [kind.toList]
    | .sentence => [name ++ sentence]
    | .path => path.toList
    | .reusable => [again]
  let own := !q.programsOnly
  let alias_ := if own && s.features.contains "expand_aliases" then
      match s.aliases.lookup name with
      | some value =>
        [form "alias" (" is aliased to ".toList ++ Parser.inMarks value) none
          ("alias ".toList ++ name ++ '=' :: Expand.reusable value)]
      | none => []
    else []
  let keyword := if own && (Parse.reservedWords .extended).contains (String.ofList name) then
      [form "keyword" " is a shell keyword".toList none name]
    else []
  let function := if own && !q.omitsFunctions then
      (s.function? name).toList.map fun f =>
        form "function" (" is a function\n".toList ++ (Builtin.definitionOf f).dropLast) none name
    else []
  let builtin := if own && isOwn s name then
      [form "builtin" " is a shell builtin".toList none name]
    else []
  let first := alias_ ++ keyword ++ function ++ builtin
  if !q.all && !first.isEmpty then return first.headD []
  let before := if q.all then first.flatten else []
  let known := !first.isEmpty
  let program (place : Text) : List Text :=
    form "file" (" is ".toList ++ place) (some place) place
  let found (more : List Text) : List Text :=
    if before.isEmpty && more.isEmpty && known then [[]] else before ++ more
  if name.contains '/' && (← fileAt name) then return found (program name)
  let hashed ← if (!q.all || q.programsOnly) && !name.contains '/' then remembered? name
    else pure none
  match hashed with
  | some place =>
    return found (form "file" (" is hashed (".toList ++ place ++ [')']) (some place) place)
  | none =>
    let path ← if q.usual then pure (directoriesIn usualPath) else searchPath
    let places ← if name.contains '/' then pure []
      else if q.all then programs name path
      else do
        match ← lookedFor path name with
        | .ok place => pure [place]
        | .error _ => pure []
    let mut out : List Text := []
    for place in places do out := out ++ program (← shownPlace q name place)
    return found out

/-- Tells what a name stands for; whether that is known. -/
def describe (q : Query) (name : Text) : Script Bool := do
  let lines ← answers q name
  for line in lines do
    if !line.isEmpty then
      let _ ← put (line ++ ['\n'])
  return !lines.isEmpty

/-- Words that stand for options. -/
def optionWord (a : Text) : Text :=
  if a = "-type".toList || a = "--type".toList then "-t".toList
  else if a = "-path".toList || a = "--path".toList then "-p".toList
  else if a = "-all".toList || a = "--all".toList then "-a".toList
  else a

def typeExtended (args : List Text) : Script Nat := do
  let options := args.takeWhile (·.head? = some '-')
  let args := options.map optionWord ++ args.drop options.length
  withOptions "afptP" "" "type: usage: type [-afptP] name [name ...]" args fun options operands => do
    let last := (options.filter fun o => o.1 = 'p' || o.1 = 't' || o.1 = 'P').getLast?.map (·.1)
    let form : Form := match last with
      | some 't' => .kind
      | some _ => .path
      | none => .sentence
    let q : Query :=
      { form, all := has 'a' options, omitsFunctions := has 'f' options
        programsOnly := has 'P' options }
    let mut status := 0
    for name in operands do
      if !(← describe q name) then
        status := 1
        if form == .sentence then Script.refuse (name ++ ": not found".toList)
    return status

def type_ (args : List Text) : Script Nat := do
  if ← Script.isExtended then typeExtended args
  else
    let path ← searchPath
    let mut status := 0
    for name in args do
      status := status ||| (← describePlain true path name)
    return status

/-! ### Programs that were looked for -/

/-- Remembered programs in the order in which they are listed. -/
def inOrder (d : Dialect) (found : List Remembered) : List Remembered :=
  match d with
  | .plain => Script.byBucket .plain Remembered.name found
  | .extended => found.reverse.mergeSort fun a b =>
    Script.spread a.name % 256 ≤ Script.spread b.name % 256

def hashPlain (args : List Text) : Script Nat := do
  withOptions "rv" "" "" args fun options operands => do
    if has 'r' options then
      modify fun s => { s with found := [] }
      return 0
    if operands.isEmpty then
      put ((inOrder .plain (← get).found).flatMap fun r => r.path ++ ['\n'])
    else
      let mut status := 0
      for name in operands do
        if !isBuiltin .plain name && ((← get).function? name).isNone then
          match ← search name .noEntry (← searchPath) with
          | .ok place => remember name place 0
          | .error e =>
            Script.refuse (name ++ ": ".toList ++ Redirection.reason "not found" e)
            status := 1
      return status

/-- Tells where programs are that were looked for. -/
def hashTargets (portably : Bool) (names : List Text) : Script Nat := do
  let mut status := 0
  for name in names do
    match ← remembered? name with
    | some place =>
      let _ ← put <| (if portably then "builtin hash -p ".toList ++ place ++ ' ' :: name
        else (if names.length > 1 then name ++ ['\t'] else []) ++ place) ++ ['\n']
    | none =>
      Script.refuse (name ++ ": not found".toList)
      status := 1
  return status

/-- A number in four columns. -/
def paddedHits (n : Nat) : Text :=
  let digits := Script.decimal n
  List.replicate (4 - digits.length) ' ' ++ digits

def hashExtended (args : List Text) : Script Nat := do
  if !(← Script.isOn "hashall") then
    Script.refuse "hashing disabled".toList
    return 1
  withOptions "ldrt" "p" "hash: usage: hash [-lr] [-p pathname] [-dt] [name ...]" args
    fun options operands => do
      let portably := has 'l' options
      if operands.isEmpty && (has 'd' options || has 't' options) then
        Script.refuse ((if has 'd' options then "-d".toList else "-t".toList) ++
          ": option requires an argument".toList)
        return 1
      if operands.isEmpty && !has 'r' options then
        let found := inOrder .extended (← get).found
        if found.isEmpty then
          return ← if portably then pure 0 else put "hash: hash table empty\n".toList
        else if portably then
          return ← put (found.flatMap fun r =>
            "builtin hash -p ".toList ++ r.path ++ ' ' :: r.name ++ ['\n'])
        else
          return ← put ("hits\tcommand\n".toList ++ found.flatMap fun r =>
            paddedHits r.hits ++ '\t' :: r.path ++ ['\n'])
      if has 'r' options then modify fun s => { s with found := [] }
      if has 't' options then return ← hashTargets portably operands
      let mut status := 0
      for name in operands do
        match Builtin.valueOf 'p' options with
        | some path =>
          if ← FileNames.isDirectory path then
            Script.refuse (path ++ ": Is a directory".toList)
            status := 1
          else remember name path 0
        | none =>
          if name.contains '/' then pure ()
          else if has 'd' options then
            if (← get).found.any (·.name == name) then forget name
            else
              Script.refuse (name ++ ": not found".toList)
              status := 1
          else if !isOwn (← get) name && ((← get).function? name).isNone then
            forget name
            match ← search name .noEntry (← searchPath) with
            | .ok place => remember name place 0
            | .error _ =>
              Script.refuse (name ++ ": not found".toList)
              status := 1
      return status

/-- Forgets programs, looks for some, or lists those that were found. -/
def hash (args : List Text) : Script Nat := do
  if ← Script.isExtended then hashExtended args else hashPlain args

/-- Tells where the present function was called. -/
def caller (args : List Text) : Script Nat := do
  let s ← get
  let n := if args.isEmpty then 0 else Format.decimal (args.headD [])
  match s.calls[n]? with
  | none => return 1
  | some call =>
    if !args.isEmpty && s.isArgument && (s.calls[n + 1]?).isNone then return 1
    let file := match s.calls[n + 1]? with
      | some outer => outer.file
      | none => if s.isArgument then "environment".toList else s.file
    let function := match s.calls[n + 1]? with
      | some outer => outer.function
      | none => "main".toList
    let line := Script.decimal call.line
    put (if args.isEmpty then line ++ ' ' :: (if s.calls.length = 1 && s.isArgument then
        "NULL".toList else file) ++ ['\n']
      else line ++ ' ' :: function ++ ' ' :: file ++ ['\n'])

/-- Commands that the standard sets apart. -/
def apart : List String :=
  [".", ":", "break", "continue", "eval", "exec", "exit", "export", "readonly", "return", "set",
    "shift", "source", "times", "trap", "unset"]

/-- Lists which commands of the shell are used, uses them or leaves them out. -/
def enable (args : List Text) : Script Nat := do
  withOptions "adnps" "f" (Help.usage "enable") args fun options operands => do
    let s ← get
    let isOff (name : String) : Bool := s.disabled.contains name.toList
    if operands.isEmpty || has 'p' options then
      let names := builtinNames.filter fun n => !has 's' options || apart.contains n
      let names := if has 'a' options then names
        else names.filter fun n => isOff n = has 'n' options
      return ← put (names.flatMap fun n =>
        (if isOff n then "enable -n " else "enable ").toList ++ n.toList ++ ['\n'])
    let mut status := 0
    for name in operands do
      if has 'd' options then
        if isBuiltin .extended name then
          Script.refuse (name ++ ": not dynamically loaded".toList)
        else Script.refuse (name ++ ": not a shell builtin".toList)
        status := 1
      else if !isBuiltin .extended name ||
          (has 's' options && !apart.contains (String.ofList name)) then
        Script.refuse (name ++ ": not a shell builtin".toList)
        status := 1
      else
        modify fun t =>
          let others := t.disabled.filter (· != name)
          { t with disabled := if has 'n' options then name :: others else others }
    return status

/-- A command of the shell itself that carries out no other. -/
def find? (d : Dialect) (name : String) : Option Builtin :=
  match simple? d name with
  | some b => some b
  | none =>
    if !(names d).contains name then none
    else
      match name with
      | "type" => some type_
      | "hash" => some hash
      | "caller" => some caller
      | "enable" => some enable
      | _ => none

end CellRunner.Shell.Lookup
