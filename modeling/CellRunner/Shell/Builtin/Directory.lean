import CellRunner.Shell.Builtin.Basic

/-!
# The present directory

The shell remembers the path by which it came to its directory; `..` goes back on that path
unless the path on the disk is asked for.
-/

set_option autoImplicit false

namespace CellRunner.Shell.Builtin

/-- A path without its dots, as it looks from a directory. -/
def normalized (cwd path : Text) : Text :=
  let base := if cwd.getLast? = some '/' then cwd else cwd ++ ['/']
  let full := if path.head? = some '/' then path else base ++ path
  let slashes := (full.takeWhile (· = '/')).length
  let step (out : List String) (name : String) : List String :=
    if name = "" || name = "." then out else if name = ".." then out.tail else name :: out
  let names := ((String.ofList full).splitOn "/").foldl step []
  let front := if slashes = 2 then ['/'] else []
  front ++ (if names.isEmpty then ['/'] else names.reverse.flatMap fun n => '/' :: n.toList)

/-- The path of the present directory on the disk. -/
def physical : Script Text := do
  match ← Script.ask (.fullPath ".") with
  | .ok path => return ofString path
  | .error _ => return (← get).cwd

/-- Sets an exported variable. -/
def setExported (name cs : Text) : Script Unit := do
  if ← Script.assign? name cs then Script.change name fun v => { v with exported := true }

/-- Enters a directory; the error tells why that cannot be done. -/
def enter (onDisk : Bool) (target : Text) : Script (Except SystemError Unit) := do
  let s ← get
  let logical := normalized s.cwd target
  let isExtended := s.dialect == .extended
  let isThere : Except SystemError Unit ←
    if isExtended then do
      match ← Script.ask (.stat (asName target) true) with
      | .ok _ => pure (.ok ())
      | .error e => pure (.error e)
    else pure (.ok ())
  match isThere with
  | .error e => return .error e
  | .ok () =>
    match ← Script.ask (.enter (asName (if onDisk then target else logical))) with
    | .error e => return .error e
    | .ok () =>
      let path ← if onDisk then physical else pure logical
      modify fun s => { s with cwd := path, found := [] }
      let old := (← Script.lookup "PWD".toList).getD s.cwd
      setExported "OLDPWD".toList (if isExtended then old else s.cwd)
      setExported "PWD".toList path
      return .ok ()

/-- The directories in which a relative path is looked for. -/
def searchedIn (target : Text) : Script (List Text) := do
  let dots := target.takeWhile (· != '/')
  if target.head? = some '/' || dots = ['.'] || dots = "..".toList then return []
  else
    match ← Script.lookup "CDPATH".toList with
    | none => return []
    | some path => return ((String.ofList path).splitOn ":").map String.toList

def isDirectory (path : Text) : Script Bool := FileNames.isDirectory path

/-- Where a relative path leads from the directories that are searched; whether its path is
then shown. -/
def located (target : Text) : List Text → Script (Text × Bool)
  | [] => return (target, false)
  | dir :: dirs => do
    let path := if dir.isEmpty then target
      else if dir.getLast? = some '/' then dir ++ target else dir ++ '/' :: target
    if ← isDirectory path then return (path, !dir.isEmpty) else located target dirs

def cannotEnter (target : Text) (e : SystemError) : Script Nat := do
  if ← Script.isExtended then
    let shown := if target.any fun c => c < ' ' || c.toNat ≥ 127 then Format.escapeQuoted target
      else target
    Script.refuse (shown ++ ": ".toList ++ ofString e.text)
    return 1
  else Script.abort ("can't cd to ".toList ++ target)

def cd (args : List Text) : Script Nat := do
  let isExtended ← Script.isExtended
  withOptions (if isExtended then "LPe@" else "LP") "" "cd: usage: cd [-L|[-P [-e]] [-@]] [dir]" args
    fun options operands => do
      let onDisk := ((options.filter fun o => o.1 = 'L' || o.1 = 'P').getLast?.map (·.1)) = some 'P'
      if isExtended && operands.length > 1 then
        Script.refuse "too many arguments".toList
        return 1
      let missing (name : String) : Script (Option Text × Bool) := do
        if isExtended then
          Script.refuse (name.toList ++ " not set".toList)
          return (none, false)
        else return (some [], false)
      let (target, shows) ← match operands.headD [], operands with
        | _, [] => do
          match ← Script.lookup "HOME".toList with
          | some home => pure (some home, false)
          | none => missing "HOME"
        | ['-'], _ => do
          match ← Script.lookup "OLDPWD".toList with
          | some old => pure (some old, true)
          | none => do
            let (target, _) ← missing "OLDPWD"
            pure (target, true)
        | target, _ => pure (some target, false)
      match target with
      | none => return 1
      | some target =>
        let relative := if target.isEmpty then ['.'] else target
        let (path, found) ← located relative (← searchedIn relative)
        match ← enter onDisk path with
        | .error e => cannotEnter target e
        | .ok () =>
          if shows || found then put ((← get).cwd ++ ['\n']) else return 0

def pwd (args : List Text) : Script Nat := do
  withOptions "LP" "" "pwd: usage: pwd [-LP]" args fun options _ => do
    if options.getLast?.map (·.1) = some 'P' then put ((← physical) ++ ['\n'])
    else put ((← get).cwd ++ ['\n'])

/-! ### Directories to go back to -/

/-- The present directory and those to go back to. -/
def stack : Script (List Text) := do
  let s ← get
  return s.cwd :: s.places

/-- A path with a tilde in place of the home directory. -/
def abbreviated (cs : Text) : Script Text := do
  let home := (← Script.lookup "HOME".toList).getD "/root".toList
  if home.length > 1 && (cs = home || (home ++ ['/']).isPrefixOf cs) then
    return '~' :: cs.drop home.length
  else return cs

def showStack : Script Nat := do
  let paths ← (← stack).mapM abbreviated
  put (List.intercalate [' '] paths ++ ['\n'])

/-- The place in the stack that `+n` or `-n` asks for. -/
def stackPlace? (size : Nat) (a : Text) : Option Nat :=
  match a with
  | '+' :: ds => if Script.isNumber ds then some (Format.decimal ds) else none
  | '-' :: ds =>
    if Script.isNumber ds && Format.decimal ds < size then some (size - 1 - Format.decimal ds)
    else if Script.isNumber ds then some size
    else none
  | _ => none

def outOfRange (a : Text) : Script Nat := do
  Script.refuse (a ++ ": directory stack index out of range".toList)
  return 1

/-- Makes a list of paths the stack: the first one is entered. -/
def enterStack (quiet : Bool) : List Text → Script Nat
  | [] => return 0
  | top :: rest => do
    match ← enter false top with
    | .error e => cannotEnter top e
    | .ok () =>
      modify fun s => { s with places := rest }
      if quiet then return 0 else showStack

def pushd (args : List Text) : Script Nat := do
  let (stays, args) := match args with
    | ['-', 'n'] :: rest => (true, rest)
    | args => (false, args)
  let paths ← stack
  match args with
  | [] =>
    match paths with
    | a :: b :: rest => enterStack false (b :: a :: rest)
    | _ =>
      Script.refuse "no other directory".toList
      return 1
  | a :: _ =>
    match stackPlace? paths.length a with
    | some n =>
      if n ≥ paths.length then outOfRange a
      else enterStack false (paths.drop n ++ paths.take n)
    | none =>
      if stays then
        modify fun s => { s with places := a :: s.places }
        showStack
      else enterStack false (a :: paths)

def popd (args : List Text) : Script Nat := do
  let (stays, args) := match args with
    | ['-', 'n'] :: rest => (true, rest)
    | args => (false, args)
  let paths ← stack
  if paths.length < 2 then
    Script.refuse "directory stack empty".toList
    return 1
  match args with
  | [] =>
    if stays then
      modify fun s => { s with places := s.places.drop 1 }
      showStack
    else enterStack false (paths.drop 1)
  | a :: _ =>
    match stackPlace? paths.length a with
    | some n =>
      if n ≥ paths.length then outOfRange a
      else if n = 0 then enterStack false (paths.drop 1)
      else
        modify fun s => { s with places := s.places.eraseIdx (n - 1) }
        showStack
    | none =>
      Script.refuse (a ++ ": invalid argument".toList)
      return 1

def dirs (args : List Text) : Script Nat := do
  let paths ← stack
  let full := args.contains ['-', 'l']
  let shown ← if full then pure paths else paths.mapM abbreviated
  match args.find? fun a => (stackPlace? paths.length a).isSome with
  | some a =>
    match (stackPlace? paths.length a).bind (shown[·]?) with
    | some cs => put (cs ++ ['\n'])
    | none => outOfRange (a.drop 1)
  | none =>
    if args.contains ['-', 'c'] then
      modify fun s => { s with places := [] }
      return 0
    else if args.contains ['-', 'v'] then
      put <| shown.zipIdx.flatMap fun (cs, n) =>
        let number := Script.decimal n
        List.replicate (2 - number.length) ' ' ++ number ++ "  ".toList ++ cs ++ ['\n']
    else if args.contains ['-', 'p'] then put (shown.flatMap fun cs => cs ++ ['\n'])
    else put (List.intercalate [' '] shown ++ ['\n'])

end CellRunner.Shell.Builtin
