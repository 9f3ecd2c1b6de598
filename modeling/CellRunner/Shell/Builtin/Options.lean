import CellRunner.Shell.Builtin.Basic

/-!
# Options and arguments of the shell
-/

set_option autoImplicit false

namespace CellRunner.Shell.Builtin

/-! ### Options -/

/-- The options of the plain dialect in the order in which they are listed. -/
def plainOptions : List String :=
  ["errexit", "noglob", "ignoreeof", "interactive", "monitor", "noexec", "stdin", "xtrace",
    "verbose", "vi", "emacs", "noclobber", "allexport", "notify", "nounset", "privileged",
    "nolog", "debug"]

def extendedOptions : List String :=
  ["allexport", "braceexpand", "emacs", "errexit", "errtrace", "functrace", "hashall",
    "histexpand", "history", "ignoreeof", "interactive-comments", "keyword", "monitor",
    "noclobber", "noexec", "noglob", "nolog", "notify", "nounset", "onecmd", "physical",
    "pipefail", "posix", "privileged", "verbose", "vi", "xtrace"]

def knownOptions : Dialect → List String
  | .plain => plainOptions
  | .extended => extendedOptions

/-- The option that a letter stands for. -/
def letterOption? (d : Dialect) (c : Char) : Option String :=
  let more : List (Char × String) :=
    match d with
    | .plain => [('p', "privileged")]
    | .extended =>
      [('E', "errtrace"), ('T', "functrace"), ('H', "histexpand"), ('k', "keyword"),
        ('P', "physical"), ('p', "privileged"), ('t', "onecmd")]
  let usual : List Char :=
    match d with
    | .plain => "aefimnsuvxVECbI".toList
    | .extended => "abefhmnuvxBC".toList
  if usual.contains c then (Expand.optionLetters.filter fun x => x.2 != "emacs" || d == .plain).lookup c
  else more.lookup c

def turn (on : Bool) (option : String) : Script Unit := do
  if on && option = "monitor" && (← get).dialect == .plain then
    Script.complain "can't access tty; job control turned off".toList
  else
    modify fun s =>
      let others := s.options.filter (· != option)
      { s with options := if on then option :: others else others }

/-- Turns an option on or off by its letter; whether there is one. -/
def turnLetter (on : Bool) (c : Char) : Script Bool := do
  match letterOption? (← get).dialect c with
  | some option =>
    turn on option
    return true
  | none => return false

def setUsage : String := "set: usage: set [-abefhkmnptuvxBCEHPT] [-o option-name] [--] [-] [arg ...]"

def padded (width : Nat) (s : String) : Text :=
  s.toList ++ List.replicate (width - s.length) ' '

/-- Lists the options, or how to set them as they are. -/
def listOptions (on : Bool) : Script Nat := do
  let s ← get
  let isOn (o : String) : Bool := s.options.contains o
  let width := if s.dialect == .plain then 16 else 15
  let gap := if s.dialect == .plain then [] else ['\t']
  let lines := (knownOptions s.dialect).flatMap fun o =>
    if on then padded width o ++ gap ++ (if isOn o then "on\n".toList else "off\n".toList)
    else (if isOn o then "set -o ".toList else "set +o ".toList) ++ o.toList ++ ['\n']
  put (if on && s.dialect == .plain then "Current option settings\n".toList ++ lines else lines)

/-- Turns an option on or off by its name; the status. -/
def turnNamed (on : Bool) (name : Text) : Script Nat := do
  let d := (← get).dialect
  let option := String.ofList name
  if (knownOptions d).contains option then
    turn on option
    return 0
  else if d == .plain then Script.abort ("Illegal option -o ".toList ++ name)
  else
    Script.refuse (name ++ ": invalid option name".toList)
    return 2

/-- Letters of options; the arguments after them, and the status. -/
def readLetters (on : Bool) : Text → List Text → Script (List Text × Nat)
  | [], args => return (args, 0)
  | 'o' :: cs, args => do
    let status ← match args with
      | [] => listOptions on
      | name :: _ => turnNamed on name
    if status != 0 then return (args.tail, status) else readLetters on cs args.tail
  | c :: cs, args => do
    if ← turnLetter on c then readLetters on cs args
    else if ← Script.isExtended then
      Script.refuse ((if on then '-' else '+') :: c :: ": invalid option".toList)
      return (args, ← Script.usage setUsage)
    else Script.abort ("Illegal option -".toList ++ [c])

def setArguments (args : List Text) : Script Unit :=
  modify fun s => { s with arguments := args, optionPlace := 0 }

/-- Reads options and arguments; `fuel` bounds their number. -/
def setFrom : Nat → List Text → Script Nat
  | 0, _ => return 0
  | fuel + 1, args => do
    match args with
    | [] => return 0
    | ['-'] :: rest =>
      turn false "xtrace"
      turn false "verbose"
      if !rest.isEmpty then setArguments rest
      return 0
    | ['-', '-'] :: rest =>
      setArguments rest
      return 0
    | (sign :: cs) :: rest =>
      if sign = '-' || (sign = '+' && !cs.isEmpty) then
        let (rest, status) ← readLetters (sign = '-') cs rest
        if status != 0 then return status else setFrom fuel rest
      else
        setArguments args
        return 0
    | [] :: _ =>
      setArguments args
      return 0

/-- A value as the extended dialect lists it. -/
def shown (cs : Text) : Text :=
  if cs.isEmpty then []
  else if cs.any fun c => c < ' ' || c.toNat ≥ 127 then Format.escapeQuoted cs
  else if cs.all fun c => c.isAlphanum || "_./:-+,@%=^".toList.contains c then cs
  else Expand.reusable cs

/-- Lists the variables with their values. -/
def listVariables : Script Nat := do
  let s ← get
  let vs := s.variables_.mergeSort fun a b => String.ofList a.name ≤ String.ofList b.name
  put <| vs.flatMap fun v =>
    match v.value.bind Script.Value.text? with
    | none => []
    | some cs =>
      v.name ++ '=' :: (if s.dialect == .plain then quoted cs else shown cs) ++ ['\n']

def set_ (args : List Text) : Script Nat := do
  if args.isEmpty then listVariables else setFrom (args.length + 1) args

/-! ### Further options -/

/-- Further options of the extended dialect, and whether they are on at first. -/
def features : List (String × Bool) :=
  [("autocd", false), ("assoc_expand_once", false), ("cdable_vars", false), ("cdspell", false),
    ("checkhash", false), ("checkjobs", false), ("checkwinsize", true), ("cmdhist", true),
    ("compat31", false), ("compat32", false), ("compat40", false), ("compat41", false),
    ("compat42", false), ("compat43", false), ("compat44", false), ("complete_fullquote", true),
    ("direxpand", false), ("dirspell", false), ("dotglob", false), ("execfail", false),
    ("expand_aliases", false), ("extdebug", false), ("extglob", false), ("extquote", true),
    ("failglob", false), ("force_fignore", true), ("globasciiranges", true),
    ("globskipdots", true), ("globstar", false), ("gnu_errfmt", false), ("histappend", false),
    ("histreedit", false), ("histverify", false), ("hostcomplete", true), ("huponexit", false),
    ("inherit_errexit", false), ("interactive_comments", true), ("lastpipe", false),
    ("lithist", false), ("localvar_inherit", false), ("localvar_unset", false),
    ("login_shell", false), ("mailwarn", false), ("no_empty_cmd_completion", false),
    ("nocaseglob", false), ("nocasematch", false), ("noexpand_translation", false),
    ("nullglob", false), ("patsub_replacement", true), ("progcomp", true),
    ("progcomp_alias", false), ("promptvars", true), ("restricted_shell", false),
    ("shift_verbose", false), ("sourcepath", true), ("varredir_close", false),
    ("xpg_echo", false)]

def usualFeatures : List String := (features.filter (·.2)).map (·.1)

def turnFeature (on : Bool) (name : String) : Script Unit :=
  modify fun s =>
    let others := s.features.filter (· != name)
    { s with features := if on then name :: others else others }

def showFeature (asCommand : Bool) (name : String) : Script Unit := do
  let on ← Script.hasFeature name
  let _ ← put <| if asCommand then
      "shopt -".toList ++ (if on then 's' else 'u') :: ' ' :: name.toList ++ ['\n']
    else padded 15 name ++ '\t' :: (if on then "on\n".toList else "off\n".toList)

def shopt (args : List Text) : Script Nat := do
  withOptions "suqpo" "" "shopt: usage: shopt [-pqsu] [-o] [optname ...]" args
    fun options names => do
      let quiet := has 'q' options
      if has 'o' options then
        if has 's' options || has 'u' options then
          let mut status := 0
          for n in names do status := max status (← turnNamed (has 's' options) n)
          return status
        else
          let s ← get
          return if names.all fun n => s.options.contains (String.ofList n) then 0 else 1
      let mut status := 0
      if names.isEmpty then
        for (name, _) in features do
          let on ← Script.hasFeature name
          if (!has 's' options || on) && (!has 'u' options || !on) && !quiet then
            showFeature (has 'p' options) name
      for n in names do
        let name := String.ofList n
        if (features.lookup name).isNone then
          Script.refuse (n ++ ": invalid shell option name".toList)
          status := 1
        else if has 's' options then turnFeature true name
        else if has 'u' options then turnFeature false name
        else
          if !quiet then showFeature (has 'p' options) name
          if !(← Script.hasFeature name) then status := 1
      return status

/-! ### Arguments -/

/-- The number in the first argument of a command of the extended dialect. -/
def extendedNumber (args : List Text) (usual : Int) : Script (Option Int) := do
  match args with
  | [] => return some usual
  | a :: _ =>
    match Condition.integer? a with
    | some n => return some n
    | none =>
      Script.refuse (a ++ ": numeric argument required".toList)
      return none

def shift (args : List Text) : Script Nat := do
  let count := (← get).arguments.length
  if ← Script.isExtended then
    match ← extendedNumber args 1 with
    | none => return 1
    | some n =>
      if n < 0 then
        Script.refuse ((args.headD []) ++ ": shift count out of range".toList)
        return 1
      if n > count then
        if ← Script.hasFeature "shift_verbose" then
          Script.refuse ((args.headD []) ++ ": shift count out of range".toList)
        return 1
      modify fun s => { s with arguments := s.arguments.drop n.toNat }
      return 0
  else
    let n ← match args with
      | a :: _ => numberOf a
      | [] => pure 1
    if n > count then Script.abort "can't shift that many".toList
    modify fun s => { s with arguments := s.arguments.drop n, optionPlace := 0 }
    return 0

/-- What `getopts` finds. -/
structure Found where
  /-- the letter that the variable gets -/
  letter : Char
  /-- what `OPTARG` gets -/
  value : Option Text
  message : Option Text := none
  /-- the number of the next argument, and the place in the one before it -/
  next : Nat
  place : Nat
  isOver : Bool := false

/-- Looks for the next option; `place` is not zero inside an argument with several letters. -/
def nextOption (d : Dialect) (known : Text) (args : List Text) (index place : Nat) : Found :=
  let quiet := known.head? = some ':'
  let inside := if index ≤ 1 || place = 0 then [] else (args.getD (index - 2) []).drop place
  let (index, cs, place) :=
    if inside.isEmpty then (index + 1, (args.getD (index - 1) []).drop 1, 1)
    else (index, inside, place)
  let word := args.getD (index - 2) []
  let atEnd (next : Nat) : Found :=
    { letter := '?', value := none, next, place := 0, isOver := true }
  if inside.isEmpty && (word.head? != some '-' || word.length < 2) then atEnd (index - 1)
  else if inside.isEmpty && word = ['-', '-'] then atEnd index
  else
    let c := cs.headD '?'
    let rest := cs.drop 1
    let following := if rest.isEmpty then 0 else place + 1
    let after := if c = ':' then [] else (known.dropWhile (· != c))
    match after with
    | [] =>
      let message := match d with
        | .plain => "Illegal option -".toList ++ [c]
        | .extended => "illegal option -- ".toList ++ [c]
      { letter := '?', value := if quiet then some [c] else none
        message := if quiet then none else some message, next := index, place := following }
    | _ :: ':' :: _ =>
      if !rest.isEmpty then { letter := c, value := some rest, next := index, place := 0 }
      else
        match args[index - 1]? with
        | some value => { letter := c, value := some value, next := index + 1, place := 0 }
        | none =>
          let message := match d with
            | .plain => "No arg for -".toList ++ c :: " option".toList
            | .extended => "option requires an argument -- ".toList ++ [c]
          if quiet then
            { letter := ':', value := some [c], next := index, place := following }
          else
            { letter := '?', value := none, message := some message, next := index
              place := following }
    | _ =>
      { letter := c, value := if d == .plain then some [] else none, next := index
        place := following }

def getopts (args : List Text) : Script Nat := do
  let s ← get
  let args := match s.dialect, args with
    | .extended, ['-', '-'] :: rest => rest
    | _, args => args
  match args with
  | known :: name :: rest =>
    let operands := if rest.isEmpty then s.arguments else rest
    let index := ((← Script.lookup "OPTIND".toList).map Format.decimal).getD 1
    let index := if index = 0 then 1 else index
    let place := s.optionPlace
    let (index, place) := if index > operands.length + 1 then
        (if s.dialect == .plain then (1, 0) else (index, 0))
      else (index, place)
    let found := nextOption s.dialect known operands index place
    let speaks := (← Script.lookup "OPTERR".toList) != some ['0'] || s.dialect == .plain
    if let some m := found.message then
      if s.dialect == .plain then Script.tell m
      else if speaks then Script.tell (s.messageName ++ ": ".toList ++ m)
    match found.value with
    | some cs => Script.assign "OPTARG".toList cs
    | none => if !found.isOver || s.dialect == .extended then Script.remove "OPTARG".toList
    Script.assign "OPTIND".toList (Script.decimal found.next)
    modify fun s => { s with optionPlace := found.place }
    if s.dialect == .extended && !Parser.isName name then
      Script.refuse (Parser.inMarks name ++ ": not a valid identifier".toList)
      return 1
    Script.assign name [found.letter]
    return if found.isOver then 1 else 0
  | _ =>
    match s.dialect with
    | .plain => Script.abort "Usage: getopts optstring var [arg...]".toList
    | .extended => Script.usage "getopts: usage: getopts optstring name [arg ...]"

/-- Evaluates each argument; the status tells whether the last one is not zero. -/
def let_ (args : List Text) : Script Nat := do
  match args with
  | [] =>
    Script.refuse "expression expected".toList
    return 1
  | _ =>
    let mut last : Int := 0
    for a in args do last := ← RichArithmetic.evaluate a
    return if last = 0 then 1 else 0

end CellRunner.Shell.Builtin
