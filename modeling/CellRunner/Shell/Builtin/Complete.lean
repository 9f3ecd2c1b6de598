import CellRunner.Shell.Builtin.Options
import CellRunner.Shell.Help

/-!
# How words after a command are completed
-/

set_option autoImplicit false

namespace CellRunner.Shell.Builtin

/-- Kinds of names, with the letters of options that ask for them. -/
def completionKinds : List (String × Option Char) :=
  [("alias", some 'a'), ("builtin", some 'b'), ("command", some 'c'), ("directory", some 'd'),
    ("export", some 'e'), ("file", some 'f'), ("group", some 'g'), ("job", some 'j'),
    ("keyword", some 'k'), ("service", some 's'), ("user", some 'u'), ("variable", some 'v'),
    ("arrayvar", none), ("binding", none), ("disabled", none), ("enabled", none),
    ("function", none), ("helptopic", none), ("hostname", none), ("running", none),
    ("setopt", none), ("shopt", none), ("signal", none), ("stopped", none)]

def completionOptions : List String :=
  ["bashdefault", "default", "dirnames", "filenames", "noquote", "nosort", "nospace", "plusdirs"]

/-- Names for commands that have no completion of their own, for an empty line and for the first
word, with the letters of options that mean them. -/
def generalCompletions : List (Char × Text) :=
  [('E', "_EmptycmD_".toList), ('D', "_DefaultCmD_".toList), ('I', "_InitialWorD_".toList)]

/-- What options ask for; the error is a status. -/
def completionFrom (c : Completion) : List (Char × Text) → Script (Except Nat Completion)
  | [] => return .ok c
  | (letter, value) :: rest => do
    match letter with
    | 'o' =>
      let option := String.ofList value
      if completionOptions.contains option then
        completionFrom { c with options := option :: c.options } rest
      else
        Script.refuse (value ++ ": invalid option name".toList)
        return .error 2
    | 'A' =>
      let kind := String.ofList value
      if (completionKinds.lookup kind).isSome then
        completionFrom { c with kinds := kind :: c.kinds } rest
      else
        Script.refuse (value ++ ": invalid action name".toList)
        return .error 2
    | 'G' => completionFrom { c with files := some value } rest
    | 'W' => completionFrom { c with words := some value } rest
    | 'P' => completionFrom { c with front := some value } rest
    | 'S' => completionFrom { c with back := some value } rest
    | 'X' => completionFrom { c with filter := some value } rest
    | 'C' => completionFrom { c with command := some value } rest
    | 'F' => completionFrom { c with function := some value } rest
    | letter =>
      match completionKinds.find? (·.2 == some letter) with
      | some (kind, _) => completionFrom { c with kinds := kind :: c.kinds } rest
      | none => completionFrom c rest

/-- Options that take a value, as the letters of all others. -/
def completionValued : String := "oAGWPSXFC"

def completionLetters : String := "abcdefgjksuv"

/-- The command that makes a completion what it is. -/
def completionLine (name : Text) (c : Completion) : Text :=
  let quotedAfter (letter : Char) (value : Option Text) : List Text :=
    match value with
    | some cs => ['-' :: letter :: ' ' :: Format.singleQuoted cs]
    | none => []
  let shownName : Text :=
    match generalCompletions.find? (·.2 == name) with
    | some (letter, _) => ['-', letter]
    | none => if name.isEmpty || Format.isSpecial name then Format.singleQuoted name else name
  let parts : List Text :=
    (completionOptions.filter c.options.contains).map ("-o ".toList ++ ·.toList) ++
    (completionKinds.filter (c.kinds.contains ·.1)).map (fun (kind, letter) =>
      match letter with
      | some l => ['-', l]
      | none => "-A ".toList ++ kind.toList) ++
    quotedAfter 'G' c.files ++ quotedAfter 'W' c.words ++ quotedAfter 'P' c.front ++
    quotedAfter 'S' c.back ++ quotedAfter 'X' c.filter ++ quotedAfter 'C' c.command ++
    (c.function.toList.map ("-F ".toList ++ ·)) ++ [shownName]
  "complete ".toList ++ List.intercalate [' '] parts ++ ['\n']

/-- Completions in the order in which they are listed. -/
def completionsInOrder (items : List (Text × Completion)) : List (Text × Completion) :=
  items.mergeSort fun a b => Script.spread a.1 % 512 ≤ Script.spread b.1 % 512

def withoutCompletion (name : Text) : Script Unit := do
  modify fun s => { s with completions := s.completions.filter (·.1 != name) }

def noCompletion (name : Text) : Script Nat := do
  Script.refuse (name ++ ": no completion specification".toList)
  return 1

/-- Notes how words after commands are completed, or lists or forgets it. -/
def complete (args : List Text) : Script Nat := do
  withOptions (completionLetters ++ "prDEI") completionValued (Help.usage "complete") args
    fun options operands => do
      match ← completionFrom {} options with
      | .error status => return status
      | .ok c =>
        let names := match generalCompletions.find? fun g => has g.1 options with
          | some (_, name) => [name]
          | none => operands
        let mut status := 0
        let known := (← get).completions
        if has 'p' options || (options.isEmpty && names.isEmpty) then
          if names.isEmpty then
            return ← put ((completionsInOrder known).flatMap fun (n, c) => completionLine n c)
          for name in names do
            match known.lookup name with
            | some c =>
              let _ ← put (completionLine name c)
            | none => status ← noCompletion name
          return status
        if has 'r' options then
          if names.isEmpty then modify fun s => { s with completions := [] }
          for name in names do
            if (known.lookup name).isSome then withoutCompletion name
            else if !known.isEmpty then status ← noCompletion name
          return status
        if names.isEmpty then return ← Script.usage (Help.usage "complete")
        for name in names do
          withoutCompletion name
          modify fun s => { s with completions := (name, c) :: s.completions }
        return 0

/-- What is asked of the options of completions. -/
structure OptionChange where
  given : List String := []
  taken : List String := []
  general : Option Text := none

/-- Reads what is to be changed, and for which commands; the error is a status. -/
def optionChangeFrom (change : OptionChange) : List Text →
    Script (Except Nat (OptionChange × List Text))
  | [] => return .ok (change, [])
  | ['-', '-'] :: rest => return .ok (change, rest)
  | [sign, 'o'] :: value :: rest => do
    let option := String.ofList value
    if sign != '-' && sign != '+' then return .ok (change, [sign, 'o'] :: value :: rest)
    else if !completionOptions.contains option then
      Script.refuse (value ++ ": invalid option name".toList)
      return .error 2
    else if sign = '-' then optionChangeFrom { change with given := option :: change.given } rest
    else optionChangeFrom { change with taken := option :: change.taken } rest
  | ['-', c] :: rest => do
    match generalCompletions.lookup c with
    | some name => optionChangeFrom { change with general := some name } rest
    | none =>
      Script.refuse ('-' :: c :: (if c = 'o' then ": option requires an argument"
        else ": invalid option").toList)
      return .error (← Script.usage (Help.usage "compopt"))
  | a :: rest => return .ok (change, a :: rest)

/-- The options of a completion as they are set. -/
def optionsLine (name : Text) (c : Completion) : Text :=
  "compopt ".toList ++ completionOptions.flatMap (fun o =>
    (if c.options.contains o then "-o " else "+o ").toList ++ o.toList ++ [' ']) ++ name ++ ['\n']

/-- Changes or shows the options of completions. -/
def compopt (args : List Text) : Script Nat := do
  match ← optionChangeFrom {} args with
  | .error status => return status
  | .ok (change, operands) =>
    let names := match change.general with
      | some name => [name]
      | none => operands
    if names.isEmpty then
      Script.refuse "not currently executing completion function".toList
      return 1
    let mut status := 0
    for name in names do
      match (← get).completions.lookup name with
      | none => status ← noCompletion name
      | some c =>
        if change.given.isEmpty && change.taken.isEmpty then
          let _ ← put (optionsLine name c)
        else
          let kept := (change.given ++ c.options).filter (!change.taken.contains ·)
          modify fun s =>
            { s with
              completions := s.completions.map fun (n, d) =>
                if n == name then (n, { d with options := kept }) else (n, d) }
    return status

end CellRunner.Shell.Builtin
