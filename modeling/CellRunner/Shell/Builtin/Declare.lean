import CellRunner.Shell.Builtin.Functions

/-!
# Declarations

Commands that give variables their attributes, and those that take names away.
-/

set_option autoImplicit false

namespace CellRunner.Shell.Builtin

/-- An argument of a declaration: a text, or a name and its items. -/
inductive Operand where
  | word (cs : Text)
  | list (name : Text) (appends : Bool) (items : List (Option Text × Text))
  deriving DecidableEq, Repr

def Operand.text : Operand → Text
  | .word cs => cs
  | .list name _ _ => name

/-! ### The plain dialect -/

/-- The name and the value in an argument of the form `name=value`. -/
def nameAndValue (a : Text) : Text × Option Text :=
  let name := a.takeWhile (· != '=')
  (name, (a.drop name.length).tail?)

def badName {α : Type} (name : Text) : Script α :=
  Script.abort (name ++ ": bad variable name".toList)

/-- Lists variables in order, each behind a word. -/
def listPlain (word : Text) (shows : Variable → Bool) : Script Nat := do
  let vs := (← get).variables_.filter shows
  let vs := vs.mergeSort fun a b => String.ofList a.name ≤ String.ofList b.name
  let front := if word.isEmpty then [] else word ++ [' ']
  put <| vs.flatMap fun v =>
    front ++ v.name ++ (match v.value.bind Script.Value.text? with
      | some cs => '=' :: quoted cs
      | none => []) ++ ['\n']

def mark (isReadOnly : Bool) (v : Variable) : Variable :=
  if isReadOnly then { v with readOnly := true } else { v with exported := true }

/-- Marks variables, and sets those with a value. -/
def markPlain (isReadOnly : Bool) (args : List Text) : Script Nat := do
  let word := if isReadOnly then "readonly".toList else "export".toList
  withOptions "p" "" "" args fun options names => do
    if has 'p' options || names.isEmpty then
      listPlain word fun v => if isReadOnly then v.readOnly else v.exported
    else
      for a in names do
        let (name, value) := nameAndValue a
        if !Parser.isName name then badName name
        if let some cs := value then Script.assign name cs
        Script.change name (mark isReadOnly)
      return 0

/-- Makes variables local to the present function. -/
def localPlain (args : List Text) : Script Nat := do
  if (← get).scopes.isEmpty then Script.abort "not in a function".toList
  for a in args do
    let (name, value) := nameAndValue a
    if name = ['-'] then
      let saved := "-".toList
      Script.keepForScope saved
      let options := (← get).options
      Script.put { name := saved, value := some (.text (ofString (String.intercalate " " options))) }
    else
      if !Parser.isName name then badName name
      Script.keepForScope name
      if let some cs := value then Script.assign name cs
  return 0

def unsetPlain (args : List Text) : Script Nat := do
  withOptions "vf" "" "" args fun options names => do
    let isFunction := (options.getLast?.map (·.1)) = some 'f'
    for name in names do
      if isFunction then
        modify fun s => { s with functions := s.functions.filter (·.name != name) }
      else
        if !Parser.isName name then badName name
        match ← Script.find? name with
        | some { readOnly := true, .. } => Script.readOnlyFault name
        | _ => Script.remove name
    return 0

/-! ### The extended dialect -/

/-- A declaration that makes the variable what it is. -/
def declaration (v : Variable) : Text :=
  let letters := Script.attributes v
  "declare -".toList ++ (if letters.isEmpty then ['-'] else letters) ++ ' ' :: v.name ++
    (if v.pending then []
      else match v.value with
      | none => []
      | some (.text cs) => '=' :: Script.doubleQuoted cs
      | some value => '=' :: '(' :: Script.shownList value ++ [')']) ++
    ['\n']

/-- The attributes that options give and take, and the operands. -/
def readAttributes (known : List Char) (usage : String) :
    List Operand → Text → Text → Script (Except Nat (Text × Text × List Operand))
  | [], given, taken => return .ok (given, taken, [])
  | .word ['-', '-'] :: rest, given, taken => return .ok (given, taken, rest)
  | .word (sign :: c :: cs) :: rest, given, taken => do
    if sign != '-' && sign != '+' then
      return .ok (given, taken, .word (sign :: c :: cs) :: rest)
    match (c :: cs).find? (!known.contains ·) with
    | some bad =>
      Script.refuse (sign :: bad :: ": invalid option".toList)
      let _ ← Script.usage usage
      return .error 2
    | none =>
      if sign = '-' then readAttributes known usage rest (given ++ c :: cs) taken
      else readAttributes known usage rest given (taken ++ c :: cs)
  | operands, given, taken => return .ok (given, taken, operands)

def badIdentifier (a : Text) : Script Nat := do
  Script.refuse (Parser.inMarks a ++ ": not a valid identifier".toList)
  return 1

/-- How the letters of values are changed from then on. -/
def casingAfter (given taken : Text) (before : Option Recasing) : Option Recasing :=
  let asked := ['u', 'l', 'c'].filter given.contains
  match asked with
  | [] => if ['u', 'l', 'c'].any taken.contains then none else before
  | ['u'] => some .upper
  | ['l'] => some .lower
  | ['c'] => some .toggle
  | _ => none

/-- Gives a variable attributes, which hold for values from then on. -/
def withAttributes (given taken : Text) (v : Variable) : Variable :=
  let isGiven (c : Char) (before : Bool) : Bool :=
    if given.contains c then true else if taken.contains c then false else before
  let value := match v.value with
    | none => if given.contains 'A' then some (.table []) else if given.contains 'a' then
        some (.list []) else none
    | some (.text cs) => some (if given.contains 'A' then .table [(['0'], cs)]
        else if given.contains 'a' then .list [(0, cs)] else .text cs)
    | some value => some value
  { v with
    integer := isGiven 'i' v.integer, reference := isGiven 'n' v.reference
    traced := isGiven 't' v.traced, exported := isGiven 'x' v.exported
    casing := casingAfter given taken v.casing, value
    pending := v.pending || (v.value.isNone && value.isSome) }

/-- The name, the index and the value of an argument, and whether the value is added. -/
structure Target where
  name : Text
  index : Option Text
  appends : Bool
  value : Option Text

def targetOf (a : Text) : Target :=
  let front := a.takeWhile (· != '=')
  let value := (a.drop front.length).tail?
  let appends := value.isSome && front.getLast? = some '+'
  let front := if appends then front.dropLast else front
  let name := front.takeWhile (· != '[')
  let inner := (front.drop name.length).drop 1
  { name, index := if name.length = front.length then none else some inner.dropLast
    appends, value }

/-- Where and how variables are declared. -/
structure Manner where
  isLocal : Bool := false
  /-- whether a local variable begins as the one before it -/
  inherits : Bool := false
  /-- whether messages do not name the command -/
  plain : Bool := false
  given : Text
  taken : Text := []

/-- Makes a variable local to the present function; whether that can be. -/
def makeLocal (m : Manner) (name : Text) : Script Bool := do
  let s ← get
  if (s.scopes.headD []).any (·.1 == name) then return true
  let before ← Script.find? name
  if before.any (·.readOnly) then return false
  Script.keepForScope name
  let inherits := m.inherits || s.features.contains "localvar_inherit"
  match before with
  | none => Script.put { name }
  | some v =>
    let temporaries := (s.calls.head?.map (·.temporaries)).getD []
    if !inherits && !temporaries.contains name then Script.put { name, exported := v.exported }
  return true

/-- Why attributes cannot be changed in this way. -/
def attributeFault (m : Manner) (gives : Bool) (v : Variable) : Option String :=
  let isList := v.value.any fun x => match x with
    | .list _ => true
    | _ => false
  let isTable := v.value.any fun x => match x with
    | .table _ => true
    | _ => false
  if v.readOnly && (gives || m.taken.contains 'r') then some "readonly variable"
  else if (m.taken.contains 'a' && isList) || (m.taken.contains 'A' && isTable) then
    some "cannot destroy array variables in this way"
  else if m.given.contains 'a' && isTable then some "cannot convert associative to indexed array"
  else if m.given.contains 'A' && isList then some "cannot convert indexed to associative array"
  else none

/-- Why a variable cannot refer to another one. -/
def referenceFault (name : Text) (value : Option Text) (hasIndex : Bool) : Option Text :=
  if hasIndex then some (name ++ ": reference variable cannot be an array".toList)
  else
    match value with
    | none => none
    | some cs =>
      let base := cs.takeWhile (· != '[')
      if cs = name then some (name ++ ": nameref variable self references not allowed".toList)
      else if cs.isEmpty || Parser.isName base then none
      else some (Parser.inMarks cs ++ ": invalid variable name for name reference".toList)

/-- Declares one variable. -/
def declareOne (m : Manner) (o : Operand) : Script Nat := do
  let refuse (cs : Text) : Script Nat := do
    if m.plain then Script.complain cs else Script.refuse cs
    return 1
  let target := match o with
    | .word cs => targetOf cs
    | .list name appends _ => { name, index := none, appends, value := none : Target }
  if m.isLocal && o.text = ['-'] then
    let saved := "-".toList
    Script.keepForScope saved
    let options := (← get).options
    Script.put
      { name := saved, value := some (.text (ofString (String.intercalate " " options))) }
    return 0
  if !Parser.isName target.name then return ← badIdentifier o.text
  let isReference := m.given.contains 'n'
  if isReference then
    if let some why := referenceFault (o.text.takeWhile (· != '=')) target.value
        target.index.isSome then
      return ← refuse why
  let name := target.name
  if m.isLocal then
    if !(← makeLocal m name) then return ← refuse (name ++ ": readonly variable".toList)
  let name ← if isReference || m.taken.contains 'n' || m.isLocal then pure name
    else Script.target name Script.chain
  let gives : Bool := match o with
    | .list _ _ _ => true
    | .word _ => target.value.isSome
  let v := (← Script.find? name).getD { name }
  if let some why := attributeFault m gives v then
    return ← refuse (name ++ ": ".toList ++ why.toList)
  let isTable := m.given.contains 'A' || v.value.any fun x => match x with
    | .table _ => true
    | _ => false
  let given := if target.index.isSome && !isTable then 'a' :: m.given else m.given
  let known := withAttributes (given.filter (· != 'n')) m.taken v
  Script.put { known with exported := known.exported || (m.isLocal && v.exported) }
  let done ← match o with
    | .list _ appends items => Variables.giveList name appends items
    | .word _ =>
      match target.value with
      | some cs => Variables.give name target.index target.appends cs
      | none => pure true
  if isReference then Script.change name fun v => { v with reference := true }
  if given.contains 'r' then Script.change name (mark true)
  return if done then 0 else 1

def declareAll (m : Manner) (operands : List Operand) : Script Nat := do
  let mut status := 0
  for o in operands do
    status := max status (← declareOne m o)
  return status

/-- Shows variables as declarations. -/
def showAll (shows : Variable → Bool) : Script Nat := do
  let vs := (← get).variables_.filter shows
  put <| (vs.mergeSort fun a b => String.ofList a.name ≤ String.ofList b.name).flatMap declaration

def showNames (operands : List Operand) : Script Nat := do
  let mut status := 0
  for o in operands do
    match ← Script.find? o.text with
    | some v => let _ ← put (declaration v)
    | none =>
      Script.refuse (o.text ++ ": not found".toList)
      status := 1
  return status

/-- Shows the variables of the present function. -/
def showLocals : Script Nat := do
  let names := ((← get).scopes.headD []).map (·.1)
  showAll fun v => names.contains v.name

def declareUsage (name : String) : String :=
  let options := "[-aAfFgiIlnrtux] [name[=value] ...] or "
  match name with
  | "local" => "local: usage: local [option] name[=value] ..."
  | "export" => "export: usage: export [-fn] [name[=value] ...] or export -p"
  | "readonly" => "readonly: usage: readonly [-aAf] [name[=value] ...] or readonly -p"
  | _ =>
    name ++ ": usage: " ++ name ++ " " ++ options ++ name ++ " -p [-aAfFilnrtux] [name ...]"

/-- Marks variables or functions for the environment, or so that they stay as they are. -/
def markExtended (letter : Char) (given : Text) (operands : List Operand) : Script Nat := do
  let takes := letter = 'x' && given.contains 'n'
  let names := operands.map Operand.text
  if given.contains 'f' then
    if operands.isEmpty then listFunctions false [letter]
    else markFunctions true (if takes then [] else [letter]) (if takes then [letter] else []) names
  else if operands.isEmpty then
    let kinds := given.filter fun c => c = 'a' || c = 'A'
    showAll fun v => (letter :: kinds).all (Script.attributes v).contains
  else
    let kept := given.filter fun c => c = 'a' || c = 'A'
    declareAll
      { plain := true, given := if takes then [] else letter :: kept
        taken := if takes then [letter] else [] } operands

/-- Declarations of the extended dialect, which go by several names. -/
def declare (command : String) (operands : List Operand) : Script Nat := do
  let known := match command with
    | "export" => "fnp".toList
    | "readonly" => "aAfp".toList
    | _ => "aAcfFgGiIlnprtux".toList
  match ← readAttributes known (declareUsage command) operands [] [] with
  | .error status => return status
  | .ok (given, taken, operands) =>
    let inFunction := !(← get).scopes.isEmpty
    match command with
    | "export" => markExtended 'x' given operands
    | "readonly" => markExtended 'r' given operands
    | _ =>
      let isLocal := command = "local"
      let asked := given.contains 'p'
      let isFunction := given.contains 'f' || given.contains 'F'
      let letters := given.filter fun c => !(['p', 'f', 'F', 'g', 'G', 'I'].contains c)
      let names := operands.map Operand.text
      if isLocal && !inFunction then
        Script.refuse "can only be used in a function".toList
        return 1
      else if isFunction then
        if operands.isEmpty then listFunctions (given.contains 'F') letters
        else if asked then showFunctions (given.contains 'F') true names
        else if operands.any fun o => (targetOf o.text).value.isSome then
          Script.refuse ("cannot use ".toList ++ Parser.inMarks ['-', 'f'] ++
            " to make functions".toList)
          return 1
        else if letters.isEmpty && taken.isEmpty then
          showFunctions (given.contains 'F') false names
        else markFunctions false letters taken names
      else if operands.isEmpty then
        if isLocal then showLocals
        else showAll fun v => letters.all (Script.attributes v).contains
      else if asked then showNames operands
      else
        declareAll
          { isLocal := inFunction && !given.contains 'g' && !given.contains 'G'
            inherits := given.contains 'I', given := letters, taken } operands

/-- Takes a variable, or one of its items, away. -/
def unsetVariable (isExplicit : Bool) (a : Text) : Script Nat := do
  let target := targetOf a
  if !Parser.isName target.name then
    if !isExplicit then return 0
    Script.refuse (Parser.inMarks a ++ ": not a valid identifier".toList)
    return 1
  let name ← Script.target target.name Script.chain
  match ← Script.find? name with
  | none => return 0
  | some v =>
    if v.readOnly then
      Script.refuse (name ++ ": cannot unset: readonly variable".toList)
      return 1
    match target.index, v.value with
    | none, _ => Script.remove name
    | some ['@'], some (.list _) => Script.put { v with value := some (.list []) }
    | some index, some (.table items) =>
      Script.put { v with value := some (.table (items.filter (·.1 != index))) }
    | some index, some (.list items) =>
      if let .place n ← Variables.keyOf name index then
        let place := Script.placeIn items n
        Script.put { v with value := some (.list (items.filter fun i => some i.1 != place)) }
    | some ['0'], some (.text _) => Script.remove name
    | _, _ => pure ()
    return 0

def unsetExtended (args : List Text) : Script Nat := do
  withOptions "fvn" "" "unset: usage: unset [-f] [-v] [-n] [name ...]" args
    fun options names => do
      let mut status := 0
      for name in names do
        let isKnown := (← Script.find? (targetOf name).name).isSome
        let isFunction := ((← get).function? name).isSome
        if has 'f' options || (!has 'v' options && !isKnown && isFunction) then
          status := max status (← unsetFunction name)
        else if has 'n' options then Script.remove name
        else status := max status (← unsetVariable (has 'v' options) name)
      return status

/-! ### Aliases -/

def showAlias (name value : Text) : Script Nat := do
  if ← Script.isExtended then
    put ("alias ".toList ++ name ++ '=' :: Expand.reusable value ++ ['\n'])
  else put (name ++ '=' :: quoted value ++ ['\n'])

def aliasMissing (command name : Text) : Script Nat := do
  if ← Script.isExtended then Script.refuse (name ++ ": not found".toList)
  else Script.tell (command ++ ": ".toList ++ name ++ " not found".toList)
  return 1

def alias_ (args : List Text) : Script Nat := do
  let d := (← get).dialect
  let args := match d, args with
    | .extended, ['-', 'p'] :: rest => rest
    | _, ['-', '-'] :: rest => rest
    | _, args => args
  if args.isEmpty then
    let all := (← get).aliases
    let all := match d with
      | .plain => Script.byBucket d Prod.fst all.reverse
      | .extended => all.mergeSort fun a b => String.ofList a.1 ≤ String.ofList b.1
    for (name, value) in all do
      let _ ← showAlias name value
    return 0
  let mut status := 0
  for a in args do
    let (name, value) := nameAndValue a
    match value with
    | some value =>
      modify fun s =>
        { s with aliases := (name, value) :: s.aliases.filter (·.1 != name) }
    | none =>
      match (← get).aliases.lookup name with
      | some value => status := max status (← showAlias name value)
      | none => status ← aliasMissing "alias".toList name
  return status

def unalias (args : List Text) : Script Nat := do
  withOptions "a" "" "unalias: usage: unalias [-a] name [name ...]" args fun options names => do
    if has 'a' options then
      modify fun s => { s with aliases := [] }
      return 0
    let mut status := 0
    for name in names do
      if ((← get).aliases.lookup name).isSome then
        modify fun s => { s with aliases := s.aliases.filter (·.1 != name) }
      else status ← aliasMissing "unalias".toList name
    return status

end CellRunner.Shell.Builtin
