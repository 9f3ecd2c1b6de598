import CellRunner.Shell.Builtin.Basic

/-!
# Functions and their attributes
-/

set_option autoImplicit false

namespace CellRunner.Shell.Builtin

/-- The definition of a function over several lines. -/
def definitionOf (f : Function) : Text :=
  let isReserved := (Parse.reservedWords .extended).contains (String.ofList f.name)
  let front := if isReserved then "function ".toList else []
  Show.definition false (front ++ f.name ++ [' ']) f.body ++ ['\n']

/-- The letters of a function's attributes. -/
def functionLetters (f : Function) : Text :=
  'f' :: (if f.readOnly then ['r'] else []) ++ (if f.traced then ['t'] else []) ++
    (if f.exported then ['x'] else [])

def functionLine (f : Function) : Text :=
  "declare -".toList ++ functionLetters f ++ ' ' :: f.name ++ ['\n']

/-- A function as a list shows it; one with attributes has a line of its own for them. -/
def listedFunction (namesOnly : Bool) (f : Function) : Text :=
  let line := functionLine f
  if namesOnly then line
  else definitionOf f ++ (if (functionLetters f).length > 1 then line else [])

/-- The functions whose attributes include some letters, in order. -/
def functionsWith (letters : Text) : Script (List Function) := do
  let fs := (← get).functions.filter fun f => letters.all (functionLetters f).contains
  return fs.mergeSort fun a b => String.ofList a.name ≤ String.ofList b.name

def listFunctions (namesOnly : Bool) (letters : Text) : Script Nat := do
  put ((← functionsWith letters).flatMap (listedFunction namesOnly))

/-- Shows functions by their names, with their attributes if that is asked for. -/
def showFunctions (namesOnly asked : Bool) (names : List Text) : Script Nat := do
  let isDebugging ← Script.hasFeature "extdebug"
  let mut status := 0
  for name in names do
    match (← get).function? name with
    | some f =>
      let _ ← put <| if asked then listedFunction namesOnly f
        else if !namesOnly then definitionOf f
        else if isDebugging then
          name ++ ' ' :: Script.decimal f.line ++ ' ' :: f.file ++ ['\n']
        else name ++ ['\n']
    | none =>
      if asked then Script.refuse (name ++ ": not found".toList)
      status := 1
  return status

def changeFunction (f : Function) : Script Unit :=
  modify fun s =>
    { s with functions := s.functions.map fun g => if g.name == f.name then f else g }

/-- A function with some attributes given and some taken. -/
def withLetters (given taken : Text) (f : Function) : Function :=
  let isOn (c : Char) (before : Bool) : Bool := (before || given.contains c) && !taken.contains c
  { f with
    exported := isOn 'x' f.exported, readOnly := f.readOnly || given.contains 'r'
    traced := isOn 't' f.traced }

/-- Gives functions attributes; one that is not there may be told. -/
def markFunctions (tellsMissing : Bool) (given taken : Text) (names : List Text) :
    Script Nat := do
  let mut status := 0
  for name in names do
    match (← get).function? name with
    | some f =>
      if f.readOnly && taken.contains 'r' then
        Script.refuse (name ++ ": readonly function".toList)
        status := 1
      else changeFunction (withLetters given taken f)
    | none =>
      if tellsMissing then Script.refuse (name ++ ": not a function".toList)
      status := 1
  return status

/-- Takes a function away. -/
def unsetFunction (name : Text) : Script Nat := do
  match (← get).function? name with
  | some { readOnly := true, .. } =>
    Script.refuse (name ++ ": cannot unset: readonly function".toList)
    return 1
  | _ =>
    modify fun s => { s with functions := s.functions.filter (·.name != name) }
    return 0

end CellRunner.Shell.Builtin
