import CellRunner.Shell.RichArithmetic

/-!
# Giving values to variables

A value is changed as the attributes of its variable ask for, and may be added to the value
before.
-/

set_option autoImplicit false

namespace CellRunner.Shell.Variables

open Script (Key)

/-- The value of an expression in the dialect of the shell. -/
def calculate (cs : Text) : Script Int := do
  if ← Script.isExtended then RichArithmetic.evaluate cs else Arithmetic.evaluate cs

def integerText (cs : Text) : Script Text := do return ofString (toString (← calculate cs))

/-- The text that is stored: an integer variable holds the value of an expression. -/
def prepared (isInteger : Bool) (before : Option Text) (appends : Bool) (cs : Text) :
    Script Text := do
  if isInteger then
    let added ← Script.escalating (calculate cs)
    if appends then
      let old ← Script.escalating (calculate (before.getD []))
      return ofString (toString (Arithmetic.wrap (old + added)))
    else return ofString (toString added)
  else return if appends then before.getD [] ++ cs else cs

/-- The item that an index leads to. -/
def keyOf (name index : Text) : Script Key :=
  RichArithmetic.keyOf RichArithmetic.evaluate name index

/-- The index of the items in a list that are added next. -/
def nextPlace (v : Option Value) : Nat := Script.sizeOf (Script.Value.items v)

/-- Gives a variable, or one of its items, a text; whether that could be done. -/
def give (name : Text) (index : Option Text) (appends : Bool) (cs : Text) : Script Bool := do
  let name ← Script.target name Script.chain
  let v ← Script.find? name
  let isInteger := v.any (·.integer)
  match index with
  | none =>
    let before := (v.bind (·.value)).bind Script.Value.text?
    Script.assign? name (← prepared isInteger before appends cs)
  | some index =>
    let key ← keyOf name index
    let before := (v.bind (·.value)).bind (Script.Value.item? · key)
    Script.assignItem? name key (← prepared isInteger before appends cs)

/-- Gives the items of a list one after the other; `next` is the place of the next one. -/
def giveItems (name : Text) : Nat → List (Option Text × Text) → Script Bool
  | _, [] => return true
  | next, (index, cs) :: rest => do
    match index with
    | some index =>
      let done ← give name (some index) false cs
      let key ← keyOf name index
      let next := match key with
        | .place n => n.toNat + 1
        | .entry _ => next
      if done then giveItems name next rest else return false
    | none =>
      if ← give name (some (Script.decimal next)) false cs then giveItems name (next + 1) rest
      else return false

/-- Names and values that follow each other. -/
def pairs : List (Option Text × Text) → List (Option Text × Text)
  | (none, k) :: (none, v) :: rest => (some k, v) :: pairs rest
  | (none, k) :: rest => (some k, []) :: pairs rest
  | i :: rest => i :: pairs rest
  | [] => []

/-- Gives a variable a list of items. -/
def giveList (name : Text) (appends : Bool) (items : List (Option Text × Text)) :
    Script Bool := do
  let name ← Script.target name Script.chain
  match ← Script.find? name with
  | some { readOnly := true, .. } =>
    Script.readOnlyFault name
    return false
  | v =>
    let v := { v.getD { name } with pending := false }
    match v.value with
    | some (.table old) =>
      Script.put { v with value := some (.table (if appends then old else [])) }
      giveItems name 0 (pairs items)
    | value =>
      let old := if appends then Script.Value.items value else []
      Script.put { v with value := some (.list old) }
      giveItems name (nextPlace (some (.list old))) items

end CellRunner.Shell.Variables
