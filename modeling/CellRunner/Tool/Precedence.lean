import CellRunner.Tool.Factors
import CellRunner.Tool.Order

/-!
# Putting names in order

Pairs of names say which comes before which. Names that nothing has to come before are given in
order, then those that only they had to come before. A loop is reported and broken.
-/

set_option autoImplicit false

namespace CellRunner.Tool

open Machine (Prog)
open Shell (Text)

namespace Precedence

structure Item where
  name : Text
  /-- how many names have to come before this one -/
  count : Nat := 0
  /-- the items after this one, the last one given first -/
  after : List Nat := []
  isGiven : Bool := false
  /-- the next item in a search for loops -/
  link : Option Nat := none

instance : Inhabited Item := ⟨{ name := [] }⟩

abbrev Items := Array Item

def itemsOf (names : List Text) : Items :=
  let sorted := names.mergeSort fun a b => (Order.compareTexts a b).isLE
  let distinct := sorted.foldr (fun n s => if s.head? = some n then s else n :: s) []
  (distinct.map fun name => { name : Item }).toArray

def indexOf (items : Items) (name : Text) : Nat := (items.findIdx? (·.name == name)).getD 0

/-- Notes that one item comes before another. -/
def record (items : Items) (before after : Nat) : Items :=
  if before = after then items
  else
    let items := items.modify after fun i => { i with count := i.count + 1 }
    items.modify before fun i => { i with after := after :: i.after }

def recordAll (items : Items) : List Text → Items
  | a :: b :: rest => recordAll (record items (indexOf items a) (indexOf items b)) rest
  | _ => items

/-- Gives the items of a queue, and those that become free; `fuel` bounds their number. -/
def give : Nat → List Nat → Items → List Text → Items × List Text
  | 0, _, items, given => (items, given)
  | _ + 1, [], items, given => (items, given)
  | fuel + 1, i :: queue, items, given =>
    let item := items.getD i default
    let items := items.modify i fun x => { x with isGiven := true }
    let (items, freed) := item.after.foldl (fun (items, freed) s =>
      let items := items.modify s fun x => { x with count := x.count - 1 }
      if (items.getD s default).count = 0 then (items, s :: freed) else (items, freed))
      (items, ([] : List Nat))
    give fuel (queue ++ freed.reverse) items (item.name :: given)

def freeItems (items : Items) : List Nat :=
  (List.range items.size).filter fun i =>
    let x := items.getD i default
    x.count = 0 && !x.isGiven

/-! ### Loops -/

/-- The items that a chain leads through, up to `stop` or to its end. -/
def chain (items : Items) (stop : Option Nat) : Nat → Option Nat → List Nat
  | 0, _ => []
  | _ + 1, none => []
  | fuel + 1, some i =>
    if some i == stop then [i] else i :: chain items stop fuel (items.getD i default).link

/-- A search for a loop: the items, the chain found so far, and the loop when it is found. -/
structure Search where
  items : Items
  head : Option Nat := none
  found : Option (List Nat) := none

/-- Looks whether an item continues the chain, or closes it. -/
def Search.visit (s : Search) (k : Nat) : Search :=
  let item := s.items.getD k default
  if s.found.isSome || item.count = 0 then s
  else
    match s.head with
    | none => { s with head := some k }
    | some h =>
      if !item.after.contains h then s
      else if item.link.isSome then
        let loop := chain s.items (some k) (s.items.size + 1) (some h)
        let items := s.items.modify h fun x => { x with count := x.count - 1 }
        let items := items.modify k fun x => { x with after := x.after.erase h }
        { items := items.map fun x => { x with link := none }, found := some loop }
      else { s with items := s.items.modify k fun x => { x with link := some h }, head := some k }

/-- Walks over all items until a loop is found; `fuel` bounds the number of walks. -/
def Search.walk : Nat → Search → Search
  | 0, s => s
  | fuel + 1, s =>
    let s := (List.range s.items.size).foldl Search.visit s
    if s.found.isSome then s else walk fuel s

/-- Gives all names; `fuel` bounds the number of loops. -/
def giveAll (path : Text) : Nat → Items → Run Bool
  | 0, _ => return false
  | fuel + 1, items => do
    let (items, given) := give (items.size + 1) (freeItems items) items []
    given.reverse.forM fun n => out (n ++ ['\n'])
    if items.all (·.isGiven) then return true
    else
      complain (beforeColon path ++ ": input contains a loop:".toList)
      let s := Search.walk (items.size + 2) { items }
      (s.found.getD []).forM fun i => complain (s.items.getD i default).name
      let _ ← giveAll path fuel s.items
      return false

end Precedence

open Precedence in
def precede : Tool := do
  let (_, operands) ← readOptions (.make "" [])
  atMost 1 operands
  let path := operands.headD ['-']
  match ← contents path with
  | .error e =>
    fail (if e = .isDirectory then beforeColon path ++ ": read error: Is a directory".toList
      else because (beforeColon path) e)
  | .ok cs =>
    let names := wordsOf cs
    if names.length % 2 = 1 then
      fail (beforeColon path ++ ": input contains an odd number of tokens".toList)
    let ok ← giveAll path (names.length + 1) (recordAll (itemsOf names) names)
    return if ok then 0 else 1

end CellRunner.Tool
