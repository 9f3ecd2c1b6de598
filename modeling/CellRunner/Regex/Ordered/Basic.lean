import CellRunner.Shell.Pattern

/-!
# Ordered expressions

An ordered expression is tried from left to right, and of its matches at a place the first one
that is found is taken. It can look around, hold on to what it found and call itself.
-/

set_option autoImplicit false

namespace CellRunner

open Shell (Text)

namespace Ordered

/-- A place between two characters. -/
inductive Edge where
  | textStart
  /-- the end, or a newline that ends the text -/
  | textEnd
  | veryEnd
  | lineStart
  | lineEnd
  | wordEdge
  | elsewhere
  /-- where the search began -/
  | searchStart
  deriving DecidableEq, Repr

/-- Some characters in brackets. -/
inductive Item where
  | range (first last : Char)
  | named (negated : Bool) (name : String)
  deriving DecidableEq, Repr

/-- How a repetition goes about it. -/
inductive Hunger where
  | greedy
  | lazy
  /-- gives nothing back -/
  | possessive
  deriving DecidableEq, Repr

/-- A group, by its number or by its name. -/
inductive Reference where
  | number (n : Nat)
  | name (cs : Text)
  deriving DecidableEq, Repr

/-- How a search ends early. -/
inductive Cut where
  /-- nothing else is tried from any place -/
  | all
  /-- nothing else is tried from the present start -/
  | here
  /-- the search goes on at the place that was reached -/
  | skip
  deriving DecidableEq, Repr

end Ordered

open Ordered in
/-- An expression whose alternatives are tried in order. -/
inductive Ordered where
  | empty
  | oneOf (folds negated : Bool) (items : List Item)
  | edge (e : Edge)
  | sequence (a b : Ordered)
  | either (a b : Ordered)
  | repeated (r : Ordered) (least : Nat) (most : Option Nat) (hunger : Hunger)
  | group (number : Nat) (r : Ordered)
  /-- the text that a group holds -/
  | same (folds : Bool) (group : Reference)
  /-- what follows is described, or is not; nothing is taken -/
  | ahead (negated : Bool) (r : Ordered)
  /-- what stands before is described, or is not; its length is one of `widths` -/
  | behind (negated : Bool) (widths : List Nat) (r : Ordered)
  /-- only the first way is tried -/
  | once (r : Ordered)
  /-- the match begins here -/
  | begin
  /-- depends on whether a group holds something -/
  | ifHeld (group : Reference) (yes no : Ordered)
  /-- depends on what is around -/
  | ifFound (test yes no : Ordered)
  /-- goes on as a group, or as the whole -/
  | call (group : Reference)
  /-- the match is over -/
  | accept
  | fail
  | cut (c : Cut)
  deriving Repr

namespace Ordered

instance : Inhabited Ordered := ⟨.empty⟩

def isWord (c : Char) : Bool := c.isAlphanum || c = '_'

def isIn (name : String) (c : Char) : Bool :=
  match name with
  | "word" => isWord c
  | "ascii" => c.toNat < 128
  | "blank" => c = ' ' || c = '\t'
  | "wide" => c = ' ' || c = '\t' || c.toNat = 0xA0
  | "tall" => ('\n' ≤ c && c ≤ '\r') || c.toNat = 0x85
  | name => Shell.Pattern.isIn name c

def Item.holds (c : Char) : Item → Bool
  | .range a b => a ≤ c && c ≤ b
  | .named negated name => isIn name c != negated

def belongs (folds negated : Bool) (items : List Item) (c : Char) : Bool :=
  let isIn (c : Char) : Bool := items.any (Item.holds c)
  (isIn c || (folds && (isIn c.toLower || isIn c.toUpper))) != negated

/-- What a search goes by. -/
structure Setting where
  text : Array Char
  whole : Ordered
  groups : List (Nat × Ordered)
  names : List (Text × Nat)
  /-- where the search began -/
  start : Nat := 0

namespace Setting

def before? (x : Setting) (i : Nat) : Option Char := if i = 0 then none else x.text[i - 1]?

def numberOf (x : Setting) : Reference → Nat
  | .number n => n
  | .name cs => (x.names.lookup cs).getD 0

/-- The expression of a group; that of number zero is the whole. -/
def bodyOf (x : Setting) (r : Reference) : Ordered :=
  match x.numberOf r with
  | 0 => x.whole
  | n => ((x.groups.lookup n).map (.group n ·)).getD .fail

def isEdge (x : Setting) (i : Nat) : Edge → Bool
  | .textStart => i = 0
  | .textEnd => i = x.text.size || (i + 1 = x.text.size && x.text[i]? == some '\n')
  | .veryEnd => i = x.text.size
  | .lineStart => i = 0 || (x.before? i == some '\n' && i < x.text.size)
  | .lineEnd => i = x.text.size || x.text[i]? == some '\n'
  | .wordEdge => (x.before? i).any isWord != (x.text[i]?).any isWord
  | .elsewhere => (x.before? i).any isWord == (x.text[i]?).any isWord
  | .searchStart => i = x.start

/-- The place after a text that stands at a place. -/
def behind (x : Setting) (folds : Bool) : Text → Nat → Option Nat
  | [], i => some i
  | c :: cs, i =>
    match x.text[i]? with
    | none => none
    | some d =>
      if c = d || (folds && c.toLower = d.toLower) then x.behind folds cs (i + 1) else none

def part (x : Setting) (a b : Nat) : Text := (x.text.extract a b).toList

end Setting

/-- What was found on the way. -/
structure Held where
  /-- where groups begin and end -/
  groups : List (Nat × Nat × Nat) := []
  /-- where the match begins, if not at the start -/
  first : Option Nat := none
  deriving DecidableEq, Repr

inductive Outcome where
  | found (stop : Nat) (held : Held)
  | failed
  /-- nothing else is tried; the search goes on at the place given, if there is one -/
  | over (next : Option Nat)
  deriving DecidableEq, Repr

def less (n : Option Nat) : Option Nat := n.map (· - 1)

/-- Tries the ways in which an expression describes what follows a place, in order; `fuel`
bounds the length of each. -/
def tryAll (x : Setting) (start : Nat) :
    Nat → Ordered → Nat → Held → (Nat → Held → Outcome) → Outcome
  | 0, _, _, _, _ => .failed
  | fuel + 1, r, i, held, go =>
    /- what an expression finds by itself -/
    let alone (r : Ordered) (i : Nat) (accepts : Nat → Bool) : Outcome :=
      tryAll x start fuel r i held fun j held => if accepts j then .found j held else .failed
    match r with
    | .empty => go i held
    | .oneOf folds negated items =>
      match x.text[i]? with
      | some c => if belongs folds negated items c then go (i + 1) held else .failed
      | none => .failed
    | .edge e => if x.isEdge i e then go i held else .failed
    | .sequence a b =>
      tryAll x start fuel a i held fun j held => tryAll x start fuel b j held go
    | .either a b =>
      match tryAll x start fuel a i held go with
      | .failed => tryAll x start fuel b i held go
      | found => found
    | .repeated r least most .possessive =>
      tryAll x start fuel (.once (.repeated r least most .greedy)) i held go
    | .repeated r least most hunger =>
      let once : Unit → Outcome := fun _ =>
        if most = some 0 then .failed
        else tryAll x start fuel r i held fun j held =>
          if j = i then go j held
          else tryAll x start fuel (.repeated r (least - 1) (less most) hunger) j held go
      if least > 0 then once ()
      else if hunger = .lazy then
        match go i held with
        | .failed => once ()
        | found => found
      else
        match once () with
        | .failed => go i held
        | found => found
    | .group n r =>
      tryAll x start fuel r i held fun j held =>
        go j { held with groups := (n, i, j) :: held.groups.filter (·.1 != n) }
    | .same folds g =>
      match held.groups.lookup (x.numberOf g) with
      | none => .failed
      | some (a, b) =>
        match x.behind folds (x.part a b) i with
        | some j => go j held
        | none => .failed
    | .ahead negated r =>
      match alone r i (fun _ => true) with
      | .found _ inner => if negated then .failed else go i inner
      | _ => if negated then go i held else .failed
    | .behind negated widths r =>
      let ways := widths.filter (· ≤ i)
      let found := ways.findSome? fun n =>
        match alone r (i - n) (· = i) with
        | .found _ inner => some inner
        | _ => none
      match found with
      | some inner => if negated then .failed else go i inner
      | none => if negated then go i held else .failed
    | .once r =>
      match alone r i (fun _ => true) with
      | .found j inner => go j inner
      | other => other
    | .begin => go i { held with first := some i }
    | .ifHeld g yes no =>
      let isHeld := (held.groups.lookup (x.numberOf g)).isSome
      tryAll x start fuel (if isHeld then yes else no) i held go
    | .ifFound test yes no =>
      match alone test i (fun _ => true) with
      | .found _ inner => tryAll x start fuel yes i inner go
      | _ => tryAll x start fuel no i held go
    | .call g =>
      tryAll x start fuel (x.bodyOf g) i held fun j inner =>
        go j { inner with groups := held.groups }
    | .accept => .found i held
    | .fail => .failed
    | .cut c =>
      match go i held with
      | .failed =>
        .over (match c with
          | .all => none
          | .here => some (start + 1)
          | .skip => some (max i (start + 1)))
      | found => found

/-- A match: where it begins and ends, and what its groups hold. -/
structure Match where
  start : Nat
  stop : Nat
  held : List (Nat × Nat × Nat) := []
  deriving DecidableEq, Repr

/-- A bound on the length of one way. -/
def patience : Nat := 100000

/-- The first match from a place on; `fuel` bounds the places that are tried. -/
def findFrom (x : Setting) : Nat → Nat → Option Match
  | 0, _ => none
  | fuel + 1, i =>
    if i > x.text.size then none
    else
      match tryAll x i patience x.whole i {} .found with
      | .found stop held => some ⟨held.first.getD i, stop, held.groups⟩
      | .failed => findFrom x fuel (i + 1)
      | .over none => none
      | .over (some next) => findFrom x fuel next

/-- An expression with its groups by number and by name. -/
structure Complete where
  whole : Ordered
  groups : List (Nat × Ordered)
  names : List (Text × Nat)

/-- The first match that begins at a place with this number or later. -/
def Complete.find? (c : Complete) (text : Text) (start : Nat) : Option Match :=
  let x : Setting := { c with text := text.toArray, start }
  findFrom x (text.length + 2) start

/-- The number of characters that an expression describes, if it is always the same. -/
def width : Ordered → Option Nat
  | .oneOf _ _ _ => some 1
  | .sequence a b => do return (← a.width) + (← b.width)
  | .either a b => do if (← a.width) = (← b.width) then a.width else none
  | .repeated r least most _ => if most = some least then r.width.map (· * least) else none
  | .group _ r => r.width
  | .once r => r.width
  | .same _ _ => none
  | .call _ => none
  | .ifHeld _ yes no => do if (← yes.width) = (← no.width) then yes.width else none
  | .ifFound _ yes no => do if (← yes.width) = (← no.width) then yes.width else none
  | _ => some 0

/-- The numbers of characters that alternatives describe, if each has one. -/
def widths : Ordered → Option (List Nat)
  | .either a b => do return (← a.width) :: (← b.widths)
  | r => r.width.map fun n => [n]

end Ordered

end CellRunner
