import CellRunner.Shell.Pattern

/-!
# Regular expressions

An expression describes texts. Of the matches that begin first the longest one is taken; what
groups hold is found by trying the ways to make that match, the greediest first.
-/

set_option autoImplicit false

namespace CellRunner

open Shell (Text Member)

/-- A place between characters. -/
inductive Anchor where
  | lineStart
  | lineEnd
  | textStart
  | textEnd
  | wordStart
  | wordEnd
  /-- where a word starts or ends -/
  | wordEdge
  /-- where no word starts or ends -/
  | elsewhere
  /-- where no character of a word stands before -/
  | afterOther
  /-- where no character of a word follows -/
  | beforeOther
  deriving DecidableEq, Repr

inductive Regex where
  | empty
  | oneOf (negated : Bool) (members : List Member)
  | anchor (a : Anchor)
  | sequence (a b : Regex)
  | either (a b : Regex)
  | repeated (r : Regex) (least : Nat) (most : Option Nat)
  | group (number : Nat) (r : Regex)
  /-- the text that a group holds -/
  | same (number : Nat)
  deriving DecidableEq, Repr

namespace Regex

instance : Inhabited Regex := ⟨.empty⟩

/-- How texts are looked at. -/
structure Manner where
  ignoresCase : Bool := false
  /-- whether lines inside a text have a start and an end -/
  hasLines : Bool := false
  /-- whether the text begins in the middle of a line -/
  isInside : Bool := false
  deriving DecidableEq, Repr

def isWord (c : Char) : Bool := c.isAlphanum || c = '_'

def belongs (m : Manner) (negated : Bool) (members : List Member) (c : Char) : Bool :=
  let isIn (c : Char) : Bool := members.any (Shell.Pattern.Member.holds c)
  (isIn c || (m.ignoresCase && (isIn c.toLower || isIn c.toUpper))) != negated

/-- Whether a place between two characters is what an anchor asks for. -/
def Anchor.holds (m : Manner) (before after : Option Char) : Anchor → Bool
  | .textStart => before.isNone && !m.isInside
  | .textEnd => after.isNone
  | .lineStart => (before.isNone && !m.isInside) || (m.hasLines && before = some '\n')
  | .lineEnd => after.isNone || (m.hasLines && after = some '\n')
  | .wordStart => !before.any isWord && after.any isWord
  | .wordEnd => before.any isWord && !after.any isWord
  | .wordEdge => before.any isWord != after.any isWord
  | .elsewhere => before.any isWord == after.any isWord
  | .afterOther => !before.any isWord
  | .beforeOther => !after.any isWord

/-- Whether an expression describes the empty text at a place. -/
def describesNothing (m : Manner) (before after : Option Char) : Regex → Bool
  | .empty => true
  | .oneOf _ _ => false
  | .anchor a => Anchor.holds m before after a
  | .sequence a b => a.describesNothing m before after && b.describesNothing m before after
  | .either a b => a.describesNothing m before after || b.describesNothing m before after
  | .repeated r least _ => least = 0 || r.describesNothing m before after
  | .group _ r => r.describesNothing m before after
  | .same _ => false

/-- One expression after another. -/
def andThen (a b : Regex) : Regex :=
  match a with
  | .empty => b
  | a => .sequence a b

def less (n : Option Nat) : Option Nat := n.map (· - 1)

/-- The expressions one of which has to describe what follows a character. -/
def after (m : Manner) (before : Option Char) (c : Char) : Regex → List Regex
  | .empty => []
  | .oneOf negated members => if belongs m negated members c then [.empty] else []
  | .anchor _ => []
  | .sequence a b =>
    let front := (a.after m before c).map (andThen · b)
    if a.describesNothing m before (some c) then front ++ b.after m before c else front
  | .either a b => a.after m before c ++ b.after m before c
  | .repeated r least most =>
    if most = some 0 then []
    else (r.after m before c).map (andThen · (.repeated r (least - 1) (less most)))
  | .group _ r => r.after m before c
  | .same _ => []

def hasSame : Regex → Bool
  | .sequence a b => a.hasSame || b.hasSame
  | .either a b => a.hasSame || b.hasSame
  | .repeated r _ _ => r.hasSame
  | .group _ r => r.hasSame
  | .same _ => true
  | _ => false

/-- The number of groups. -/
def groups : Regex → Nat
  | .sequence a b => max a.groups b.groups
  | .either a b => max a.groups b.groups
  | .repeated r _ _ => r.groups
  | .group n r => max n r.groups
  | _ => 0

/-- The length of the longest front of a text that one of the expressions describes; `best` is
the longest one so far, and `n` the number of characters before the text. -/
def longest (m : Manner) : Option Char → Text → Nat → Option Nat → List Regex → Option Nat
  | before, cs, n, best, rs =>
    let best := if rs.any (describesNothing m before cs.head?) then some n else best
    match cs with
    | [] => best
    | c :: rest =>
      match (rs.flatMap (after m before c)).eraseDups with
      | [] => best
      | rs => longest m (some c) rest (n + 1) best rs

/-- The places where the groups begin and end. -/
abbrev Holdings := List (Nat × Nat × Nat)

/-- A place in a text. -/
structure Place where
  before : Option Char
  rest : Text
  index : Nat

def Place.next? (p : Place) : Option (Char × Place) :=
  match p.rest with
  | c :: cs => some (c, ⟨some c, cs, p.index + 1⟩)
  | [] => none

/-- Goes on over the given characters. -/
def Place.over (m : Manner) : Text → Place → Option Place
  | [], p => some p
  | c :: cs, p =>
    match p.next? with
    | some (d, q) =>
      if c = d || (m.ignoresCase && c.toLower = d.toLower) then Place.over m cs q else none
    | none => none

/-- Tries the ways in which an expression describes what follows a place, the greediest first;
`fuel` bounds the length of each. -/
def tryAll (m : Manner) (text : Text) :
    Nat → Regex → Place → Holdings → (Place → Holdings → Option Holdings) → Option Holdings
  | 0, _, _, _, _ => none
  | fuel + 1, r, p, held, go =>
    match r with
    | .empty => go p held
    | .oneOf negated members =>
      match p.next? with
      | some (c, q) => if belongs m negated members c then go q held else none
      | none => none
    | .anchor a => if Anchor.holds m p.before p.rest.head? a then go p held else none
    | .sequence a b => tryAll m text fuel a p held fun q held => tryAll m text fuel b q held go
    | .either a b =>
      match tryAll m text fuel a p held go with
      | some found => some found
      | none => tryAll m text fuel b p held go
    | .repeated r least most =>
      let once := if most = some 0 then none
        else tryAll m text fuel r p held fun q held =>
          if q.index = p.index && least = 0 then none
          else tryAll m text fuel (.repeated r (least - 1) (less most)) q held go
      match once with
      | some found => some found
      | none => if least = 0 then go p held else none
    | .group n r =>
      tryAll m text fuel r p held fun q held =>
        go q ((n, p.index, q.index) :: held.filter (·.1 != n))
    | .same n =>
      match held.lookup n with
      | none => none
      | some (a, b) =>
        match p.over m ((text.drop a).take (b - a)) with
        | some q => go q held
        | none => none

/-- A match, and what its groups hold. -/
structure Match where
  start : Nat
  stop : Nat
  held : Holdings
  deriving DecidableEq, Repr

/-- A bound on the ways of one match. -/
def patience : Nat := 100000

/-- What groups hold in a match with a given end. -/
def holdings (m : Manner) (text : Text) (r : Regex) (p : Place) (stop : Nat) : Option Holdings :=
  tryAll m text patience r p [] fun q held => if q.index = stop then some held else none

/-- The longest match that begins at a place. -/
def matchAt (m : Manner) (text : Text) (r : Regex) (p : Place) : Option Match :=
  if r.hasSame then
    ((List.range (p.rest.length + 1)).reverse.map (p.index + ·)).findSome? fun stop =>
      (holdings m text r p stop).map fun held => ⟨p.index, stop, held⟩
  else
    match longest m p.before p.rest p.index none [r] with
    | none => none
    | some stop =>
      if r.groups = 0 then some ⟨p.index, stop, []⟩
      else some ⟨p.index, stop, (holdings m text r p stop).getD []⟩

def findFrom (m : Manner) (text : Text) (r : Regex) : Nat → Place → Option Match
  | 0, p => matchAt m text r p
  | fuel + 1, p =>
    match matchAt m text r p with
    | some found => some found
    | none =>
      match p.next? with
      | some (_, q) => findFrom m text r fuel q
      | none => none

/-- The first match that begins at a place with this number or later. -/
def find? (m : Manner) (r : Regex) (text : Text) (start : Nat) : Option Match :=
  let before := if start = 0 then none else text[start - 1]?
  findFrom m text r (text.length - start) ⟨before, text.drop start, start⟩

def isMatch (m : Manner) (r : Regex) (text : Text) : Bool := (find? m r text 0).isSome

namespace Match

def part (text : Text) (start stop : Nat) : Text := (text.drop start).take (stop - start)

/-- The text of the match. -/
def text (x : Match) (cs : Text) : Text := part cs x.start x.stop

/-- What a group holds; the match itself has number zero. -/
def group? (x : Match) (cs : Text) (n : Nat) : Option Text :=
  if n = 0 then some (x.text cs) else (x.held.lookup n).map fun (a, b) => part cs a b

end Match

end Regex

end CellRunner
