import CellRunner.Shell.Syntax

/-!
# Patterns

A pattern describes texts: a star stands for any text, a question mark for any character and
brackets for one of several characters. Groups of patterns belong to the extended dialect.
-/

set_option autoImplicit false

namespace CellRunner.Shell

/-- A character with whether it was quoted, which makes it stand for itself. -/
abbrev Glyph := Char × Bool

/-- Some characters in brackets. -/
inductive Member where
  | range (first last : Char)
  | named (name : String)
  deriving DecidableEq, Repr

/-- How often a group may be there. -/
inductive Often where
  | maybe
  | any
  | some
  | once
  /-- what the group does not describe -/
  | never
  deriving DecidableEq, Repr

inductive PatternItem where
  | char (c : Char)
  | anyChar
  | anyText
  | oneOf (negated : Bool) (members : List Member)
  | group (often : Often) (alternatives : List (List PatternItem))

abbrev Pattern := List PatternItem

namespace Pattern

def isBlank (c : Char) : Bool := c = ' ' || ('\t' ≤ c && c ≤ '\r')

def isPunctuation (c : Char) : Bool := '!' ≤ c && c ≤ '~' && !c.isAlphanum

/-- Whether a character belongs to a class with this name. -/
def isIn (name : String) (c : Char) : Bool :=
  match name with
  | "alpha" => c.isAlpha
  | "digit" => c.isDigit
  | "alnum" => c.isAlphanum
  | "upper" => c.isUpper
  | "lower" => c.isLower
  | "space" => isBlank c
  | "blank" => c = ' ' || c = '\t'
  | "punct" => isPunctuation c
  | "print" => ' ' ≤ c && c ≤ '~'
  | "graph" => '!' ≤ c && c ≤ '~'
  | "cntrl" => c < ' ' || c = '\x7f'
  | "xdigit" => c.isDigit || ('a' ≤ c && c ≤ 'f') || ('A' ≤ c && c ≤ 'F')
  | _ => false

def classes : List String :=
  ["alpha", "digit", "alnum", "upper", "lower", "space", "blank", "punct", "print", "graph",
    "cntrl", "xdigit"]

def Member.holds (c : Char) : Member → Bool
  | .range a b => a ≤ c && c ≤ b
  | .named name => isIn name c

/-- The places reached one character further, where the characters satisfy `p`. -/
def shift (p : Char → Bool) : Text → List Bool → List Bool
  | c :: cs, b :: bs => (b && p c) :: shift p cs bs
  | _, _ => []

/-- All places from the first reached one on. -/
def spread : Bool → List Bool → List Bool
  | _, [] => []
  | before, b :: bs => (before || b) :: spread (before || b) bs

def union (a b : List Bool) : List Bool := a.zipWith (· || ·) b

/-- Only the place with this number, out of `n`. -/
def only (n i : Nat) : List Bool := (List.range n).map (· == i)

/-- Repeats a step until no new place is reached; `fuel` bounds the rounds. -/
def closure (f : List Bool → List Bool) : Nat → List Bool → List Bool
  | 0, at_ => at_
  | fuel + 1, at_ =>
    let next := union at_ (f at_)
    if next == at_ then at_ else closure f fuel next

/-- The ends of the texts that `f` does not reach from the places in `at_`. -/
def complement (f : List Bool → List Bool) (at_ : List Bool) : List Bool :=
  let n := at_.length
  (at_.zipIdx.filter (·.1)).foldl
    (fun out (_, i) =>
      union out ((f (only n i)).zipIdx.map fun (reached, j) => !reached && i ≤ j))
    (List.replicate n false)

mutual

/-- The places in a text that a pattern reaches from some places; there is one more place than
there are characters. -/
def reach (cs : Text) : Pattern → List Bool → List Bool
  | [], at_ => at_
  | i :: is, at_ => reach cs is (reachItem cs i at_)

def reachItem (cs : Text) : PatternItem → List Bool → List Bool
  | .char d, at_ => false :: shift (· == d) cs at_
  | .anyChar, at_ => false :: shift (fun _ => true) cs at_
  | .anyText, at_ => spread false at_
  | .oneOf negated members, at_ =>
    false :: shift (fun c => (members.any (Member.holds c)) != negated) cs at_
  | .group .once alternatives, at_ => reachAny cs alternatives at_
  | .group .maybe alternatives, at_ => union at_ (reachAny cs alternatives at_)
  | .group .any alternatives, at_ => closure (reachAny cs alternatives) (cs.length + 1) at_
  | .group .some alternatives, at_ =>
    closure (reachAny cs alternatives) (cs.length + 1) (reachAny cs alternatives at_)
  | .group .never alternatives, at_ => complement (reachAny cs alternatives) at_

def reachAny (cs : Text) : List Pattern → List Bool → List Bool
  | [], at_ => at_.map fun _ => false
  | p :: ps, at_ => union (reach cs p at_) (reachAny cs ps at_)

end

/-- The lengths of the fronts of a text that a pattern describes, shortest first. -/
def fronts (p : Pattern) (cs : Text) : List Nat :=
  ((reach cs p (only (cs.length + 1) 0)).zipIdx.filter (·.1)).map (·.2)

/-- Whether a pattern describes the whole of a text. -/
def describes (p : Pattern) (cs : Text) : Bool :=
  (reach cs p (only (cs.length + 1) 0)).getLastD false

/-- The name of a class at the front, as in `[:alpha:]`, and the rest. -/
def class? : List Glyph → Option (String × List Glyph)
  | ('[', false) :: (':', false) :: rest =>
    let name := (rest.takeWhile fun g => g.1 != ':').map (·.1)
    match rest.drop name.length with
    | (':', _) :: (']', _) :: after =>
      if classes.contains (String.ofList name) then some (String.ofList name, after) else none
    | _ => none
  | _ => none

/-- A single character, which may be written as in `[.a.]` or `[=a=]`. -/
def single : List Glyph → Option (Char × List Glyph)
  | ('[', false) :: ('.', _) :: (c, _) :: ('.', _) :: (']', _) :: rest => some (c, rest)
  | ('[', false) :: ('=', _) :: (c, _) :: ('=', _) :: (']', _) :: rest => some (c, rest)
  | ('\\', false) :: (c, _) :: rest => some (c, rest)
  | (c, _) :: rest => some (c, rest)
  | [] => none

/-- The members in brackets up to the closing one; the first character may be a bracket. -/
def brackets : Nat → Bool → List Glyph → Option (List Member × List Glyph)
  | 0, _, _ => none
  | fuel + 1, isFirst, gs =>
    match gs with
    | [] => none
    | (']', false) :: rest =>
      if isFirst then more fuel ']' rest else some ([], rest)
    | _ =>
      match class? gs with
      | some (name, rest) => (brackets fuel false rest).map fun (ms, r) => (.named name :: ms, r)
      | none =>
        match single gs with
        | some (c, rest) => more fuel c rest
        | none => none
where
  more (fuel : Nat) (c : Char) (rest : List Glyph) : Option (List Member × List Glyph) :=
    match rest with
    | ('-', _) :: after =>
      match after with
      | (']', false) :: _ =>
        (brackets fuel false rest).map fun (ms, r) => (.range c c :: ms, r)
      | _ =>
        match single after with
        | some (d, after) =>
          (brackets fuel false after).map fun (ms, r) => (.range c d :: ms, r)
        | none => none
    | _ => (brackets fuel false rest).map fun (ms, r) => (.range c c :: ms, r)

def often? : Char → Option Often
  | '?' => some .maybe
  | '*' => some .any
  | '+' => some .some
  | '@' => some .once
  | '!' => some .never
  | _ => none

/-- The texts between bars up to the closing parenthesis, and the rest. -/
def alternatives : Nat → List Glyph → List Glyph → Option (List (List Glyph) × List Glyph)
  | _, [], _ => none
  | depth, (c, quoted) :: rest, out =>
    if quoted then alternatives depth rest ((c, quoted) :: out)
    else if c = '(' then alternatives (depth + 1) rest ((c, quoted) :: out)
    else if c = ')' then
      if depth = 0 then some ([out.reverse], rest)
      else alternatives (depth - 1) rest ((c, quoted) :: out)
    else if c = '|' && depth = 0 then
      (alternatives depth rest []).map fun (as, r) => (out.reverse :: as, r)
    else alternatives depth rest ((c, quoted) :: out)

/-- The pattern that glyphs spell; `fuel` bounds their number. -/
def ofGlyphs (groups : Bool) : Nat → List Glyph → Pattern
  | 0, _ => []
  | _ + 1, [] => []
  | fuel + 1, (c, quoted) :: rest =>
    if quoted then .char c :: ofGlyphs groups fuel rest
    else
      let group : Option Pattern :=
        match groups, often? c, rest with
        | true, some often, ('(', false) :: inner =>
          (alternatives 0 inner []).map fun (as, rest) =>
            .group often (as.map (ofGlyphs groups fuel)) :: ofGlyphs groups fuel rest
        | _, _, _ => none
      match group with
      | some p => p
      | none =>
        if c = '*' then .anyText :: ofGlyphs groups fuel rest
        else if c = '?' then .anyChar :: ofGlyphs groups fuel rest
        else if c = '\\' then
          match rest with
          | (d, _) :: rest => .char d :: ofGlyphs groups fuel rest
          | [] => [.char c]
        else if c = '[' then
          let (negated, inner) := match rest with
            | ('!', false) :: inner => (true, inner)
            | ('^', false) :: inner => (true, inner)
            | _ => (false, rest)
          match brackets (inner.length + 1) true inner with
          | some (members, rest) => .oneOf negated members :: ofGlyphs groups fuel rest
          | none => .char c :: ofGlyphs groups fuel rest
        else .char c :: ofGlyphs groups fuel rest

/-- A text without the shortest or the longest front that a pattern describes. -/
def dropFront (longest : Bool) (p : Pattern) (cs : Text) : Text :=
  let sizes := p.fronts cs
  match if longest then sizes.getLast? else sizes.head? with
  | some n => cs.drop n
  | none => cs

/-- A text without the shortest or the longest back that a pattern describes. -/
def dropBack (longest : Bool) (p : Pattern) (cs : Text) : Text :=
  let n := cs.length
  let reaches (i : Nat) : Bool := p.describes (cs.drop i)
  let places := List.range (n + 1)
  match (if longest then places else places.reverse).find? reaches with
  | some i => cs.take i
  | none => cs

end Pattern

end CellRunner.Shell
