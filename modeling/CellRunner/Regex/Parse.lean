import CellRunner.Regex.Basic

/-!
# Reading regular expressions

There are two ways to write them: in the basic one most operators have a backslash in front, in
the extended one they have none.
-/

set_option autoImplicit false

namespace CellRunner.Regex

open Shell (Text Member)

structure Style where
  extended : Bool := false
  /-- whether a backslash makes characters of some letters, also in brackets -/
  letters : Bool := false
  /-- whether a backslash makes any other character plain, also in brackets -/
  plain : Bool := false
  /-- whether operators without anything to repeat are wrong -/
  strict : Bool := false
  /-- whether a closing parenthesis may stand alone -/
  loose : Bool := false
  deriving DecidableEq, Repr

inductive Fault where
  | openBracket
  /-- a bracket at the end -/
  | emptyBracket
  | openGroup
  | openInterval
  | extraGroup
  | trailingBackslash
  | badReference
  | badInterval
  | badRange
  | badClass
  | nothingToRepeat
  | tooBig
  deriving DecidableEq, Repr

def Fault.text : Fault → String
  | .openBracket => "Unmatched [, [^, [:, [., or [="
  | .emptyBracket => "Invalid regular expression"
  | .openGroup => "Unmatched ( or \\("
  | .openInterval => "Unmatched \\\x7b"
  | .extraGroup => "Unmatched ) or \\)"
  | .trailingBackslash => "Trailing backslash"
  | .badReference => "Invalid back reference"
  | .badInterval => "Invalid content of \\\x7b\\\x7d"
  | .badRange => "Invalid range end"
  | .badClass => "Invalid character class name"
  | .nothingToRepeat => "Invalid preceding regular expression"
  | .tooBig => "Regular expression too big"

structure Reader where
  rest : Text
  style : Style
  /-- the number of groups so far -/
  count : Nat := 0
  /-- how many groups the present place stands in -/
  depth : Nat := 0
  /-- groups that are complete -/
  closed : List Nat := []

abbrev Reading := StateT Reader (Except Fault)

def fail {α : Type} (f : Fault) : Reading α := throw f

def literal (c : Char) : Regex := .oneOf false [.range c c]

def anyChar : Regex := .oneOf true []

/-! ### Brackets -/

/-- The name between `[:` and `:]` and what follows; the mark may be another one. -/
def named? (mark : Char) : Nat → Text → Text → Option (Text × Text)
  | 0, _, _ => none
  | _ + 1, [], _ => none
  | fuel + 1, c :: cs, out =>
    if c = mark && cs.head? = some ']' then some (out.reverse, cs.drop 1)
    else named? mark fuel cs (c :: out)

/-- The character that a backslash and a letter stand for. -/
def escaped? (c : Char) : Option Char :=
  match c with
  | 'n' => some '\n'
  | 't' => some '\t'
  | 'f' => some '\x0c'
  | 'v' => some '\x0b'
  | 'a' => some '\x07'
  | 'r' => some '\r'
  | _ => none

/-- One end of a range in brackets, and what follows it. -/
def bracketChar (s : Style) : Text → Except Fault (Char × Text)
  | '[' :: '.' :: cs =>
    match named? '.' (cs.length + 1) cs [] with
    | some ([c], rest) => .ok (c, rest)
    | some _ => .error .badRange
    | none => .error .openBracket
  | '[' :: '=' :: cs =>
    match named? '=' (cs.length + 1) cs [] with
    | some ([c], rest) => .ok (c, rest)
    | some _ => .error .badRange
    | none => .error .openBracket
  | '\\' :: c :: cs =>
    match if s.letters then escaped? c else none with
    | some d => .ok (d, cs)
    | none => if s.plain then .ok (c, cs) else .ok ('\\', c :: cs)
  | c :: cs => .ok (c, cs)
  | [] => .error .openBracket

/-- The members between brackets, and what follows them. -/
def bracketFrom (s : Style) : Nat → Bool → List Member → Text → Except Fault (List Member × Text)
  | 0, _, _, _ => .error .openBracket
  | fuel + 1, first, out, cs =>
    match cs with
    | [] => .error .openBracket
    | ']' :: rest => if first then bracketItem fuel out cs else .ok (out, rest)
    | '[' :: ':' :: rest =>
      match named? ':' (rest.length + 1) rest [] with
      | some (name, rest) =>
        let name := String.ofList name
        if Shell.Pattern.classes.contains name then
          bracketFrom s fuel false (.named name :: out) rest
        else .error .badClass
      | none => .error .openBracket
    | _ => bracketItem fuel out cs
where
  bracketItem (fuel : Nat) (out : List Member) (cs : Text) :
      Except Fault (List Member × Text) := do
    let (a, rest) ← bracketChar s cs
    match rest with
    | '-' :: next :: more =>
      if next = ']' then bracketFrom s fuel false (.range a a :: out) rest
      else
        let (b, rest) ← bracketChar s (next :: more)
        if b < a then .error .badRange else bracketFrom s fuel false (.range a b :: out) rest
    | _ => bracketFrom s fuel false (.range a a :: out) rest

def bracket : Reading Regex := do
  let r ← get
  let (negated, cs) := match r.rest with
    | '^' :: cs => (true, cs)
    | cs => (false, cs)
  if cs.isEmpty then throw .emptyBracket
  match bracketFrom r.style (cs.length + 1) true [] cs with
  | .ok (members, rest) =>
    set { r with rest }
    return .oneOf negated members
  | .error e => throw e

/-! ### Expressions -/

def wordMembers : List Member := [.named "alnum", .range '_' '_']

/-- What a backslash and a letter describe, whatever the style. -/
def special? : Char → Option Regex
  | 'w' => some (.oneOf false wordMembers)
  | 'W' => some (.oneOf true wordMembers)
  | 's' => some (.oneOf false [.named "space"])
  | 'S' => some (.oneOf true [.named "space"])
  | 'b' => some (.anchor .wordEdge)
  | 'B' => some (.anchor .elsewhere)
  | '<' => some (.anchor .wordStart)
  | '>' => some (.anchor .wordEnd)
  | '\'' => some (.anchor .textEnd)
  | '\x60' => some (.anchor .textStart)
  | _ => none

/-- The character that octal digits stand for, and what follows them. -/
def octal (cs : Text) : Char × Text :=
  let digits := (cs.take 3).takeWhile fun c => '0' ≤ c && c ≤ '7'
  (Char.ofNat (digits.foldl (fun n c => n * 8 + (c.toNat - 48)) 0), cs.drop digits.length)

def take (n : Nat) : Reading Unit := modify fun r => { r with rest := r.rest.drop n }

/-- Whether a basic expression can end before this text. -/
def endsBasic (depth : Nat) : Text → Bool
  | [] => true
  | '\\' :: ')' :: _ => depth > 0
  | '\\' :: '|' :: _ => true
  | _ => false

/-- The bounds in an interval, and what follows it. -/
def interval? (basic : Bool) (cs : Text) : Option (Nat × Option Nat × Text) :=
  let number (cs : Text) : Option Nat × Text :=
    let ds := cs.takeWhile Char.isDigit
    (if ds.isEmpty then none else some (ds.foldl (fun n c => n * 10 + (c.toNat - 48)) 0),
      cs.drop ds.length)
  let (least, cs) := number cs
  let (most, isOpen, cs) := match cs with
    | ',' :: cs =>
      let (n, cs) := number cs
      (n, n.isNone, cs)
    | cs => (least, false, cs)
  let close? : Option Text := match basic, cs with
    | true, '\\' :: '\x7d' :: rest => some rest
    | false, '\x7d' :: rest => some rest
    | _, _ => none
  match close? with
  | some rest =>
    if least.isNone && most.isNone && !isOpen then none
    else some (least.getD 0, if isOpen then none else most, rest)
  | none => none

def greatestCount : Nat := 32767

/-- The bounds in an interval after its brace. -/
def interval (basic : Bool) (cs : Text) : Reading (Nat × Option Nat) := do
  match interval? basic cs with
  | some (least, most, rest) =>
    if most.any (· < least) then fail .badInterval
    if least > greatestCount || most.any (· > greatestCount) then fail .tooBig
    modify fun r => { r with rest }
    return (least, most)
  | none => if closes basic cs then fail .badInterval else fail .openInterval
where
  closes (basic : Bool) : Text → Bool
    | '\\' :: c :: cs => if basic then c = '\x7d' || closes basic cs else closes basic cs
    | c :: cs => (!basic && c = '\x7d') || closes basic cs
    | [] => false

/-- The repetition that follows an expression, if there is one. -/
def repetition : Reading (Option (Nat × Option Nat)) := do
  let r ← get
  let extended := r.style.extended
  match r.rest with
  | '*' :: _ =>
    take 1
    return some (0, none)
  | '+' :: _ =>
    if extended then
      take 1
      return some (1, none)
    else return none
  | '?' :: _ =>
    if extended then
      take 1
      return some (0, some 1)
    else return none
  | '\x7b' :: cs =>
    if !extended then return none
    else if r.style.strict || (interval? false cs).isSome then return some (← interval false cs)
    else return none
  | '\\' :: '+' :: _ =>
    if extended then return none
    else
      take 2
      return some (1, none)
  | '\\' :: '?' :: _ =>
    if extended then return none
    else
      take 2
      return some (0, some 1)
  | '\\' :: '\x7b' :: cs =>
    if extended then return none else return some (← interval true cs)
  | _ => return none

/-- An expression with the repetitions that follow it; `fuel` bounds their number. -/
def withRepetitions : Nat → Regex → Reading Regex
  | 0, x => return x
  | fuel + 1, x => do
    match ← repetition with
    | some (least, most) =>
      let r ← get
      if r.style.strict && !r.style.extended && repeatsAgain r.rest then fail .nothingToRepeat
      withRepetitions fuel (.repeated x least most)
    | none => return x
where
  repeatsAgain : Text → Bool
    | '*' :: _ => true
    | '\\' :: '\x7b' :: _ => true
    | _ => false

/-- An anchor, which nothing can repeat. -/
def anchored (x : Regex) (repeats : Regex → Reading Regex) : Reading Regex := do
  let r ← get
  if r.style.strict && r.style.extended then
    if r.rest.head?.any "*+?\x7b".toList.contains then fail .nothingToRepeat
    return x
  else repeats x

mutual

/-- Alternatives up to the end of a group or of the text. -/
def alternatives : Nat → Reading Regex
  | 0 => return .empty
  | fuel + 1 => do
    let x ← branch fuel true .empty
    let r ← get
    match r.rest, r.style.extended with
    | '|' :: _, true =>
      take 1
      return .either x (← alternatives fuel)
    | '\\' :: '|' :: _, false =>
      take 2
      return .either x (← alternatives fuel)
    | _, _ => return x

/-- Expressions that follow each other; `first` tells that none was read yet. -/
def branch : Nat → Bool → Regex → Reading Regex
  | 0, _, out => return out
  | fuel + 1, first, out => do
    let r ← get
    let extended := r.style.extended
    let go (first : Bool) (x : Regex) : Reading Regex := branch fuel first (andThen out x)
    let simple (x : Regex) : Reading Regex := do go false (← withRepetitions fuel x)
    match r.rest with
    | [] => return out
    | '\\' :: [] =>
      if r.style.plain then
        take 1
        simple (literal '\\')
      else fail .trailingBackslash
    | '\\' :: c :: cs =>
      if !extended && (c = '|' || (c = ')' && r.depth > 0)) then return out
      else if !extended && c = ')' then fail .extraGroup
      else if !extended && c = '(' then
        set { r with rest := cs }
        simple (← groupBody fuel)
      else if !extended && c = '\x7b' then
        if first then fail .nothingToRepeat else
          take 2
          simple (literal '\x7b')
      else if c.isDigit && c != '0' && !r.style.plain then
        let n := c.toNat - 48
        if r.closed.contains n then
          take 2
          simple (.same n)
        else fail .badReference
      else if r.style.plain then
        if Char.isDigit c && c < '8' then
          let (d, rest) := octal (c :: cs)
          set { r with rest }
          simple (literal d)
        else
          take 2
          simple (literal ((escaped? c).getD c))
      else
        take 2
        match special? c with
        | some (.anchor a) => do
          let x ← anchored (.anchor a) fun x => return x
          go false x
        | some x => simple x
        | none =>
          let d := if c = 'n' then some '\n' else if r.style.letters then escaped? c else none
          simple (literal (d.getD c))
    | '[' :: cs =>
      set { r with rest := cs }
      simple (← bracket)
    | '.' :: _ =>
      take 1
      simple anyChar
    | '*' :: _ =>
      if first && !extended then
        take 1
        simple (literal '*')
      else if first then
        if r.style.plain || r.style.strict then fail .nothingToRepeat
        take 1
        go true .empty
      else
        take 1
        simple (literal '*')
    | '^' :: cs =>
      if extended then
        take 1
        let x ← anchored (.anchor .lineStart) (withRepetitions fuel)
        go false x
      else if first then
        set { r with rest := cs }
        go true (.anchor .lineStart)
      else
        take 1
        simple (literal '^')
    | '$' :: cs =>
      if extended then
        take 1
        let x ← anchored (.anchor .lineEnd) (withRepetitions fuel)
        go false x
      else if endsBasic r.depth cs then
        take 1
        go false (.anchor .lineEnd)
      else
        take 1
        simple (literal '$')
    | c :: cs =>
      if extended && (c = '|' || (c = ')' && r.depth > 0)) then return out
      else if extended && c = ')' && !r.style.plain && !r.style.loose then fail .extraGroup
      else if extended && c = '(' then
        set { r with rest := cs }
        simple (← groupBody fuel)
      else if extended && first && (c = '+' || c = '?') then fail .nothingToRepeat
      else if extended && first && r.style.strict && c = '\x7b' then fail .nothingToRepeat
      else
        take 1
        simple (literal c)

/-- The inside of a group and its end. -/
def groupBody : Nat → Reading Regex
  | 0 => return .empty
  | fuel + 1 => do
    let n := (← get).count + 1
    modify fun r => { r with count := n, depth := r.depth + 1 }
    let x ← alternatives fuel
    let r ← get
    let rest? : Option Text := match r.rest, r.style.extended with
      | ')' :: cs, true => some cs
      | '\\' :: ')' :: cs, false => some cs
      | _, _ => none
    match rest? with
    | some rest =>
      set { r with rest, depth := r.depth - 1, closed := n :: r.closed }
      return .group n x
    | none => fail .openGroup

end

/-- Reads an expression. -/
def parse (style : Style) (cs : Text) : Except Fault Regex := do
  let (x, _) ← StateT.run (alternatives (4 * cs.length + 8)) { rest := cs, style }
  return x

end CellRunner.Regex
