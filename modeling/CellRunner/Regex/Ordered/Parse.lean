import CellRunner.Regex.Ordered.Basic

/-!
# Reading ordered expressions

Letters after a backslash stand for classes of characters and for places, and a question mark
after an opening parenthesis tells what a group is for.
-/

set_option autoImplicit false

namespace CellRunner.Ordered

open Shell (Text)

inductive Fault where
  | openGroup
  | extraGroup
  | openClass
  | openComment
  | openCall
  | trailingBackslash
  | trailingControl
  | nothingToRepeat
  | badOrder
  | tooMany
  | badRange
  | badClassRange
  | badClassName
  | strayClass
  | collating
  | noSuchGroup
  | badOption
  | badEscape
  | unsupported
  | notFixed
  | nameNeeded
  | digitName
  | openName
  | sameName
  | badVerb
  | badHexadecimal
  | badOctal
  | manyBranches
  | badCondition
  deriving DecidableEq, Repr

def Fault.text : Fault → String
  | .openGroup => "missing closing parenthesis"
  | .extraGroup => "unmatched closing parenthesis"
  | .openClass => "missing terminating ] for character class"
  | .openComment => "missing ) after (?# comment"
  | .openCall => "(?R (recursive pattern call) must be followed by a closing parenthesis"
  | .trailingBackslash => "\\ at end of pattern"
  | .trailingControl => "\\c at end of pattern"
  | .nothingToRepeat => "quantifier does not follow a repeatable item"
  | .badOrder => "numbers out of order in \x7b\x7d quantifier"
  | .tooMany => "number too big in \x7b\x7d quantifier"
  | .badRange => "range out of order in character class"
  | .badClassRange => "invalid range in character class"
  | .badClassName => "unknown POSIX class name"
  | .strayClass => "POSIX named classes are supported only within a class"
  | .collating => "POSIX collating elements are not supported"
  | .noSuchGroup => "reference to non-existent subpattern"
  | .badOption => "unrecognized character after (? or (?-"
  | .badEscape => "unrecognized character follows \\"
  | .unsupported => "PCRE2 does not support \\F, \\L, \\l, \\N\x7bname\x7d, \\U, or \\u"
  | .notFixed => "lookbehind assertion is not fixed length"
  | .nameNeeded => "subpattern name expected"
  | .digitName => "subpattern name must start with a non-digit"
  | .openName => "syntax error in subpattern name (missing terminator?)"
  | .sameName =>
    "two named subpatterns have the same name (PCRE2_DUPNAMES not set)"
  | .badVerb => "(*VERB) not recognized or malformed"
  | .badHexadecimal => "non-hex character in \\x\x7b\x7d (closing brace missing?)"
  | .badOctal => "non-octal character in \\o\x7b\x7d (closing brace missing?)"
  | .manyBranches => "conditional subpattern contains more than two branches"
  | .badCondition => "assertion expected after (?( or (?(?C)"

/-- Options that may change inside an expression. -/
structure Flags where
  folds : Bool := false
  hasLines : Bool := false
  dotTakesAll : Bool := false
  /-- whether blanks and comments are left out -/
  isSpaced : Bool := false
  isLazy : Bool := false
  /-- whether plain parentheses make no groups -/
  isBare : Bool := false
  deriving DecidableEq, Repr

structure Reader where
  rest : Text
  flags : Flags := {}
  /-- the number of groups so far -/
  count : Nat := 0
  names : List (Text × Nat) := []
  /-- groups that were named before they need to be there -/
  wanted : List Reference := []
  groups : List (Nat × Ordered) := []

abbrev Reading := StateT Reader (Except Fault)

def openBrace : Char := Char.ofNat 0x7B

def closeBrace : Char := Char.ofNat 0x7D

def look : Reading (Option Char) := return (← get).rest.head?

def skip (n : Nat := 1) : Reading Unit := modify fun s => { s with rest := s.rest.drop n }

/-- Whether a text comes next; if so, it is left behind. -/
def accepts (cs : String) : Reading Bool := do
  if cs.toList.isPrefixOf (← get).rest then
    skip cs.length
    return true
  else return false

def takeWhere (p : Char → Bool) : Reading Text := do
  let s ← get
  let front := s.rest.takeWhile p
  set { s with rest := s.rest.drop front.length }
  return front

def valueIn (base : Nat) (ds : Text) : Nat :=
  ds.foldl (fun n c => n * base + (if c.isDigit then c.toNat - 48 else c.toLower.toNat - 87)) 0

def isHexadecimal (c : Char) : Bool := c.isDigit || ('a' ≤ c.toLower && c.toLower ≤ 'f')

def isOctal (c : Char) : Bool := '0' ≤ c && c ≤ '7'

def charOf (n : Nat) : Char := Char.ofNat (n % 256)

/-- The name up to a mark. -/
def nameUpTo (mark : Char) : Reading Text := do
  let name ← takeWhere isWord
  match ← look with
  | some c =>
    if name.isEmpty then throw .nameNeeded
    if c != mark then throw .openName
    skip
    if name.head?.any Char.isDigit then throw .digitName
    return name
  | none => throw (if name.isEmpty then .nameNeeded else .openName)

/-- A group by its number, which may count from here, or by its name, up to a mark. -/
def referenceUpTo (mark : Char) : Reading Reference := do
  let sign ← match ← look with
    | some '-' => do
      skip
      pure (some false)
    | some '+' => do
      skip
      pure (some true)
    | _ => pure none
  let ds ← takeWhere Char.isDigit
  if ds.isEmpty then
    if sign.isSome then throw .noSuchGroup
    let name ← nameUpTo mark
    return .name name
  else
    if (← look) != some mark then throw .openName
    skip
    let n := valueIn 10 ds
    let count := (← get).count
    match sign with
    | none => return .number n
    | some true => return .number (count + n)
    | some false =>
      if n = 0 || n > count then throw .noSuchGroup
      return .number (count + 1 - n)

/-- Notes that a group has to be there. -/
def want (r : Reference) : Reading Unit := modify fun s => { s with wanted := r :: s.wanted }

/-! ### Characters -/

/-- Classes of characters by their letters. -/
def class? : Char → Option Item
  | 'd' => some (.named false "digit")
  | 'D' => some (.named true "digit")
  | 's' => some (.named false "space")
  | 'S' => some (.named true "space")
  | 'w' => some (.named false "word")
  | 'W' => some (.named true "word")
  | 'h' => some (.named false "wide")
  | 'H' => some (.named true "wide")
  | 'v' => some (.named false "tall")
  | 'V' => some (.named true "tall")
  | _ => none

/-- Characters that letters after a backslash stand for. -/
def letter? : Char → Option Char
  | 'a' => some '\x07'
  | 'e' => some '\x1b'
  | 'f' => some '\x0c'
  | 'n' => some '\n'
  | 'r' => some '\r'
  | 't' => some '\t'
  | _ => none

/-- The character that a letter or digits after a backslash stand for, when the letter was left
behind. -/
def escaped (c : Char) : Reading Char := do
  match letter? c with
  | some d => return d
  | none =>
    match c with
    | 'x' =>
      if (← look) == some openBrace then
        skip
        let ds ← takeWhere isHexadecimal
        if ds.isEmpty || (← look) != some closeBrace then throw .badHexadecimal
        skip
        return charOf (valueIn 16 ds)
      else
        let ds := ((← get).rest.takeWhile isHexadecimal).take 2
        skip ds.length
        return charOf (valueIn 16 ds)
    | 'o' =>
      if (← look) != some openBrace then throw .badOctal
      skip
      let ds ← takeWhere isOctal
      if ds.isEmpty || (← look) != some closeBrace then throw .badOctal
      skip
      return charOf (valueIn 8 ds)
    | 'c' =>
      match ← look with
      | none => throw .trailingControl
      | some d =>
        skip
        return Char.ofNat (d.toUpper.toNat ^^^ 64)
    | c =>
      if isOctal c then
        let ds := ((← get).rest.takeWhile isOctal).take 2
        skip ds.length
        return charOf (valueIn 8 (c :: ds))
      else if c = 'F' || c = 'L' || c = 'l' || c = 'U' || c = 'u' then throw .unsupported
      else if c.isAlphanum then throw .badEscape
      else return c

/-- The name of a class between `[:` and `:]`, and what follows. -/
def classNameAt (mark : Char) (cs : Text) : Option (Text × Text) :=
  let name := cs.takeWhile fun c => c.isAlpha || c = '^'
  match cs.drop name.length with
  | a :: ']' :: rest => if a = mark then some (name, rest) else none
  | _ => none

def classNames : List String :=
  ["alpha", "digit", "alnum", "upper", "lower", "space", "blank", "punct", "print", "graph",
    "cntrl", "xdigit", "word", "ascii"]

/-- A member of a class: some characters, or one that may begin a range. -/
inductive Member where
  | items (i : List Item)
  | char (c : Char)

/-- One member of a class. -/
def member : Reading Member := do
  match (← get).rest with
  | [] => throw .openClass
  | '[' :: ':' :: cs =>
    match classNameAt ':' cs with
    | some (name, rest) =>
      let (negated, name) := match name with
        | '^' :: name => (true, name)
        | name => (false, name)
      let name := String.ofList name
      if !classNames.contains name then throw .badClassName
      modify fun s => { s with rest }
      return .items [.named negated name]
    | none =>
      skip
      return .char '['
  | '[' :: c :: cs =>
    if (c = '.' || c = '=') && (classNameAt c cs).isSome then throw .collating
    skip
    return .char '['
  | '\\' :: c :: _ =>
    skip 2
    match class? c with
    | some i => return .items [i]
    | none =>
      if c = 'b' then return .char '\x08'
      else if c = 'N' || c = 'R' || c = 'X' then throw .badEscape
      else return .char (← escaped c)
  | '\\' :: [] => throw .trailingBackslash
  | c :: _ =>
    skip
    return .char c

/-- The members of a class up to the closing bracket; `fuel` bounds their number. -/
def members : Nat → Bool → List Item → Reading (List Item)
  | 0, _, _ => throw .openClass
  | fuel + 1, isFirst, out => do
    match (← get).rest with
    | [] => throw .openClass
    | ']' :: _ =>
      if isFirst then more fuel out
      else
        skip
        return out.reverse
    | '\\' :: 'E' :: _ =>
      skip 2
      members fuel isFirst out
    | '\\' :: 'Q' :: rest =>
      let (inner, after) := untilEnd (rest.length + 1) rest
      modify fun s => { s with rest := after }
      members fuel false ((inner.map fun c => Item.range c c).reverse ++ out)
    | _ => more fuel out
where
  /-- The text up to `\E`, and what follows. -/
  untilEnd : Nat → Text → Text × Text
    | 0, cs => ([], cs)
    | _ + 1, [] => ([], [])
    | _ + 1, '\\' :: 'E' :: rest => ([], rest)
    | fuel + 1, c :: rest =>
      let (inner, after) := untilEnd fuel rest
      (c :: inner, after)
  more (fuel : Nat) (out : List Item) : Reading (List Item) := do
    match ← member with
    | .items is =>
      match (← get).rest with
      | '-' :: c :: _ => if c != ']' then throw .badClassRange
      | _ => pure ()
      members fuel false (is.reverse ++ out)
    | .char a =>
      match (← get).rest with
      | '-' :: c :: _ =>
        if c = ']' then members fuel false (.range a a :: out)
        else
          skip
          match ← member with
          | .items _ => throw .badClassRange
          | .char b =>
            if b < a then throw .badRange
            members fuel false (.range a b :: out)
      | _ => members fuel false (.range a a :: out)

/-! ### Expressions -/

/-- The repetition that follows, if there is one: how often at least and at most. -/
def repetitionAhead : Reading (Option (Nat × Option Nat)) := do
  match (← get).rest with
  | '*' :: _ =>
    skip
    return some (0, none)
  | '+' :: _ =>
    skip
    return some (1, none)
  | '?' :: _ =>
    skip
    return some (0, some 1)
  | c :: cs =>
    if c != openBrace then return none
    let low := cs.takeWhile Char.isDigit
    let after := cs.drop low.length
    if low.isEmpty then return none
    let size (ds : Text) : Reading Nat := do
      if valueIn 10 ds > 65535 then throw .tooMany
      return valueIn 10 ds
    match after with
    | ',' :: more =>
      let high := more.takeWhile Char.isDigit
      if (more.drop high.length).head? != some closeBrace then return none
      skip (low.length + high.length + 3)
      let a ← size low
      if high.isEmpty then return some (a, none)
      let b ← size high
      if b < a then throw .badOrder
      return some (a, some b)
    | d :: _ =>
      if d != closeBrace then return none
      skip (low.length + 2)
      let a ← size low
      return some (a, some a)
    | [] => return none
  | [] => return none

/-- Leaves blanks and comments behind, where they have no meaning. -/
def pastBlanks : Nat → Reading Unit
  | 0 => return ()
  | fuel + 1 => do
    let s ← get
    match s.rest with
    | '(' :: '?' :: '#' :: rest =>
      let after := rest.dropWhile (· != ')')
      if after.isEmpty then throw .openComment
      set { s with rest := after.drop 1 }
      pastBlanks fuel
    | c :: rest =>
      if s.flags.isSpaced && (c = ' ' || ('\t' ≤ c && c ≤ '\r')) then
        set { s with rest }
        pastBlanks fuel
      else if s.flags.isSpaced && c = '#' then
        set { s with rest := (rest.dropWhile (· != '\n')).drop 1 }
        pastBlanks fuel
    | [] => return ()

def room (s : Reader) : Nat := s.rest.length + 1

def chars (folds : Bool) (cs : Text) : Ordered :=
  cs.foldr (fun c r => match r with
    | .empty => .oneOf folds false [.range c c]
    | r => .sequence (.oneOf folds false [.range c c]) r) .empty

/-- Where an expression stands, or what an option does to flags. -/
def withFlag (on : Bool) (c : Char) (f : Flags) : Option Flags :=
  match c with
  | 'i' => some { f with folds := on }
  | 'm' => some { f with hasLines := on }
  | 's' => some { f with dotTakesAll := on }
  | 'x' => some { f with isSpaced := on }
  | 'U' => some { f with isLazy := on }
  | 'n' => some { f with isBare := on }
  | 'J' => some f
  | _ => none

/-- Reads options up to a colon or the closing parenthesis, which the value is. -/
def options : Nat → Bool → Reading Char
  | 0, _ => throw .openGroup
  | fuel + 1, on => do
    let s ← get
    match s.rest with
    | [] => throw .openGroup
    | c :: rest =>
      set { s with rest }
      if c = ':' || c = ')' then return c
      else if c = '-' then options fuel false
      else if c = '^' then
        set { s with
              rest, flags := { s.flags with
                folds := false, hasLines := false, dotTakesAll := false, isSpaced := false
                isBare := false } }
        options fuel on
      else
        match withFlag on c s.flags with
        | some flags =>
          set { s with rest, flags }
          options fuel on
        | none => throw .badOption

/-- The alternatives of an expression. -/
def alternatives : Ordered → List Ordered
  | .either a b => a :: alternatives b
  | r => [r]

/-- What a word after an asterisk does. -/
def verb? (name : String) : Option Ordered :=
  match name with
  | "ACCEPT" => some .accept
  | "FAIL" => some .fail
  | "F" => some .fail
  | "COMMIT" => some (.cut .all)
  | "PRUNE" => some (.cut .here)
  | "SKIP" => some (.cut .skip)
  | "THEN" => some (.cut .here)
  | "UTF" => some .empty
  | "UCP" => some .empty
  | "CR" => some .empty
  | "LF" => some .empty
  | "CRLF" => some .empty
  | "ANY" => some .empty
  | "ANYCRLF" => some .empty
  | _ => none

def closeGroup : Reading Unit := do
  if (← look) != some ')' then throw .openGroup
  skip

/-- Does `body` with flags that hold inside only. -/
def inside {α : Type} (body : Reading α) : Reading α := do
  let flags := (← get).flags
  let a ← body
  modify fun s => { s with flags }
  return a

/-- A group with the next number, and a name if it has one. -/
def numbered (name : Option Text) (body : Reading Ordered) : Reading Ordered := do
  let n := (← get).count + 1
  modify fun s => { s with count := n }
  if let some name := name then
    if ((← get).names.lookup name).isSome then throw .sameName
    modify fun s => { s with names := (name, n) :: s.names }
  let r ← body
  modify fun s => { s with groups := (n, r) :: s.groups }
  return .group n r

mutual

/-- Alternatives up to a closing parenthesis or the end; `fuel` bounds the size. -/
def alternation : Nat → Reading Ordered
  | 0 => throw .openGroup
  | fuel + 1 => do
    let a ← branch fuel .empty
    if (← look) == some '|' then
      skip
      return .either a (← alternation fuel)
    else return a

/-- Alternatives in each of which the groups begin with the same number; `high` is the greatest
one so far. -/
def resetting : Nat → Nat → Nat → Reading Ordered
  | 0, _, _ => throw .openGroup
  | fuel + 1, first, high => do
    modify fun s => { s with count := first }
    let a ← branch fuel .empty
    let high := max high (← get).count
    if (← look) == some '|' then
      skip
      return .either a (← resetting fuel first high)
    else
      modify fun s => { s with count := high }
      return a

/-- What stands between bars, after `before`. -/
def branch : Nat → Ordered → Reading Ordered
  | 0, _ => throw .openGroup
  | fuel + 1, before => do
    pastBlanks (room (← get))
    match ← look with
    | none => return before
    | some '|' => return before
    | some ')' => return before
    | some _ =>
      let r ← repeatedItem fuel
      branch fuel (match before, r with
        | .empty, r => r
        | before, .empty => before
        | before, r => .sequence before r)

/-- An item and how often it is there. -/
def repeatedItem : Nat → Reading Ordered
  | 0 => throw .openGroup
  | fuel + 1 => do
    if (← repetitionAhead).isSome then throw .nothingToRepeat
    let (r, repeatable) ← item fuel
    if !repeatable then
      return r
    pastBlanks (room (← get))
    match ← repetitionAhead with
    | none => return r
    | some (least, most) =>
      let isLazy := (← get).flags.isLazy
      let hunger : Hunger ← if ← accepts "?" then pure (if isLazy then .greedy else .lazy)
        else if ← accepts "+" then pure .possessive
        else pure (if isLazy then .lazy else .greedy)
      return .repeated r least most hunger

/-- One item, and whether it may be repeated. -/
def item : Nat → Reading (Ordered × Bool)
  | 0 => throw .openGroup
  | fuel + 1 => do
    let s ← get
    let folds := s.flags.folds
    match s.rest with
    | [] => return (.empty, false)
    | '^' :: _ =>
      skip
      return (.edge (if s.flags.hasLines then .lineStart else .textStart), false)
    | '$' :: _ =>
      skip
      return (.edge (if s.flags.hasLines then .lineEnd else .textEnd), false)
    | '.' :: _ =>
      skip
      return (if s.flags.dotTakesAll then .oneOf false true []
        else .oneOf false true [.range '\n' '\n'], true)
    | '[' :: rest =>
      match rest with
      | c :: cs =>
        if (c = ':' || c = '.' || c = '=') && (classNameAt c cs).isSome then throw .strayClass
      | [] => pure ()
      skip
      let negated ← accepts "^"
      let is ← members (2 * room (← get)) true []
      return (.oneOf folds negated is, true)
    | '(' :: '*' :: rest =>
      let name := rest.takeWhile fun c => c.isAlpha
      match rest.drop name.length, verb? (String.ofList name) with
      | ')' :: after, some r =>
        set { s with rest := after }
        return (r, false)
      | ':' :: after, some r =>
        set { s with rest := (after.dropWhile (· != ')')).drop 1 }
        return (r, false)
      | _, _ => throw .badVerb
    | '(' :: '?' :: _ =>
      skip 2
      special fuel
    | '(' :: _ =>
      skip
      let body : Reading Ordered := inside do
        let r ← alternation fuel
        closeGroup
        return r
      if s.flags.isBare then return (← body, true) else return (← numbered none body, true)
    | '\\' :: [] => throw .trailingBackslash
    | '\\' :: c :: _ =>
      skip 2
      escape c
    | c :: _ =>
      skip
      return (.oneOf folds false [.range c c], true)
where
  /-- What a backslash and a character stand for. -/
  escape (c : Char) : Reading (Ordered × Bool) := do
    let s ← get
    let folds := s.flags.folds
    match class? c with
    | some i => return (.oneOf false false [i], true)
    | none =>
      match c with
      | 'b' => return (.edge .wordEdge, false)
      | 'B' => return (.edge .elsewhere, false)
      | 'A' => return (.edge .textStart, false)
      | 'Z' => return (.edge .textEnd, false)
      | 'z' => return (.edge .veryEnd, false)
      | 'G' => return (.edge .searchStart, false)
      | 'K' => return (.begin, false)
      | 'E' => return (.empty, false)
      | 'Q' =>
        let (inner, after) := members.untilEnd (s.rest.length + 1) s.rest
        let spelled := inner.flatMap fun c => if c.isAlphanum then [c] else ['\\', c]
        set { s with rest := spelled ++ after }
        return (.empty, false)
      | 'N' =>
        if s.rest.head? = some openBrace then throw .unsupported
        return (.oneOf false true [.range '\n' '\n'], true)
      | 'R' =>
        return (.once (.either (chars false ['\r', '\n']) (.oneOf false false [.named false "tall"])),
          true)
      | 'X' => return (.oneOf false true [], true)
      | 'p' => property false
      | 'P' => property true
      | 'g' =>
        match s.rest with
        | '<' :: _ =>
          skip
          let r ← referenceUpTo '>'
          want r
          return (.call r, true)
        | '\'' :: _ =>
          skip
          let r ← referenceUpTo '\''
          want r
          return (.call r, true)
        | d :: _ =>
          if d = openBrace then
            skip
            back folds (← referenceUpTo closeBrace)
          else
            let isBack ← accepts "-"
            let ds ← takeWhere Char.isDigit
            if ds.isEmpty then throw .noSuchGroup
            let n := valueIn 10 ds
            if isBack && n > s.count then throw .noSuchGroup
            back folds (.number (if isBack then s.count + 1 - n else n))
        | [] => throw .noSuchGroup
      | 'k' =>
        match s.rest with
        | '<' :: _ =>
          skip
          back folds (.name (← nameUpTo '>'))
        | '\'' :: _ =>
          skip
          back folds (.name (← nameUpTo '\''))
        | d :: _ =>
          if d != openBrace then throw .nameNeeded
          skip
          back folds (.name (← nameUpTo closeBrace))
        | [] => throw .nameNeeded
      | c =>
        if c.isDigit && c != '0' then
          let ds := c :: s.rest.takeWhile Char.isDigit
          let n := valueIn 10 ds
          if n < 10 || n ≤ s.count || c = '8' || c = '9' then
            skip (ds.length - 1)
            back folds (.number n)
          else
            let d ← escaped c
            return (.oneOf folds false [.range d d], true)
        else
          let d ← escaped c
          return (.oneOf folds false [.range d d], true)
  back (folds : Bool) (r : Reference) : Reading (Ordered × Bool) := do
    want r
    return (.same folds r, true)
  /-- A property of characters by its name. -/
  property (negated : Bool) : Reading (Ordered × Bool) := do
    let name ← match (← get).rest with
      | [] => throw .badEscape
      | c :: _ =>
        skip
        if c = openBrace then
          let name ← takeWhere (· != closeBrace)
          skip
          pure (String.ofList name)
        else pure (toString c)
    let (negated, name) := match name.toList with
      | '^' :: cs => (!negated, String.ofList cs)
      | _ => (negated, name)
    let kind := match name with
      | "L" => some "alpha"
      | "Lu" => some "upper"
      | "Ll" => some "lower"
      | "N" => some "digit"
      | "Nd" => some "digit"
      | "P" => some "punct"
      | "Z" => some "blank"
      | "Zs" => some "blank"
      | "Xan" => some "alnum"
      | "Xwd" => some "word"
      | "Xsp" => some "space"
      | _ => none
    match kind with
    | some kind => return (.oneOf false false [.named negated kind], true)
    | none => throw .badEscape

/-- What follows an opening parenthesis and a question mark. -/
def special : Nat → Reading (Ordered × Bool)
  | 0 => throw .openGroup
  | fuel + 1 => do
    let s ← get
    let whole : Reading Ordered := inside do
      let r ← alternation fuel
      closeGroup
      return r
    let call (r : Reference) : Reading (Ordered × Bool) := do
      want r
      return (.call r, true)
    let behind (negated : Bool) : Reading (Ordered × Bool) := do
      let r ← whole
      match r.widths with
      | some ws => return (.behind negated ws r, true)
      | none => throw .notFixed
    match s.rest with
    | [] => throw .openGroup
    | ':' :: _ =>
      skip
      return (← whole, true)
    | '|' :: _ =>
      skip
      let first := s.count
      let r ← inside do
        let r ← resetting fuel first first
        closeGroup
        return r
      return (r, true)
    | '>' :: _ =>
      skip
      return (.once (← whole), true)
    | '=' :: _ =>
      skip
      return (.ahead false (← whole), true)
    | '!' :: _ =>
      skip
      return (.ahead true (← whole), true)
    | '<' :: '=' :: _ =>
      skip 2
      behind false
    | '<' :: '!' :: _ =>
      skip 2
      behind true
    | '<' :: _ =>
      skip
      let name ← nameUpTo '>'
      return (← numbered (some name) whole, true)
    | '\'' :: _ =>
      skip
      let name ← nameUpTo '\''
      return (← numbered (some name) whole, true)
    | 'P' :: '<' :: _ =>
      skip 2
      let name ← nameUpTo '>'
      return (← numbered (some name) whole, true)
    | 'P' :: '=' :: _ =>
      skip 2
      let r : Reference := .name (← nameUpTo ')')
      want r
      return (.same s.flags.folds r, true)
    | 'P' :: '>' :: _ =>
      skip 2
      call (.name (← nameUpTo ')'))
    | '&' :: _ =>
      skip
      call (.name (← nameUpTo ')'))
    | 'R' :: rest =>
      skip
      if rest.head? != some ')' then throw .openCall
      skip
      return (.call (.number 0), true)
    | '(' :: rest =>
      skip
      condition fuel rest
    | c :: d :: _ =>
      if c.isDigit || ((c = '+' || c = '-') && d.isDigit) then call (← referenceUpTo ')')
      else
        let before := s.flags
        let ended ← options (room s) true
        if ended = ')' then return (.empty, false)
        let r ← alternation fuel
        closeGroup
        modify fun t => { t with flags := before }
        return (r, true)
    | _ =>
      let _ ← options (room s) true
      return (.empty, false)

/-- A condition and what depends on it. -/
def condition : Nat → Text → Reading (Ordered × Bool)
  | 0, _ => throw .openGroup
  | fuel + 1, rest => do
    let branches : Reading (Ordered × Ordered) := inside do
      let r ← alternation fuel
      closeGroup
      match alternatives r with
      | [yes] => return (yes, .empty)
      | [yes, no] => return (yes, no)
      | _ => throw .manyBranches
    match rest with
    | '?' :: _ =>
      skip
      let (test, _) ← special fuel
      match test with
      | .ahead _ _ => pure ()
      | .behind _ _ _ => pure ()
      | _ => throw .badCondition
      let (yes, no) ← branches
      return (.ifFound test yes no, true)
    | '<' :: _ =>
      skip
      let name ← nameUpTo '>'
      if (← look) != some ')' then throw .openGroup
      skip
      held (.name name) branches
    | '\'' :: _ =>
      skip
      let name ← nameUpTo '\''
      if (← look) != some ')' then throw .openGroup
      skip
      held (.name name) branches
    | _ =>
      if "DEFINE)".toList.isPrefixOf rest then
        skip 7
        let (_, _) ← branches
        return (.empty, true)
      else held (← referenceUpTo ')') branches
where
  held (r : Reference) (branches : Reading (Ordered × Ordered)) : Reading (Ordered × Bool) := do
    want r
    let (yes, no) ← branches
    return (.ifHeld r yes no, true)

end

/-- Whether a group that is wanted is there. -/
def isThere (s : Reader) : Reference → Bool
  | .number n => n ≤ s.count
  | .name cs => (s.names.lookup cs).isSome

/-- Reads a whole expression. -/
def parse (folds : Bool) (cs : Text) : Except Fault Complete := do
  let reader : Reading Ordered := do
    let r ← alternation (4 * cs.length + 8)
    if (← look).isSome then throw .extraGroup
    return r
  let (whole, s) ← StateT.run reader { rest := cs, flags := { folds } }
  if s.wanted.all (isThere s) then return { whole, groups := s.groups, names := s.names }
  else throw .noSuchGroup

/-- An expression that describes whole texts only. -/
def Complete.wholeOnly (c : Complete) : Complete :=
  { c with whole := .sequence (.edge .textStart) (.sequence c.whole (.edge .textEnd)) }

/-- An expression that describes whole words only. -/
def Complete.wordsOnly (c : Complete) : Complete :=
  let word : Ordered := .oneOf false false [.named false "word"]
  { c with
    whole := .sequence (.behind true [1] word) (.sequence c.whole (.ahead true word)) }

end CellRunner.Ordered
