import CellRunner.Regex.Parse
import CellRunner.Tool.Amount

/-!
# Scripts of an editor for streams

A script is a row of commands, each for all lines or for those that an address chooses. The
places that branches and blocks lead to are numbers of commands.
-/

set_option autoImplicit false

namespace CellRunner.Tool.Editing

open Shell (Text)

/-- An expression to look for; none for the one that was used last. -/
structure Pattern where
  regex : Option Regex
  manner : Regex.Manner := {}
  deriving DecidableEq, Repr

inductive Address where
  /-- before the first line -/
  | zero
  | line (n : Nat)
  | step (first step : Nat)
  | last
  | pattern (p : Pattern)
  deriving DecidableEq, Repr

/-- Where a range ends. -/
inductive Until where
  | address (a : Address)
  /-- some lines later -/
  | plus (n : Nat)
  /-- at a line whose number is a multiple -/
  | multiple (n : Nat)
  deriving DecidableEq, Repr

structure Selection where
  first : Option Address := none
  final : Option Until := none
  negated : Bool := false
  deriving DecidableEq, Repr

inductive Recase where
  | keep
  | upper
  | lower
  deriving DecidableEq, Repr

/-- A piece of what is put in place of a match. -/
inductive Piece where
  | text (cs : Text)
  | group (n : Nat)
  | recase (r : Recase)
  /-- changes the next character only -/
  | once (r : Recase)
  deriving DecidableEq, Repr

structure Substitution where
  pattern : Pattern
  pieces : List Piece
  all : Bool := false
  /-- the match from which on texts are replaced -/
  first : Nat := 1
  prints : Nat := 0
  runs : Bool := false
  file : Option Text := none
  deriving DecidableEq, Repr

inductive Action where
  /-- commands up to another one, which are skipped for lines that were not chosen -/
  | block (stop : Nat)
  | nothing
  | lineNumber
  | append (cs : Text)
  | insert (cs : Text)
  | change (cs : Text)
  | branch (label : Text)
  | branchIf (label : Text)
  | branchUnless (label : Text)
  | delete
  | deleteFirst
  | fileName
  | get
  | getAppended
  | hold
  | holdAppended
  | exchange
  | list (width : Option Nat)
  | next
  | nextAppended
  | print
  | printFirst
  | quit (code : Nat)
  | quitSilently (code : Nat)
  | read (path : Text)
  | readLine (path : Text)
  | substitute (s : Substitution)
  | write (path : Text)
  | writeFirst (path : Text)
  | translate (pairs : List (Char × Char))
  | clear
  /-- runs a command, or the text of the line as one -/
  | execute (command : Text)
  deriving DecidableEq, Repr

structure Command where
  selection : Selection
  action : Action
  deriving DecidableEq, Repr

structure Script where
  commands : Array Command
  labels : List (Text × Nat)
  silent : Bool := false

/-! ### Reading scripts -/

/-- What is wrong with a script; a place is counted in characters. -/
inductive Fault where
  | at_ (expression place : Nat) (message : Text)
  | inFile (path : Text) (line : Nat) (message : Text)
  | noLabel (label : Text)

def Fault.text : Fault → Text
  | .at_ e n m => "-e expression #".toList ++ ofNat e ++ ", char ".toList ++ ofNat n ++ ": ".toList ++ m
  | .inFile path n m => "file ".toList ++ path ++ " line ".toList ++ ofNat n ++ ": ".toList ++ m
  | .noLabel l => "can't find label for jump to ".toList ++ Char.ofNat 0x60 :: l ++ ['\'']

/-- A part of a script that is given in one argument or one file. -/
structure Source where
  text : Text
  /-- the number of the argument -/
  expression : Nat
  file : Option Text

structure Reader where
  rest : Text
  size : Nat
  source : Source
  extended : Bool
  silent : Bool := false
  commands : Array Command := #[]
  labels : List (Text × Nat) := []
  /-- blocks that are open -/
  opened : List Nat := []
  /-- whether the text of the last command is still to come -/
  owes : Bool := false

abbrev Reading := StateT Reader (Except Fault)

def message (quoted : String) (before after : String := "") : Text :=
  before.toList ++ Char.ofNat 0x60 :: quoted.toList ++ '\'' :: after.toList

def failAt {α : Type} (place : Nat) (m : Text) : Reading α := do
  let r ← get
  match r.source.file with
  | some path =>
    let read := r.source.text.take place
    throw (.inFile path (read.count '\n' + 1) m)
  | none => throw (.at_ r.source.expression place m)

def fail {α : Type} (m : Text) : Reading α := do
  let r ← get
  failAt (r.size - r.rest.length) m

def next? : Reading (Option Char) := do
  let r ← get
  match r.rest with
  | c :: rest =>
    set { r with rest }
    return some c
  | [] => return none

def peek? : Reading (Option Char) := return (← get).rest.head?

def skipWhile (p : Char → Bool) : Reading Unit :=
  modify fun r => { r with rest := r.rest.dropWhile p }

def isSpace (c : Char) : Bool := c = ' ' || ('\t' ≤ c && c ≤ '\r')

def isBlank (c : Char) : Bool := isSpace c && c != '\n'

def digits : Reading Text := do
  let ds := (← get).rest.takeWhile Char.isDigit
  modify fun r => { r with rest := r.rest.drop ds.length }
  return ds

def number : Reading Nat := return Shell.Format.decimal (← digits)

/-- What stands in brackets up to the closing one, backwards, and what follows it. -/
def bracketed : Nat → Text → Text → Option (Text × Text)
  | 0, _, _ => none
  | fuel + 1, out, cs =>
    match cs with
    | [] => none
    | ']' :: rest => some (']' :: out, rest)
    | '[' :: c :: rest =>
      if c = ':' || c = '.' || c = '=' then
        match classEnd c rest with
        | some n =>
          bracketed fuel ((rest.take n).reverse ++ c :: '[' :: out) (rest.drop n)
        | none => bracketed fuel ('[' :: out) (c :: rest)
      else bracketed fuel ('[' :: out) (c :: rest)
    | c :: rest => bracketed fuel (c :: out) rest
where
  /-- How many characters come up to the end of a class in brackets. -/
  classEnd (mark : Char) : Text → Option Nat
    | c :: cs =>
      if c = mark && cs.head? = some ']' then some 2 else (classEnd mark cs).map (· + 1)
    | [] => none

/-- As `bracketed`, after the opening bracket. -/
def inBrackets (fuel : Nat) (out cs : Text) : Option (Text × Text) :=
  match cs with
  | '^' :: ']' :: rest => bracketed fuel (']' :: '^' :: '[' :: out) rest
  | '^' :: rest => bracketed fuel ('^' :: '[' :: out) rest
  | ']' :: rest => bracketed fuel (']' :: '[' :: out) rest
  | rest => bracketed fuel ('[' :: out) rest

/-- A text up to a mark. In it a mark after a backslash stands for itself, and in an expression
brackets hide marks. -/
def delimitedFrom (mark : Char) (isRegex : Bool) : Nat → Text → Text → Option (Text × Text × Text)
  | 0, _, rest => some ([], [], rest)
  | _ + 1, _, [] => none
  | fuel + 1, out, c :: cs =>
    if c = '\n' then some ([], ['\n'], c :: cs)
    else if c = mark then some (out.reverse, [], cs)
    else if c = '[' && isRegex then
      match inBrackets fuel out cs with
      | some (out, rest) => delimitedFrom mark isRegex fuel out rest
      | none => none
    else if c = '\\' then
      match cs with
      | [] => none
      | d :: rest =>
        if d = mark then delimitedFrom mark isRegex fuel (d :: out) rest
        else delimitedFrom mark isRegex fuel (d :: '\\' :: out) rest
    else delimitedFrom mark isRegex fuel (c :: out) cs

/-- A text up to a mark, or nothing if the mark is missing. -/
def delimited (mark : Char) (isRegex : Bool) : Reading (Option Text) := do
  let r ← get
  match delimitedFrom mark isRegex (r.rest.length + 1) [] r.rest with
  | some (cs, [], rest) =>
    set { r with rest }
    return some cs
  | some (_, _, rest) =>
    set { r with rest }
    return none
  | none =>
    set { r with rest := [] }
    return none

/-- A numbered escape: decimal, octal or hexadecimal after a letter. -/
def numberEscape? : Text → Option (Char × Text)
  | 'd' :: rest =>
    let ds := (rest.take 3).takeWhile Char.isDigit
    if ds.length = 3 then some (Shell.Format.byte (Shell.Format.decimal ds), rest.drop 3) else none
  | 'o' :: rest =>
    let ds := (rest.take 3).takeWhile Shell.Format.isOctal
    if ds.length = 3 then some (Shell.Format.byte (Shell.Format.octalValue ds), rest.drop 3) else none
  | 'x' :: rest =>
    let ds := (rest.take 2).takeWhile Shell.Format.isHexadecimal
    if ds.isEmpty then none
    else some (Shell.Format.byte (Shell.Format.hexadecimalValue ds), rest.drop ds.length)
  | 'c' :: c :: rest => some (Shell.Format.byte (c.toUpper.toNat ^^^ 64), rest)
  | _ => none

def isOperator (c : Char) : Bool := "*.[]^$\\/+?()\x7b\x7d|".toList.contains c

/-- An expression in which numbered escapes are carried out; `fuel` bounds its length. -/
def withNumbers : Nat → Text → Text
  | 0, cs => cs
  | fuel + 1, cs =>
    match cs with
    | '\\' :: rest =>
      match numberEscape? rest with
      | some (c, rest) =>
        (if isOperator c then ['\\', c] else [c]) ++ withNumbers fuel rest
      | none => '\\' :: rest.take 1 ++ withNumbers fuel (rest.drop 1)
    | c :: rest => c :: withNumbers fuel rest
    | [] => []

/-- The expression that a text spells. -/
def pattern (cs : Text) (folds hasLines : Bool) : Reading Pattern := do
  if cs.isEmpty then return { regex := none }
  let r ← get
  match Regex.parse { extended := r.extended, letters := true, strict := true } (withNumbers (cs.length + 1) cs) with
  | .ok regex => return { regex := some regex, manner := { ignoresCase := folds, hasLines } }
  | .error f => fail f.text.toList

/-- The letters after the expression of an address. -/
def patternFlags : Nat → Bool → Bool → Reading (Bool × Bool)
  | 0, folds, ls => return (folds, ls)
  | fuel + 1, folds, ls => do
    skipWhile isBlank
    match ← peek? with
    | some 'I' => do
      let _ ← next?
      patternFlags fuel true ls
    | some 'M' => do
      let _ ← next?
      patternFlags fuel folds true
    | _ => return (folds, ls)

def address? : Reading (Option Address) := do
  match ← peek? with
  | some '$' => do
    let _ ← next?
    return some .last
  | some c =>
    if c.isDigit then
      let n ← number
      skipWhile isBlank
      match ← peek? with
      | some '~' => do
        let _ ← next?
        skipWhile isBlank
        let step ← number
        return some (if step > 0 then .step n step else if n = 0 then .zero else .line n)
      | _ => return some (if n = 0 then .zero else .line n)
    else if c = '/' || c = '\\' then
      let _ ← next?
      let mark ← if c = '/' then pure (some '/') else next?
      match mark with
      | none => fail "unterminated address regex".toList
      | some mark =>
        match ← delimited mark true with
        | none => fail "unterminated address regex".toList
        | some cs => do
          let (folds, ls) ← patternFlags 10 false false
          return some (.pattern (← pattern cs folds ls))
    else if c = '+' || c = '~' then
      let _ ← next?
      if (← number) > 0 then fail "invalid usage of +N or ~N as first address".toList
      return some (.step 0 1)
    else return none
  | none => return none

def until? : Reading (Option Until) := do
  match ← peek? with
  | some '+' => do
    let _ ← next?
    return some (.plus (← number))
  | some '~' => do
    let _ ← next?
    return some (.multiple (← number))
  | _ => return (← address?).map .address

def selection : Reading Selection := do
  let first ← address?
  skipWhile isBlank
  let final ← if first.isSome && (← peek?) = some ',' then do
      let _ ← next?
      skipWhile isBlank
      match ← until? with
      | some u => pure (some u)
      | none => do
        let _ ← next?
        fail (message "," "unexpected ")
    else pure none
  if first = some .zero then
    match final with
    | some (.address (.pattern _)) => pure ()
    | some _ => do
      let _ ← next?
      fail "invalid usage of line address 0".toList
    | none => do
      let _ ← next?
      fail "invalid usage of line address 0".toList
  let final := match final with
    | some (.address .zero) => some (Until.address (.line 0))
    | f => f
  skipWhile isBlank
  let negated := (← peek?) = some '!'
  if negated then
    let _ ← next?
    skipWhile isBlank
    if (← peek?) = some '!' then
      let _ ← next?
      fail (message "!" "multiple " "s")
  return { first, final, negated }

/-- Reads up to the end of a command. -/
def finish : Reading Unit := do
  skipWhile isBlank
  match ← peek? with
  | none => return ()
  | some '}' => return ()
  | some '#' => return ()
  | some c =>
    let _ ← next?
    if c != '\n' && c != ';' then fail "extra characters after command".toList

def label : Reading Text := do
  skipWhile isBlank
  let r ← get
  let cs := r.rest.takeWhile fun c => !isSpace c && !";\x7d#".toList.contains c
  set { r with rest := r.rest.drop cs.length }
  return cs

def restOfLine : Reading Text := do
  skipWhile isBlank
  let r ← get
  let cs := r.rest.takeWhile (· != '\n')
  set { r with rest := r.rest.drop (cs.length + 1) }
  return cs

def fileName : Reading Text := do
  let cs ← restOfLine
  if cs.isEmpty then fail "missing filename in r/R/w/W commands".toList
  return cs

/-- A character that an escape stands for in a text. -/
def textEscape? (c : Char) : Option Char :=
  match c with
  | 'a' => some '\x07'
  | 'f' => some '\x0c'
  | 'n' => some '\n'
  | 'r' => some '\r'
  | 't' => some '\t'
  | 'v' => some '\x0b'
  | _ => none

/-- The text of a command up to the end of the line; a backslash keeps a newline. -/
def textFrom : Nat → Text → Text → Text × Text
  | 0, out, rest => (out.reverse, rest)
  | _ + 1, out, [] => (out.reverse, [])
  | fuel + 1, out, c :: cs =>
    if c = '\n' then (out.reverse, cs)
    else if c = '\\' then
      match cs with
      | [] => (out.reverse, [])
      | d :: rest =>
        match textEscape? d with
        | some e => if d = 'n' then textFrom fuel ('n' :: out) rest else textFrom fuel (e :: out) rest
        | none =>
          match numberEscape? cs with
          | some (e, rest) => textFrom fuel (e :: out) rest
          | none => textFrom fuel (d :: out) rest
    else textFrom fuel (c :: out) cs

/-- What is appended, inserted or put in place of lines. -/
def text : Reading Text := do
  skipWhile isBlank
  match ← peek? with
  | none => fail ("expected \\ after ".toList ++ message "a" ++ ", ".toList ++ message "c" ++
      " or ".toList ++ message "i")
  | some '\\' => do
    let _ ← next?
    let r ← get
    let after := r.rest.dropWhile isBlank
    match after with
    | '\n' :: rest =>
      let (cs, rest) := textFrom (rest.length + 1) [] rest
      set { r with rest }
      return cs ++ ['\n']
    | [] =>
      set { r with rest := [], owes := true }
      return []
    | _ =>
      let (cs, rest) := textFrom (r.rest.length + 1) [] r.rest
      set { r with rest }
      return cs ++ ['\n']
  | some _ => do
    let r ← get
    let (cs, rest) := textFrom (r.rest.length + 1) [] r.rest
    set { r with rest }
    return cs ++ ['\n']

/-- The pieces of what is put in place of a match. -/
def piecesFrom : Nat → Text → Text → List Piece
  | 0, out, _ => [.text out.reverse]
  | _ + 1, out, [] => if out.isEmpty then [] else [.text out.reverse]
  | fuel + 1, out, c :: cs =>
    let flushed (p : Piece) (rest : Text) : List Piece :=
      (if out.isEmpty then [] else [.text out.reverse]) ++ p :: piecesFrom fuel [] rest
    if c = '&' then flushed (.group 0) cs
    else if c = '\\' then
      match cs with
      | [] => piecesFrom fuel out []
      | d :: rest =>
        if d.isDigit then flushed (.group (d.toNat - 48)) rest
        else if d = 'U' then flushed (.recase .upper) rest
        else if d = 'L' then flushed (.recase .lower) rest
        else if d = 'E' then flushed (.recase .keep) rest
        else if d = 'u' then flushed (.once .upper) rest
        else if d = 'l' then flushed (.once .lower) rest
        else
          match textEscape? d with
          | some e => piecesFrom fuel (e :: out) rest
          | none =>
            match numberEscape? cs with
            | some (e, rest) => piecesFrom fuel (e :: out) rest
            | none => piecesFrom fuel (d :: out) rest
    else piecesFrom fuel (c :: out) cs

/-- The letters after a substitution. -/
def substitutionFlags : Nat → Substitution → Bool → Bool → Bool →
    Reading (Substitution × Bool × Bool)
  | 0, s, folds, ls, _ => return (s, folds, ls)
  | fuel + 1, s, folds, ls, numbered => do
    match ← peek? with
    | none => return (s, folds, ls)
    | some c =>
      if c = '}' || c = '#' then return (s, folds, ls)
      let _ ← next?
      match c with
      | '\n' => return (s, folds, ls)
      | ';' => return (s, folds, ls)
      | 'i' => substitutionFlags fuel s true ls numbered
      | 'I' => substitutionFlags fuel s true ls numbered
      | 'm' => substitutionFlags fuel s folds true numbered
      | 'M' => substitutionFlags fuel s folds true numbered
      | 'e' => substitutionFlags fuel { s with runs := true } folds ls numbered
      | 'p' =>
        if s.prints > 0 then fail (message "p" "multiple " " options to " ++ message "s" ++
          " command".toList)
        substitutionFlags fuel { s with prints := 1 } folds ls numbered
      | 'g' =>
        if s.all then fail (message "g" "multiple " " options to " ++ message "s" ++
          " command".toList)
        substitutionFlags fuel { s with all := true } folds ls numbered
      | 'w' =>
        let path ← fileName
        return ({ s with file := some path }, folds, ls)
      | _ =>
        if c.isDigit then
          if numbered then fail ("multiple number options to ".toList ++ message "s" ++
            " command".toList)
          let ds ← digits
          let n := Shell.Format.decimal (c :: ds)
          if n = 0 then fail ("number option to ".toList ++ message "s" ++
            " command may not be zero".toList)
          substitutionFlags fuel { s with first := n } folds ls true
        else if isBlank c then substitutionFlags fuel s folds ls numbered
        else fail (message "s" "unknown option to ")

def highestGroup (ps : List Piece) : Nat :=
  ps.foldl (fun n p => match p with
    | .group k => max n k
    | _ => n) 0

def substitution : Reading Substitution := do
  let unterminated : Reading Substitution := fail (message "s" "unterminated " " command")
  match ← next? with
  | none => unterminated
  | some mark =>
    if mark = '\n' then unterminated
    else
      match ← delimited mark true with
      | none => unterminated
      | some source =>
        match ← delimited mark false with
        | none => unterminated
        | some target => do
          let pieces := piecesFrom (target.length + 1) [] target
          let (s, folds, ls) ← substitutionFlags 1000 { pattern := { regex := none }, pieces }
            false false false
          let p ← pattern source folds ls
          let groups := (p.regex.map Regex.groups).getD 9
          let wanted := highestGroup pieces
          if wanted > groups then
            fail ("invalid reference \\".toList ++ ofNat wanted ++ " on ".toList ++ message "s" ++
              " command's RHS".toList)
          return { s with pattern := p }

/-- The characters of a list in a translation. -/
def listed (mark : Char) : Text → Text
  | '\\' :: c :: cs =>
    if c = 'n' then '\n' :: listed mark cs
    else if c = '\\' then '\\' :: listed mark cs
    else if c = mark then mark :: listed mark cs
    else match textEscape? c with
      | some e => e :: listed mark cs
      | none => '\\' :: c :: listed mark cs
  | c :: cs => c :: listed mark cs
  | [] => []

def translation : Reading (List (Char × Char)) := do
  let unterminated : Reading (List (Char × Char)) := fail (message "y" "unterminated " " command")
  match ← next? with
  | none => unterminated
  | some mark =>
    match ← delimited mark false with
    | none => unterminated
    | some source =>
      match ← delimited mark false with
      | none => unterminated
      | some target => do
        let a := listed mark source
        let b := listed mark target
        if a.length != b.length then
          fail ("strings for ".toList ++ message "y" ++ " command are different lengths".toList)
        finish
        return a.zip b

def optionalNumber : Reading (Option Nat) := do
  skipWhile isBlank
  let ds ← digits
  return if ds.isEmpty then none else some (Shell.Format.decimal ds)

def simple (a : Action) : Reading Action := do
  finish
  return a

def add (s : Selection) (a : Action) : Reading Unit :=
  modify fun r => { r with commands := r.commands.push { selection := s, action := a } }

/-- Whether a script for some version can be read. -/
def isKnown (version : Text) : Bool :=
  if version.isEmpty then true
  else
    let (major, rest) := version.span Char.isDigit
    let minor := (rest.drop 1).takeWhile Char.isDigit
    !major.isEmpty && (Shell.Format.decimal major < 4 ||
      (Shell.Format.decimal major = 4 && Shell.Format.decimal minor ≤ 9))

/-- Reads the command that a letter stands for. -/
def action (c : Char) : Reading Action := do
  match c with
  | '=' => simple .lineNumber
  | 'a' => return .append (← text)
  | 'i' => return .insert (← text)
  | 'c' => return .change (← text)
  | 'b' => do
    let l ← label
    finish
    return .branch l
  | 't' => do
    let l ← label
    finish
    return .branchIf l
  | 'T' => do
    let l ← label
    finish
    return .branchUnless l
  | 'd' => simple .delete
  | 'D' => simple .deleteFirst
  | 'F' => simple .fileName
  | 'g' => simple .get
  | 'G' => simple .getAppended
  | 'h' => simple .hold
  | 'H' => simple .holdAppended
  | 'x' => simple .exchange
  | 'n' => simple .next
  | 'N' => simple .nextAppended
  | 'p' => simple .print
  | 'P' => simple .printFirst
  | 'z' => simple .clear
  | 'l' => do
    let n ← optionalNumber
    finish
    return .list n
  | 'q' => do
    let n ← optionalNumber
    finish
    return .quit (n.getD 0)
  | 'Q' => do
    let n ← optionalNumber
    finish
    return .quitSilently (n.getD 0)
  | 'r' => return .read (← fileName)
  | 'R' => return .readLine (← fileName)
  | 'w' => return .write (← fileName)
  | 'W' => return .writeFirst (← fileName)
  | 's' => return .substitute (← substitution)
  | 'y' => return .translate (← translation)
  | 'v' => do
    let v ← label
    if !isKnown v then fail "expected newer version of sed".toList
    finish
    return .nothing
  | 'e' => return .execute (← restOfLine)
  | c => fail (message (String.singleton c) "unknown command: ")

/-- Reads commands up to the end of a source; `fuel` bounds their number. -/
def commands : Nat → Reading Unit
  | 0 => return ()
  | fuel + 1 => do
    skipWhile fun c => isSpace c || c = ';'
    if (← peek?).isNone then return ()
    let s ← selection
    skipWhile isBlank
    let hasAddress := s.first.isSome
    match ← next? with
    | none => if hasAddress || s.negated then fail "missing command".toList
    | some '#' =>
      if hasAddress then fail "comments don't accept any addresses".toList
      let r ← get
      let isFirst := r.size - r.rest.length = 1 && r.source.expression ≤ 1
      let line := r.rest.takeWhile (· != '\n')
      set { r with
        rest := r.rest.drop (line.length + 1)
        silent := r.silent || (isFirst && line.head? = some 'n') }
      commands fuel
    | some ':' => do
      if hasAddress then fail ": doesn't want any addresses".toList
      let l ← label
      if l.isEmpty then fail "\":\" lacks a label".toList
      modify fun r => { r with labels := (l, r.commands.size) :: r.labels }
      commands fuel
    | some '\x7b' => do
      modify fun r => { r with opened := r.commands.size :: r.opened }
      add s (.block 0)
      commands fuel
    | some '\x7d' => do
      let r ← get
      match r.opened with
      | [] => fail (message "\x7d" "unexpected ")
      | i :: opened =>
        if hasAddress then fail (message "\x7d" "" " doesn't want any addresses")
        let c := r.commands.getD i { selection := {}, action := .nothing }
        set { r with
          opened
          commands := r.commands.setIfInBounds i { c with action := .block r.commands.size } }
        finish
        commands fuel
    | some c => do
      add s (← action c)
      commands fuel

def labelOf (a : Action) : Option Text :=
  match a with
  | .branch l => some l
  | .branchIf l => some l
  | .branchUnless l => some l
  | _ => none

/-- A command with other text. -/
def withText (c : Command) (cs : Text) : Command :=
  match c.action with
  | .append _ => { c with action := .append cs }
  | .insert _ => { c with action := .insert cs }
  | .change _ => { c with action := .change cs }
  | _ => c

/-- Gives the last command the text that it lacks. -/
def settleText : Reading Unit := do
  let r ← get
  if r.owes then
    let (cs, rest) := textFrom (r.rest.length + 1) [] r.rest
    let commands := r.commands.modify (r.commands.size - 1) (withText · (cs ++ ['\n']))
    set { r with rest, commands, owes := false }

/-- The script that some sources are together. -/
def parse (extended : Bool) (sources : List Source) : Except Fault Script := do
  let step (r : Reader) (s : Source) : Except Fault Reader := do
    let r := { r with rest := s.text, size := s.text.length, source := s }
    let ((), r) ← (do
      settleText
      commands (s.text.length + 2) : Reading Unit).run r
    return r
  let start : Reader :=
    { rest := [], size := 0, source := { text := [], expression := 0, file := none }, extended }
  let r ← sources.foldlM step start
  if !r.opened.isEmpty then
    throw (.at_ (max 1 r.source.expression) 0 (message "\x7b" "unmatched "))
  let missing := r.commands.toList.findSome? fun c =>
    (labelOf c.action).filter fun l => !l.isEmpty && !r.labels.any (·.1 == l)
  match missing with
  | some l => throw (.noLabel l)
  | none => return { commands := r.commands, labels := r.labels, silent := r.silent }

end CellRunner.Tool.Editing
