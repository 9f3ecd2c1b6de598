import CellRunner.Shell.Pattern
import CellRunner.Tool.Launch
import CellRunner.Tool.Listing
import CellRunner.Tool.Tree

/-!
# Finding files

Each path in a tree is tried against an expression, whose parts are questions about the path
and things done with it.
-/

set_option autoImplicit false

namespace CellRunner.Tool

open Machine (Prog FileInfo)
open Shell (Text ofString ofBytes asName)

namespace Finding

/-- How a number is compared with the one that was given. -/
inductive Comparison where
  | less
  | equal
  | more
  deriving DecidableEq, Repr

def Comparison.holds (c : Comparison) (found given : Int) : Bool :=
  match c with
  | .less => found < given
  | .equal => found = given
  | .more => found > given

inductive Question where
  | name (pattern : Text) (folds : Bool)
  | path (pattern : Text) (folds : Bool)
  | type (letters : Text)
  | size (c : Comparison) (n unit : Nat)
  | empty
  | newer (changed : Int)
  /-- how long ago the file changed, in units of some microseconds -/
  | age (c : Comparison) (n unit : Nat)
  | mode (how : Char) (bits : Nat)
  | links (c : Comparison) (n : Nat)
  | inode (c : Comparison) (n : Nat)
  /-- what the user may do with the file, as bits -/
  | usable (use : Nat)
  | holds (b : Bool)
  deriving DecidableEq, Repr

inductive Deed where
  | print (mark : Char)
  | printf (format : Text)
  | list
  | delete
  | prune
  | quit
  /-- runs a command for each path, perhaps after a question, perhaps in its directory -/
  | run (words : List Text) (asks inside : Bool)
  /-- collects paths for one command -/
  | collect (words : List Text)
  deriving DecidableEq, Repr

inductive Expr where
  | asks (q : Question)
  | does (d : Deed)
  | negation (e : Expr)
  | both (a b : Expr)
  | either (a b : Expr)
  | sequence (a b : Expr)
  deriving Repr

/-! ### Reading expressions -/

structure Reader where
  rest : List Text
  least : Nat := 0
  most : Option Nat := none
  depthFirst : Bool := false
  follows : Bool := false
  acts : Bool := false
  before : Text := []

abbrev Reading := StateT Reader Run

/-- A text as messages about an expression show it. -/
def marked (cs : Text) : Text := Char.ofNat 0x60 :: cs ++ ['\'']

def take? : Reading (Option Text) := do
  let r ← get
  match r.rest with
  | a :: rest =>
    set { r with rest, before := a }
    return some a
  | [] => return none

def valueFor (option : Text) : Reading Text := do
  match ← take? with
  | some a => return a
  | none => Tool.fail ("missing argument to ".toList ++ marked option)

def comparison (cs : Text) : Comparison × Text :=
  match cs with
  | '+' :: rest => (.more, rest)
  | '-' :: rest => (.less, rest)
  | _ => (.equal, cs)

def numberFor (option : Text) : Reading (Comparison × Nat) := do
  let v ← valueFor option
  let (c, ds) := comparison v
  match natural? ds with
  | some n => return (c, n)
  | none => Tool.fail ("invalid argument ".toList ++ marked v ++ " to ".toList ++ marked option)

/-- The size of the units that a letter stands for. -/
def unitOf? (cs : Text) : Option Nat :=
  match cs with
  | [] => some 512
  | ['b'] => some 512
  | ['c'] => some 1
  | ['w'] => some 2
  | ['k'] => some 1024
  | ['M'] => some (1024 * 1024)
  | ['G'] => some (1024 * 1024 * 1024)
  | _ => none

/-- The words of a command up to the mark that ends it, and whether paths are collected. -/
def commandWords : Nat → List Text → Reading (List Text × Bool)
  | 0, words => return (words.reverse, false)
  | fuel + 1, words => do
    match ← take? with
    | none => Tool.fail ("missing argument to ".toList ++ marked "-exec".toList)
    | some [';'] => return (words.reverse, false)
    | some a =>
      if a = ['+'] && words.head? = some [Char.ofNat 0x7b, Char.ofNat 0x7d] then
        return ((words.drop 1).reverse, true)
      else commandWords fuel (a :: words)

def does (d : Deed) : Reading Expr := do
  modify fun r => { r with acts := true }
  return .does d

def infoFor (option : Text) : Reading FileInfo := do
  let v ← valueFor option
  match ← (infoOf v : Run _) with
  | .ok i => return i
  | .error e => Tool.fail (because (named v) e)

/-- A predicate that begins with a dash. -/
def predicate (fuel : Nat) (a : Text) : Reading Expr := do
  match String.ofList a with
  | "-name" => return .asks (.name (← valueFor a) false)
  | "-iname" => return .asks (.name (← valueFor a) true)
  | "-path" => return .asks (.path (← valueFor a) false)
  | "-wholename" => return .asks (.path (← valueFor a) false)
  | "-ipath" => return .asks (.path (← valueFor a) true)
  | "-type" => do
    let v ← valueFor a
    let letters := v.filter (· != ',')
    if let some bad := letters.find? fun c => !"bcdpflsD".toList.contains c then
      Tool.fail ("Unknown argument to -type: ".toList ++ [bad])
    return .asks (.type letters)
  | "-size" => do
    let v ← valueFor a
    let (c, ds) := comparison v
    let (digits, rest) := ds.span Char.isDigit
    match unitOf? rest with
    | some unit =>
      if digits.isEmpty then
        Tool.fail ("Invalid argument ".toList ++ marked v ++ " to -size".toList)
      else return .asks (.size c (Shell.Format.decimal digits) unit)
    | none => Tool.fail ("invalid -size type ".toList ++ marked rest)
  | "-empty" => return .asks .empty
  | "-newer" => return .asks (.newer (← infoFor a).changed)
  | "-mmin" => do
    let (c, n) ← numberFor a
    return .asks (.age c n 60000000)
  | "-mtime" => do
    let (c, n) ← numberFor a
    return .asks (.age c n 86400000000)
  | "-perm" => do
    let v ← valueFor a
    let (how, text) := match v with
      | '-' :: cs => ('-', cs)
      | '/' :: cs => ('/', cs)
      | cs => ('=', cs)
    match Mode.parse text with
    | some steps => return .asks (.mode how (Mode.apply steps false 0 0))
    | none => Tool.fail ("invalid mode ".toList ++ Tool.quoted v)
  | "-links" => do
    let (c, n) ← numberFor a
    return .asks (.links c n)
  | "-inum" => do
    let (c, n) ← numberFor a
    return .asks (.inode c n)
  | "-samefile" => return .asks (.inode .equal (← infoFor a).number)
  | "-user" => return .asks (.holds ((← valueFor a) = "root".toList || true))
  | "-group" => return .asks (.holds ((← valueFor a) = "root".toList || true))
  | "-executable" => return .asks (.usable Machine.Files.searching)
  | "-readable" => return .asks (.usable Machine.Files.reading)
  | "-writable" => return .asks (.usable Machine.Files.writing)
  | "-true" => return .asks (.holds true)
  | "-false" => return .asks (.holds false)
  | "-maxdepth" => do
    let v ← valueFor a
    match natural? v with
    | some n => modify fun r => { r with most := some n }
    | none => badDepth a v
    return .asks (.holds true)
  | "-mindepth" => do
    let v ← valueFor a
    match natural? v with
    | some n => modify fun r => { r with least := n }
    | none => badDepth a v
    return .asks (.holds true)
  | "-depth" => do
    modify fun r => { r with depthFirst := true }
    return .asks (.holds true)
  | "-d" => do
    modify fun r => { r with depthFirst := true }
    return .asks (.holds true)
  | "-follow" => do
    modify fun r => { r with follows := true }
    return .asks (.holds true)
  | "-xdev" => return .asks (.holds true)
  | "-mount" => return .asks (.holds true)
  | "-noleaf" => return .asks (.holds true)
  | "-print" => does (.print '\n')
  | "-print0" => does (.print '\x00')
  | "-printf" => does (.printf (← valueFor a))
  | "-ls" => does .list
  | "-delete" => do
    modify fun r => { r with depthFirst := true }
    does .delete
  | "-prune" => return .does .prune
  | "-quit" => does .quit
  | "-exec" => command false false
  | "-execdir" => command false true
  | "-ok" => command true false
  | _ => Tool.fail ("unknown predicate ".toList ++ marked a)
where
  badDepth (a v : Text) : Reading Unit :=
    Tool.fail ("Expected a positive decimal integer argument to ".toList ++ a ++
      ", but got ".toList ++ Tool.quoted v)
  command (asks inside : Bool) : Reading Expr := do
    let (words, collects) ← commandWords fuel []
    if words.isEmpty then
      Tool.fail ("missing argument to ".toList ++ marked "-exec".toList)
    does (if collects then .collect words else .run words asks inside)

mutual

def sequence : Nat → Reading Expr
  | 0 => Tool.fail "invalid expression".toList
  | fuel + 1 => do
    let a ← disjunction fuel
    match (← get).rest with
    | [','] :: _ => do
      let _ ← take?
      return .sequence a (← sequence fuel)
    | _ => return a

def disjunction : Nat → Reading Expr
  | 0 => Tool.fail "invalid expression".toList
  | fuel + 1 => do
    let a ← conjunction fuel
    match (← get).rest with
    | o :: _ =>
      if o = "-o".toList || o = "-or".toList then do
        let _ ← take?
        needsOperand o
        return .either a (← disjunction fuel)
      else return a
    | [] => return a

def conjunction : Nat → Reading Expr
  | 0 => Tool.fail "invalid expression".toList
  | fuel + 1 => do
    let a ← factor fuel
    match (← get).rest with
    | o :: _ =>
      if o = "-a".toList || o = "-and".toList then do
        let _ ← take?
        needsOperand o
        return .both a (← conjunction fuel)
      else if o = "-o".toList || o = "-or".toList || o = [')'] || o = [','] then return a
      else return .both a (← conjunction fuel)
    | [] => return a

def factor : Nat → Reading Expr
  | 0 => Tool.fail "invalid expression".toList
  | fuel + 1 => do
    match ← take? with
    | none => return .asks (.holds true)
    | some a =>
      if a = ['!'] || a = "-not".toList then
        if (← get).rest.isEmpty then
          Tool.fail ("expected an expression after ".toList ++ Tool.quoted a)
        return .negation (← factor fuel)
      else if a = ['('] then
        let e ← sequence fuel
        match ← take? with
        | some [')'] => return e
        | _ =>
          Tool.fail ("invalid expression; I was expecting to find a ')' somewhere but did ".toList ++
            "not see one.".toList)
      else if a = [')'] then Tool.fail "you have too many ')'".toList
      else if ["-o", "-or", "-a", "-and", ","].contains (String.ofList a) then
        Tool.fail ("invalid expression; you have used a binary operator ".toList ++
          Tool.quoted a ++ " with nothing before it.".toList)
      else if a.head? = some '-' then predicate fuel a
      else do
        complain ("paths must precede expression: ".toList ++ marked a)
        quit 1

def needsOperand (o : Text) : Reading Unit := do
  if (← get).rest.isEmpty then
    Tool.fail ("expected an expression after ".toList ++ Tool.quoted o)

end

/-! ### Trying paths -/

/-- A path in a tree, with how deep it is and the operand it was reached from. -/
structure Visit where
  path : Text
  depth : Nat
  start : Text
  info : FileInfo

def glyphs : Text → List (Char × Bool)
  | '\\' :: c :: cs => (c, true) :: glyphs cs
  | c :: cs => (c, false) :: glyphs cs
  | [] => []

def fits (pattern : Text) (folds : Bool) (cs : Text) : Bool :=
  let low (cs : Text) : Text := if folds then cs.map Char.toLower else cs
  let gs := glyphs (low pattern)
  Shell.Pattern.describes (Shell.Pattern.ofGlyphs false (gs.length + 1) gs) (low cs)

def typeLetter (i : FileInfo) : Char :=
  match i.kind with
  | .file => 'f'
  | .directory => 'd'
  | .link => 'l'
  | .pipe => 'p'
  | .device => 'c'

def Question.holds_ (q : Question) (v : Visit) : Run Bool := do
  match q with
  | .name p folds => return fits p folds (Paths.lastName v.path)
  | .path p folds => return fits p folds v.path
  | .type letters => return letters.contains (typeLetter v.info)
  | .size c n unit => return c.holds ((v.info.size + unit - 1) / unit : Nat) n
  | .empty =>
    if v.info.isDirectory then return (← namesIn v.path).isEmpty
    else return v.info.kind == .file && v.info.size = 0
  | .newer t => return v.info.changed > t
  | .age c n unit => do
    let present ← now
    return c.holds ((present.count - v.info.changed) / (unit : Int)) n
  | .mode how bits =>
    let mode := v.info.mode
    return if how = '=' then mode = bits
      else if how = '-' then mode &&& bits = bits
      else bits = 0 || mode &&& bits != 0
  | .links c n => return c.holds v.info.names n
  | .inode c n => return c.holds v.info.number n
  | .usable use => return v.info.allows use
  | .holds b => return b

/-- The path below the operand that it was reached from. -/
def below (v : Visit) : Text := (v.path.drop v.start.length).dropWhile (· = '/')

/-- What a letter after a percent sign stands for. -/
def Visit.field (v : Visit) (c : Char) : Run (Option Text) := do
  match c with
  | 'p' => return some v.path
  | 'f' => return some (Paths.lastName v.path)
  | 'h' =>
    return some (if v.path.contains '/' then
      let front := (v.path.reverse.dropWhile (· != '/')).drop 1
      front.reverse
    else ['.'])
  | 'P' => return some (below v)
  | 'H' => return some v.start
  | 's' => return some (ofNat v.info.size)
  | 'm' => return some (Mode.octal 1 v.info.mode)
  | 'M' => return some (Mode.kindLetter v.info.kind :: Mode.letters v.info.mode)
  | 'd' => return some (ofNat v.depth)
  | 'y' => return some [typeLetter v.info]
  | 'l' =>
    if v.info.kind == .link then
      return some (((← ask (.readLink (asName v.path))).toOption.map ofString).getD [])
    else return some []
  | 'i' => return some (ofNat v.info.number)
  | 'n' => return some (ofNat v.info.names)
  | 'u' => return some (ownerName v.info)
  | 'g' => return some (ownerName v.info)
  | 'U' => return some (ofNat (ownerNumber v.info))
  | 'G' => return some (ofNat (ownerNumber v.info))
  | 'k' => return some (ofNat (Listing.blocksOf v.info))
  | 'b' => return some (ofNat (2 * Listing.blocksOf v.info))
  | 't' => return some ((Moment.ofCount v.info.changed).text "%a %b %e %H:%M:%S %Y".toList)
  | '%' => return some ['%']
  | _ => return none

def printfText (v : Visit) : Nat → Text → Run Text
  | 0, _ => return []
  | _ + 1, [] => return []
  | fuel + 1, c :: cs => do
    if c = '\\' then
      match cs with
      | 'c' :: _ => return []
      | _ =>
        let (made, rest) := Shell.Format.escape cs
        return made ++ (← printfText v fuel rest)
    else if c = '%' then
      let flags := cs.takeWhile fun c => c = '-' || c = '0' || c.isDigit
      match cs.drop flags.length with
      | 'T' :: letter :: rest =>
        let m := Moment.ofCount v.info.changed
        let text := if letter = '@' then
            ofInt (m.count.fdiv 1000000) ++ '.' :: Moment.zeros 9 (m.fraction * 1000) ++ ['0']
          else m.text ['%', letter]
        return text ++ (← printfText v fuel rest)
      | letter :: rest =>
        match ← v.field letter with
        | some text =>
          let width := Shell.Format.decimal (flags.filter Char.isDigit)
          let text := if flags.head? = some '-' then padRight width text else padLeft width text
          return text ++ (← printfText v fuel rest)
        | none =>
          complain ("warning: unrecognized format directive ".toList ++ marked ['%', letter])
          return '%' :: letter :: (← printfText v fuel rest)
      | [] => return ['%']
    else return c :: (← printfText v fuel cs)

/-- What is known while a tree is gone through. -/
structure Tour where
  code : Nat := 0
  pruned : Bool := false
  isOver : Bool := false
  /-- paths for commands that take many, by their words -/
  collected : List (List Text × List Text) := []

abbrev Touring := StateT Tour Run

def braces : Text := [Char.ofNat 0x7b, Char.ofNat 0x7d]

def runCommand (words : List Text) (path : Text) (before : Run Unit) : Run Bool := do
  let put (w : Text) : Text := Launch.substitute braces path (w.length + 1) w
  match words with
  | [] => return false
  | program :: args =>
    let status ← Launch.command (put program) (args.map put) (← environment) Tool.quoted before
    return status == some (.exited 0)

def fault : Touring Unit := modify fun t => { t with code := 1 }

def remove (v : Visit) : Run (Except SystemError Unit) := do
  if v.info.isDirectory then ask (.removeDirectory (asName v.path))
  else ask (.unlink (asName v.path))

def Deed.run_ (d : Deed) (v : Visit) : Touring Bool := do
  match d with
  | .print mark => do
    out (v.path ++ [mark])
    return true
  | .printf format => do
    out (← (printfText v (format.length + 1) format : Run _))
    return true
  | .list => do
    out (padLeft 9 (ofNat v.info.number) ++ padLeft 7 (ofNat (Listing.blocksOf v.info)) ++ ' ' ::
      Mode.kindLetter v.info.kind :: Mode.letters v.info.mode ++ padLeft 4 (ofNat v.info.names) ++
      ' ' :: padRight 9 (ownerName v.info) ++ padRight 9 (ownerName v.info) ++
      padLeft 8 (ofNat v.info.size) ++ ' ' ::
      (Moment.ofCount v.info.changed).text "%b %e %H:%M".toList ++ ' ' :: v.path ++ ['\n'])
    return true
  | .delete => do
    if v.path = ['.'] then return true
    let r ← (remove v : Run _)
    match r with
    | .ok () => return true
    | .error e => do
      complain ("cannot delete ".toList ++ because (named v.path) e)
      fault
      return false
  | .prune => do
    modify fun t => { t with pruned := true }
    return true
  | .quit => do
    modify fun t => { t with isOver := true }
    return true
  | .run words asks inside => do
    if asks then
      flush
      let question := "< ".toList ++ words.headD [] ++ " ... ".toList ++ v.path ++ " > ? ".toList
      let _ ← (Tool.run (Prog.put 2 (Shell.toBytes question)) : Run _)
      let answer ← (Tree.answerFrom Prog.fuel [] : Run _)
      if answer.head? != some 'y' && answer.head? != some 'Y' then return false
    if inside then
      let dir := Paths.parent v.path
      let name := "./".toList ++ Paths.lastName v.path
      runCommand words name do
        let _ ← ask (.enter (asName dir))
    else runCommand words v.path (pure ())
  | .collect words => do
    modify fun t =>
      let old := (t.collected.lookup words).getD []
      { t with collected := t.collected.filter (·.1 != words) ++ [(words, v.path :: old)] }
    return true

def Expr.try_ (v : Visit) : Expr → Touring Bool
  | .asks q => (q.holds_ v : Run _)
  | .does d => d.run_ v
  | .negation e => do return !(← e.try_ v)
  | .both a b => do if ← a.try_ v then b.try_ v else return false
  | .either a b => do if ← a.try_ v then return true else b.try_ v
  | .sequence a b => do
    let _ ← a.try_ v
    b.try_ v

/-- Tries all paths in a tree; `fuel` bounds the depth. -/
def tour (r : Reader) (e : Expr) : Nat → Nat → Text → Text → Touring Unit
  | 0, _, _, _ => return ()
  | fuel + 1, depth, start, path => do
    if (← get).isOver then return ()
    let own ← (ownInfoOf path : Run _)
    let far ← (infoOf path : Run _)
    match if r.follows && far.isOk then far else own with
    | .error err =>
      complain (because (named path) err)
      fault
    | .ok info =>
      let v : Visit := { path, depth, start, info }
      let try_ : Touring Unit := do
        if depth ≥ r.least && !(← get).isOver then
          let _ ← e.try_ v
      modify fun t => { t with pruned := false }
      if !r.depthFirst then try_
      let pruned := (← get).pruned && !r.depthFirst
      if info.isDirectory && !pruned && !r.most.any (depth ≥ ·) then
        match ← (ask (.list (asName path)) : Run _) with
        | .ok names =>
          for n in names do tour r e fuel (depth + 1) start (within path (ofString n))
        | .error err =>
          complain (because (named path) err)
          fault
      if r.depthFirst then try_

def isStart (a : Text) : Bool := a.head? = some '-' && a.length > 1 || a = ['('] || a = ['!']

end Finding

open Finding in
def find : Tool := do
  let args ← arguments
  let options := args.takeWhile fun a => ["-H", "-L", "-P"].contains (String.ofList a)
  let args := args.drop options.length
  let paths := args.takeWhile fun a => !isStart a
  let rest := args.drop paths.length
  let follows := options.getLast? = some "-L".toList
  let start : Reader := { rest, follows }
  let (e, r) ← if rest.isEmpty then pure (Expr.asks (.holds true), start)
    else (sequence (20 * rest.length + 20)).run start
  match r.rest with
  | a :: _ =>
    if a = [')'] then fail "you have too many ')'".toList
    else fail ("paths must precede expression: ".toList ++ marked a)
  | [] => pure ()
  let e := if r.acts then e else .both e (.does (.print '
'))
  let paths := if paths.isEmpty then [['.']] else paths
  let ((), t) ← (do
    for p in paths do tour r e greatestDepth 0 p p : Touring Unit).run {}
  let mut code := t.code
  for (words, found) in t.collected do
    match words with
    | [] => pure ()
    | program :: fixed =>
      let status ← Launch.command program (fixed ++ found.reverse) (← environment) Tool.quoted
        (pure ())
      if status != some (.exited 0) then code := 1
  return code

end CellRunner.Tool
