import CellRunner.Shell.Syntax

/-!
# Small programs

Each reads and writes through descriptors, as any process does, and complains by its name.
What it writes to the standard output is held back until a block is full or it ends.
-/

set_option autoImplicit false

namespace CellRunner

/-- How a program was started. -/
structure Call where
  name : Shell.Text
  args : List Shell.Text
  environment : List (String × Machine.Bytes)

namespace Tool

open Machine (Prog Bytes FileInfo Request)
open Shell (Text toBytes ofBytes ofString asName)

/-- What a program knows of itself. -/
structure Desk where
  call : Call
  /-- output that is held back, the last part first -/
  held : List Bytes := []
  /-- the length of what is held back -/
  size : Nat := 0
  /-- the exit code when something goes wrong -/
  failure : Nat := 1

abbrev Run := StateT Desk Prog

end Tool

/-- A program; the value is the exit code. -/
abbrev Tool := Tool.Run Nat

namespace Tool

open Machine (Prog Bytes FileInfo Request)
open Shell (Text toBytes ofBytes ofString asName)

def ask (r : Request) : Run r.Reply := StateT.lift (Prog.ask r)

def run {α : Type} (p : Prog α) : Run α := StateT.lift p

def arguments : Run (List Text) := return (← get).call.args

def environment : Run (List (String × Bytes)) := return (← get).call.environment

/-- The value of a variable in the environment. -/
def setting? (name : String) : Run (Option Text) := do
  return ((← environment).lookup name).map ofBytes

/-! ### Messages -/

def tell (line : Text) : Run Unit := do
  let _ ← run (Prog.put 2 (toBytes (line ++ ['\n'])))

/-- A message after the name of the program. -/
def complain (message : Text) : Run Unit := do
  tell ((← get).call.name ++ ": ".toList ++ message)

/-- Points to the description of the program. -/
def advise : Run Unit := do
  tell ("Try '".toList ++ (← get).call.name ++ " --help' for more information.".toList)

/-! ### Output -/

def blockSize : Nat := 4096

/-- Ends the program although output is held back. -/
def abandon {α : Type} (code : Nat) : Run α := run (Prog.exit code)

/-- Writes bytes at once. -/
def write (bytes : Bytes) : Run Unit := do
  match ← run (Prog.put 1 bytes) with
  | .ok () => return ()
  | .error e =>
    complain ("write error: ".toList ++ ofString e.text)
    abandon (← get).failure

/-- Writes all that is held back. -/
def flush : Run Unit := do
  let d ← get
  if d.size > 0 then
    set { d with held := [], size := 0 }
    write d.held.reverse.flatten

/-- Writes to the standard output, whole blocks at a time. -/
def emit (bytes : Bytes) : Run Unit := do
  let d ← get
  let size := d.size + bytes.length
  if size ≤ blockSize then set { d with held := bytes :: d.held, size }
  else
    let all := (bytes :: d.held).reverse.flatten
    let rest := size % blockSize
    set { d with held := [all.drop (size - rest)], size := rest }
    write (all.take (size - rest))

def out (cs : Text) : Run Unit := emit (toBytes cs)

/-- Ends the program. -/
def quit {α : Type} (code : Nat) : Run α := do
  flush
  abandon code

/-- Ends the program with a message. -/
def fail {α : Type} (message : Text) : Run α := do
  complain message
  quit (← get).failure

/-- Ends the program with a message about its arguments. -/
def misuse {α : Type} (message : Text) : Run α := do
  complain message
  advise
  quit (← get).failure

/-- The task of a program. -/
def task (t : Tool) (call : Call) : Machine.Task :=
  Prog.task do
    let (code, _) ← (do
      let code ← t
      flush
      return code : Tool).run { call }
    return code

/-! ### Names in messages -/

def isPrintable (c : Char) : Bool := ' ' ≤ c && c ≤ '~'

def octalEscape (c : Char) : Text :=
  let ds := Nat.toDigits 8 c.toNat
  '\\' :: List.replicate (3 - ds.length) '0' ++ ds

def letterEscape? : Char → Option Char
  | '\x07' => some 'a'
  | '\x08' => some 'b'
  | '\t' => some 't'
  | '\n' => some 'n'
  | '\x0b' => some 'v'
  | '\x0c' => some 'f'
  | '\r' => some 'r'
  | _ => none

/-- A character that cannot be shown, as an escape. -/
def escaped (c : Char) : Text :=
  match letterEscape? c with
  | some l => ['\\', l]
  | none => octalEscape c

/-- A text in single quotes, with escapes. -/
def quoted (cs : Text) : Text :=
  let piece (c : Char) : Text :=
    if c = '\'' || c = '\\' then ['\\', c] else if isPrintable c then [c] else escaped c
  '\'' :: cs.flatMap piece ++ ['\'']

/-- A text in single quotes as a shell reads it, where characters that cannot be shown stand in
pieces of their own. -/
def pieces : Bool → Text → Text
  | escapes, [] => if escapes then "'".toList else "'".toList
  | escapes, c :: cs =>
    if isPrintable c then
      (if escapes then "''".toList else []) ++
        (if c = '\'' then "'\\''".toList else [c]) ++ pieces false cs
    else (if escapes then [] else "'$'".toList) ++ escaped c ++ pieces true cs

/-- Characters that mean something to a shell wherever they stand. -/
def isSpecial (c : Char) : Bool :=
  " !\"$&'()*;<=>?[\\^|".toList.contains c || c = Char.ofNat 0x60

def needsQuotes (cs : Text) : Bool :=
  cs.isEmpty || cs = [Char.ofNat 0x7b] || cs = [Char.ofNat 0x7d] ||
    cs.any (fun c => isSpecial c || !isPrintable c) || cs.head? = some '#' || cs.head? = some '~'

/-- Characters that have to be escaped in double quotes. -/
def isFixed (c : Char) : Bool :=
  isPrintable c && !("!\"$&()*;<=>?[\\^|".toList.contains c || c = Char.ofNat 0x60) &&
    c != '#' && c != '~' && c != Char.ofNat 0x7b && c != Char.ofNat 0x7d

/-- A name in quotes as a shell reads it. -/
def named (cs : Text) : Text :=
  if cs.contains '\'' && cs.all isFixed then '"' :: cs ++ ['"'] else '\'' :: pieces false cs

/-- As `named`, with quotes only if the name needs them. -/
def spelled (cs : Text) : Text := if needsQuotes cs then named cs else cs

/-- A name before a colon. -/
def beforeColon (cs : Text) : Text :=
  if needsQuotes cs || cs.contains ':' then named cs else cs

/-- What the system says, after a name. -/
def because (cs : Text) (e : SystemError) : Text := cs ++ ": ".toList ++ ofString e.text

/-- Complains of a path. -/
def complainOf (path : Text) (e : SystemError) : Run Unit :=
  complain (because (beforeColon path) e)

/-- Complains that something could not be done with a path. -/
def cannot (deed : String) (path : Text) (e : SystemError) : Run Nat := do
  complain (deed.toList ++ ' ' :: because (named path) e)
  return (← get).failure

/-! ### Files -/

/-- The worst of the exit codes of all operands. -/
def forEach (operands : List Text) (f : Text → Run Nat) : Run Nat :=
  operands.foldlM (fun code a => do return max code (← f a)) 0

def infoOf (path : Text) : Run (Except SystemError FileInfo) := ask (.stat (asName path) true)

/-- What is known of a path itself, even if it is a link. -/
def ownInfoOf (path : Text) : Run (Except SystemError FileInfo) := ask (.stat (asName path) false)

def isDirectory (path : Text) : Run Bool := do
  match ← infoOf path with
  | .ok info => return info.isDirectory
  | .error _ => return false

/-- The operands, or the standard input when there are none. -/
def orInput (operands : List Text) : List Text := if operands.isEmpty then [['-']] else operands

def close (d : Nat) : Run Unit := do
  let _ ← ask (.close d)

/-- Gives `f` a descriptor of a file, or of the standard input for a dash. -/
def withInput {α : Type} (path : Text) (failed : SystemError → Run α) (f : Nat → Run α) :
    Run α := do
  if path = ['-'] then f 0
  else
    match ← ask (.open (asName path) .read 0 0) with
    | .error e => failed e
    | .ok d =>
      let a ← f d
      close d
      return a

/-- All bytes that come from a descriptor. -/
def slurp (d : Nat) : Run (Except SystemError Bytes) := run (Prog.readAll d Prog.fuel [])

/-- All text of a file, or of the standard input for a dash. -/
def contents (path : Text) : Run (Except SystemError Text) :=
  withInput path (fun e => return .error e) fun d => do return (← slurp d).map ofBytes

/-! ### Lines -/

/-- Text that is read a line at a time. -/
structure Feed where
  descriptor : Nat
  /-- how many bytes are read at once -/
  chunk : Nat := 32768
  /-- what was read and not handed out yet -/
  rest : Text := []
  isOver : Bool := false
  trouble : Option SystemError := none

namespace Feed

/-- The text up to the next mark and whether the mark was there, or none at the end; `before`
holds parts of the line, the last one first. -/
def nextFrom (mark : Char) : Nat → List Text → Feed → Run (Option (Text × Bool) × Feed)
  | 0, _, f => return (none, f)
  | fuel + 1, before, f => do
    let (front, rest) := f.rest.span (· != mark)
    match rest with
    | _ :: rest => return (some ((front :: before).reverse.flatten, true), { f with rest })
    | [] =>
      let before := if front.isEmpty then before else front :: before
      let final : Option (Text × Bool) :=
        if before.isEmpty then none else some (before.reverse.flatten, false)
      if f.isOver then return (final, { f with rest := [] })
      else
        match ← ask (.read f.descriptor f.chunk) with
        | .error e => return (final, { f with rest := [], isOver := true, trouble := some e })
        | .ok [] => return (final, { f with rest := [], isOver := true })
        | .ok bytes => nextFrom mark fuel before { f with rest := ofBytes bytes }

def next (f : Feed) (mark : Char := '\n') : Run (Option (Text × Bool) × Feed) :=
  nextFrom mark Prog.fuel [] f

/-- Leaves what was not handed out to whoever reads next. -/
def giveBack (f : Feed) : Run Unit := do
  if !f.rest.isEmpty then
    let _ ← ask (.back f.descriptor f.rest.length)

end Feed

/-- The lines of a text, without the marks that end them. -/
def linesBy (mark : Char) (cs : Text) : List Text :=
  let step (c : Char) (s : List Text) : List Text :=
    if c = mark then [] :: s
    else
      match s with
      | line :: lines => (c :: line) :: lines
      | [] => [[c]]
  match cs.getLast? with
  | none => []
  | some c => if c = mark then cs.dropLast.foldr step [[]] else cs.foldr step [[]]

def lines (cs : Text) : List Text := linesBy '\n' cs

/-- Goes through lines with a state until `f` gives none; `fuel` bounds their number. -/
def throughLines {σ : Type} (f : σ → Text → Bool → Run (Option σ)) (mark : Char) :
    Nat → σ → Feed → Run (σ × Feed)
  | 0, s, feed => return (s, feed)
  | fuel + 1, s, feed => do
    match ← feed.next mark with
    | (none, feed) => return (s, feed)
    | (some (line, ended), feed) =>
      match ← f s line ended with
      | none => return (s, feed)
      | some s => throughLines f mark fuel s feed

/-! ### Texts -/

def ofNat (n : Nat) : Text := Nat.toDigits 10 n

def ofInt (n : Int) : Text := (if n < 0 then ['-'] else []) ++ ofNat n.natAbs

def padLeft (width : Nat) (cs : Text) : Text := List.replicate (width - cs.length) ' ' ++ cs

def padRight (width : Nat) (cs : Text) : Text := cs ++ List.replicate (width - cs.length) ' '

end Tool

end CellRunner
