import CellRunner.Shell.Syntax

/-!
# The text of a script

A parser takes characters from the front of a text. When the text ends too early, it either
lacks something or has only not come yet.
-/

set_option autoImplicit false

namespace CellRunner.Shell

inductive Token where
  | word (parts : Word)
  /-- an assignment with an index or with a list -/
  | assignment (a : Assignment)
  /-- a word that the grammar gives a meaning to -/
  | reserved (spelling : String)
  | operator (spelling : String)
  /-- a redirection, with the number right before it, or the variable for a new number -/
  | redirection (descriptor : Option Nat) (holder : Option Text) (spelling : String)
  | newline
  | finish

/-- Why a script cannot be read on, and where. -/
structure Fault where
  line : Nat
  /-- the lines of the message -/
  messages : List Text
  /-- whether the text ended too early -/
  isEnd : Bool := false
  /-- the status that the shell ends with -/
  status : Nat := 2
  deriving DecidableEq, Repr

inductive Stop where
  /-- more text is needed -/
  | incomplete
  | fault (f : Fault)
  deriving DecidableEq, Repr

/-- What reading a script depends on. -/
structure Source where
  rest : Text
  /-- the text from the last token on -/
  start : Text := []
  line : Nat := 1
  dialect : Dialect := .plain
  /-- whether nothing can follow the text -/
  isWhole : Bool := true
  /-- lines of documents that were taken out of the present line -/
  taken : Nat := 0
  /-- a token that was looked at -/
  ahead : Option Token := none
  aliases : List (Text × Text) := []
  /-- names that are being replaced, each until this many characters are left -/
  replaced : List (Text × Nat) := []
  /-- whether patterns may have groups -/
  groups : Bool := false
  /-- the lines of the script, and the number of the first one -/
  lines : List Text := []
  firstLine : Nat := 1
  /-- whether the text ends with a newline -/
  endsLine : Bool := false
  /-- command substitutions that were read, the last one first: how much text was left before
  and after -/
  substitutions : List (Nat × Nat × Command) := []
  /-- messages that do not stop the reader, the last one first -/
  warnings : List (Nat × Text) := []

abbrev Parser := StateT Source (Except Stop)

namespace Parser

def isExtended : Parser Bool := do return (← get).dialect == .extended

def isNameStart (c : Char) : Bool := c.isAlpha || c = '_'

def isNameChar (c : Char) : Bool := c.isAlphanum || c = '_'

/-- Whether a text can name a variable. -/
def isName (cs : Text) : Bool :=
  match cs with
  | c :: _ => isNameStart c && cs.all isNameChar
  | [] => false

def backquote : Char := Char.ofNat 0x60

def openBrace : Char := Char.ofNat 0x7B

def closeBrace : Char := Char.ofNat 0x7D

/-- A text in the quotes of messages of the extended dialect. -/
def inMarks (cs : Text) : Text := backquote :: cs ++ ['\'']

/-- The line of the script with this number. -/
def lineText (s : Source) (line : Nat) : Text := s.lines.getD (line - s.firstLine) []

/-- A fault in this line, with a message for each dialect. -/
def failAt {α : Type} (line : Nat) (plain extended : Text) (isEnd : Bool) : Parser α := do
  let s ← get
  let message := match s.dialect with
    | .plain => "Syntax error: ".toList ++ plain
    | .extended => extended
  throw (.fault { line, messages := [message], isEnd })

/-- The text has ended too early. -/
def runOut {α : Type} (line : Nat) (plain extended : Text) : Parser α := do
  if (← get).isWhole then failAt line plain extended true else throw .incomplete

/-- A text without the joined lines at its front, and their number added to `n`. -/
def unjoined : Text → Nat → Text × Nat
  | '\\' :: '\n' :: rest, n => unjoined rest (n + 1)
  | cs, n => (cs, n)

/-- The next character; a backslash before a newline joins two lines when `joins`. -/
def look (joins : Bool) : Parser (Option Char) := do
  let s ← get
  match s.rest with
  | '\\' :: '\n' :: _ =>
    if joins then
      let (rest, n) := unjoined s.rest 0
      set { s with rest, line := s.line + n }
      return rest.head?
    else return some '\\'
  | cs => return cs.head?

/-- Leaves the next character behind. -/
def skip : Parser Unit :=
  modify fun s =>
    match s.rest with
    | '\n' :: rest => { s with rest, line := s.line + 1 + s.taken, taken := 0 }
    | _ :: rest => { s with rest }
    | [] => s

/-- Whether this character comes next; if so, it is left behind. -/
def accept (c : Char) : Parser Bool := do
  if (← look true) == some c then
    skip
    return true
  else return false

/-- The longest front of a text whose characters satisfy `p`, where lines may be joined, the
rest and the number of joined lines; `out` has the last character first. -/
def frontWhere (p : Char → Bool) : Text → Nat → Text → Text × Text × Nat
  | '\\' :: '\n' :: rest, n, out => frontWhere p rest (n + 1) out
  | c :: rest, n, out => if p c then frontWhere p rest n (c :: out) else (out.reverse, c :: rest, n)
  | [], n, out => (out.reverse, [], n)

/-- The longest front whose characters satisfy `p`; lines in it may be joined. -/
def run (p : Char → Bool) : Parser Text := do
  let s ← get
  let (front, rest, n) := frontWhere p s.rest 0 []
  set { s with rest, line := s.line + n }
  return front

/-- Reads another text with a parser, and comes back. -/
def within {α : Type} (cs : Text) (p : Parser α) : Parser α := do
  let s ← get
  set { s with rest := cs, ahead := none, isWhole := true, taken := 0 }
  let a ← p
  set s
  return a

end Parser

end CellRunner.Shell
