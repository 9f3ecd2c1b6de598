/-!
# Reading a document with offsets

A cursor holds what is left of a document and the number of bytes before it. A reader moves
the cursor or refuses the document.
-/

set_option autoImplicit false

namespace CellRunner.Toml

/-- A stretch of a document, in bytes. -/
structure Span where
  start : Nat
  stop : Nat
  deriving DecidableEq, Repr

structure Cursor where
  offset : Nat
  rest : List Char
  deriving DecidableEq, Repr

abbrev Reader := StateT Cursor Option

namespace Reader

def refuse {α : Type} : Reader α := fun _ => none

def offset : Reader Nat := do return (← get).offset

def peek : Reader (Option Char) := do return (← get).rest.head?

/-- Whether these characters come next. -/
def sees (cs : List Char) : Reader Bool := do return cs.isPrefixOf (← get).rest

def bytes (cs : List Char) : Nat := cs.foldl (fun n c => n + c.utf8Size) 0

def skip (n : Nat) : Reader Unit :=
  modify fun s => ⟨s.offset + bytes (s.rest.take n), s.rest.drop n⟩

/-- The next character, whatever it is. -/
def any : Reader Char := do
  match (← get).rest with
  | [] => refuse
  | c :: cs =>
    set (Cursor.mk ((← get).offset + c.utf8Size) cs)
    return c

/-- The longest run of characters satisfying `p`. -/
def run (p : Char → Bool) : Reader (List Char) := do
  let cs := (← get).rest.takeWhile p
  modify fun s => ⟨s.offset + bytes cs, s.rest.dropWhile p⟩
  return cs

/-- These characters, if they come next. -/
def accept (cs : List Char) : Reader Bool := do
  if ← sees cs then
    skip cs.length
    return true
  else return false

def expect (c : Char) : Reader Unit := do
  if ← accept [c] then return () else refuse

def isSpace (c : Char) : Bool := c = ' ' || c = '\t'

def spaces : Reader Unit := do let _ ← run isSpace

/-- A character that may stand in a comment or in a string on one line. -/
def isPlain (c : Char) : Bool := c = '\t' || (0x20 ≤ c.toNat && c.toNat != 0x7F)

/-- A comment, if one comes next. -/
def comment : Reader Unit := do
  if ← accept ['#'] then
    let _ ← run isPlain

/-- A line break, if one comes next. -/
def lineBreak : Reader Bool := do
  if ← accept ['\n'] then return true else accept ['\r', '\n']

/-- Nothing more on this line but a comment. -/
def lineEnd : Reader Unit := do
  spaces
  comment
  if (← get).rest.isEmpty then return ()
  else if ← lineBreak then return ()
  else refuse

end Reader

/-!
## Pointing at a place of a document

A fault is shown with the line it stands in and marks under the faulty part. Lines are
counted from one, and columns in characters. The marks are as many as the part has bytes,
but do not reach beyond the line, and there is always one.
-/

/-- The characters before a byte offset, last one first. -/
def before : Nat → List Char → List Char → List Char
  | _, [], out => out
  | offset, c :: cs, out =>
    if offset < c.utf8Size then out else before (offset - c.utf8Size) cs (c :: out)

/-- Line and column of an offset, both counted from zero. -/
def position (text : String) (offset : Nat) : Nat × Nat :=
  let front := before offset text.toList []
  (front.count '\n', (front.takeWhile (· != '\n')).length)

def indent (n : Nat) : String := String.ofList (List.replicate n ' ')

def marks (n : Nat) : String := String.ofList (List.replicate n '^')

/-- The line in which a span begins, with the span marked. -/
def excerpt (text : String) (span : Span) : String :=
  let (line, column) := position text span.start
  let content := ((text.splitOn "\n")[line]?).getD ""
  let gutter := indent ((toString (line + 1)).length + 1) ++ "|"
  let length := min (span.stop - span.start) (content.utf8ByteSize - column)
  "TOML parse error at line " ++ toString (line + 1) ++ ", column " ++ toString (column + 1) ++
    "\n" ++ gutter ++ "\n" ++
    toString (line + 1) ++ " | " ++ content ++ "\n" ++
    gutter ++ indent (column + 1) ++ marks (max length 1) ++ "\n"

end CellRunner.Toml
