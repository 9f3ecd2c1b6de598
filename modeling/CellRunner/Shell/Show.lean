import CellRunner.Shell.Syntax

/-!
# Commands as text

The extended dialect shows commands in a layout of its own: words as they were written,
compound commands over several lines, and the commands of a function each in a line.
-/

set_option autoImplicit false

namespace CellRunner.Shell.Show

/-- A text that is being written, and how it goes on. -/
structure Sheet where
  /-- what was written, the last character first -/
  out : Text := []
  indent : Nat := 0
  /-- how much deeper what is inside a command stands -/
  step : Nat := 4
  /-- how many commands that follow are not indented -/
  skips : Nat := 0
  /-- documents whose lines come after what joins two commands -/
  deferred : List Text := []
  wroteDocument : Bool := false
  /-- how many functions the present command stands in -/
  functions : Nat := 0
  /-- how many joined commands the present command stands in -/
  joined : Nat := 0

abbrev Writer := StateM Sheet Unit

def put (cs : Text) : Writer := modify fun s => { s with out := cs.reverse ++ s.out }

def text (cs : String) : Writer := put cs.toList

def indented : Writer := modify fun s => { s with out := List.replicate s.indent ' ' ++ s.out }

def line (cs : String) : Writer := do
  text "\n"
  indented
  text cs

def deeper : Writer := modify fun s => { s with indent := s.indent + s.step }

def back : Writer := modify fun s => { s with indent := s.indent - s.step }

def skipIndent : Writer := modify fun s => { s with skips := s.skips + 1 }

/-- A semicolon, unless something else ends the command. -/
def semicolon : Writer := do
  match (← get).out with
  | '&' :: _ => return ()
  | '\n' :: _ => return ()
  | _ => text ";"

/-! ### Redirections -/

/-- The lines of documents. -/
def documents (ds : List Text) : Writer := do
  if !ds.isEmpty then
    text "\n"
    for d in ds do put (d ++ ['\n'])
    modify fun s => { s with wroteDocument := true }

/-- The lines of the documents that were put off, after what joins two commands. -/
def settle (joint : String) : Writer := do
  if joint != ";" then text joint
  let ds := (← get).deferred
  if !ds.isEmpty then
    documents ds
    if !joint.isEmpty && joint != ";" then text " "
  modify fun s => { s with deferred := [] }

/-- The operator of a redirection, and the descriptor that needs not be shown. -/
def operator : RedirectKind → String × Option Nat
  | .input => ("< ", some 0)
  | .output => ("> ", some 1)
  | .clobber => (">| ", some 1)
  | .append => (">> ", some 1)
  | .both => ("<> ", some 1)
  | .duplicate => (">&", none)
  | .duplicateOutput => (">&", none)
  | .outputs => ("&> ", some 1)
  | .appendOutputs => ("&>> ", some 1)
  | .document => ("<<", some 0)
  | .text => ("<<< ", some 0)

/-- The first line of a document's spelling, and the lines after it. -/
def cut (cs : Text) : Text × Text :=
  let front := cs.takeWhile (· != '\n')
  (front, cs.drop (front.length + 1))

def redirect (r : Redirect) : Writer := do
  let (sign, usual) := operator r.kind
  let target := Part.written r.target
  let sign := if r.kind = .duplicate && r.descriptor = 0 then "<&" else sign
  let isBare := r.kind = .duplicateOutput && !(target = ['-'] || target.all Char.isDigit ||
    target.head? = some '$')
  match r.holder with
  | some name => put (Char.ofNat 0x7b :: name ++ [Char.ofNat 0x7d])
  | none => if usual != some r.descriptor && !isBare then put (Nat.toDigits 10 r.descriptor)
  text (if isBare then "&> " else sign)
  put (if r.kind = .document then (cut target).1 else target)

def redirects : List Redirect → Writer
  | [] => return ()
  | [r] => redirect r
  | r :: rs => do
    redirect r
    text " "
    redirects rs

/-- Redirections and the lines of their documents. -/
def redirections (rs : List Redirect) : Writer := do
  modify fun s => { s with wroteDocument := false }
  redirects rs
  let ds := (rs.filter (·.kind = .document)).map fun r => (cut (Part.written r.target)).2
  if !ds.isEmpty then
    if (← get).joined > 0 then modify fun s => { s with deferred := ds } else documents ds

/-! ### Commands -/

def words (between : String) (ws : List Text) : Writer :=
  put (List.intercalate between.toList ws)

def itemText : Item → Text
  | .word w => Part.written w
  | .assignment a => a.spelling

def simple (assignments : List Assignment) (items : List Item) (rs : List Redirect) : Writer := do
  words " " (assignments.map (·.spelling) ++ items.map itemText)
  if !rs.isEmpty then
    text " "
    redirections rs

def test : Test → Writer
  | .word w => do
    text "-n "
    put (Part.written w)
  | .unary letter w => do
    put letter
    text " "
    put (Part.written w)
  | .binary operator a b => do
    put (Part.written a)
    text " "
    put operator
    text " "
    put (Part.written b)
  | .negation t => do
    text "! "
    test t
  | .group t => do
    text "( "
    test t
    text " )"
  | .both a b => do
    test a
    text " && "
    test b
  | .either a b => do
    test a
    text " || "
    test b

/-- What is written between two commands that a line joins. -/
def joint (isBackground : Bool) : Writer := do
  if isBackground then
    text " "
    skipIndent
  else
    let inFunction := (← get).functions > 0
    if (← get).deferred.isEmpty then
      if (← get).wroteDocument then modify fun s => { s with wroteDocument := false }
      else text ";"
    else settle (if inFunction then "" else ";")
    if inFunction then text "\n"
    else
      text " "
      skipIndent

def begin_ : Writer := do
  let s ← get
  if s.skips > 0 then set { s with skips := s.skips - 1 } else indented

def isNothing : Command → Bool
  | .sequence [] => true
  | _ => false

def isBackground : Command → Bool
  | .background _ => true
  | _ => false

def loopWords (head : String) (name : Text) (ws : Option (List Word)) : Writer := do
  text head
  put name
  text " in "
  words " " (match ws with
    | some ws => ws.map Part.written
    | none => ["\"$@\"".toList])
  text ";"

def countPart (w : Word) : Text :=
  let cs := (Part.written w).dropWhile fun c => c = ' ' || c = '\t'
  if cs.isEmpty then ['1'] else cs

mutual

/-- A command where it stands. -/
def command : Command → Writer
  | .sequence [] => return ()
  | .sequence (c :: cs) => do
    begin_
    modify fun s => { s with skips := s.skips + 1, joined := s.joined + 1 }
    command c
    joinedTo (isBackground c) cs
    settle ""
    modify fun s => { s with joined := s.joined - 1 }
  | .simple _ assignments items rs => do
    begin_
    simple assignments items rs
  | .pipeline negated stages => do
    begin_
    if negated then text "! "
    modify fun s => { s with skips := s.skips + 1, joined := s.joined + 1 }
    stagesOf stages
    modify fun s => { s with joined := s.joined - 1 }
  | .conjunction a b => do
    begin_
    modify fun s => { s with skips := s.skips + 1, joined := s.joined + 1 }
    command a
    settle " && "
    skipIndent
    command b
    settle ""
    modify fun s => { s with joined := s.joined - 1 }
  | .disjunction a b => do
    begin_
    modify fun s => { s with skips := s.skips + 1, joined := s.joined + 1 }
    command a
    settle " || "
    skipIndent
    command b
    settle ""
    modify fun s => { s with joined := s.joined - 1 }
  | .background c => do
    begin_
    modify fun s => { s with skips := s.skips + 1, joined := s.joined + 1 }
    command c
    settle " &"
    modify fun s => { s with joined := s.joined - 1 }
  | .subshell _ body => do
    begin_
    text "( "
    skipIndent
    command body
    settle ""
    text " )"
  | .group body => do
    begin_
    text "\x7b "
    let inFunction := (← get).functions > 0
    if inFunction then
      text "\n"
      deeper
    else skipIndent
    command body
    settle ""
    if inFunction then
      text "\n"
      back
      indented
    else
      semicolon
      text " "
    text "\x7d"
  | .redirected _ body rs => do
    command body
    text " "
    redirections rs
  | .conditional condition body otherwise => do
    begin_
    text "if "
    skipIndent
    command condition
    semicolon
    text " then\n"
    deeper
    command body
    settle ""
    back
    if !isNothing otherwise then
      semicolon
      line "else\n"
      deeper
      command otherwise
      settle ""
      back
    semicolon
    line "fi"
  | .loop until_ condition body => do
    begin_
    text (if until_ then "until " else "while ")
    skipIndent
    command condition
    settle ""
    semicolon
    text " do\n"
    deeper
    command body
    settle ""
    back
    semicolon
    line "done"
  | .each _ name ws body => do
    begin_
    loopWords "for " name ws
    rounds body
  | .menu _ name ws body => do
    begin_
    loopWords "select " name ws
    rounds body
  | .count _ first condition step body => do
    begin_
    text "for (("
    words "; " [countPart first, countPart condition, countPart step]
    text "))"
    rounds body
  | .select _ word clauses => do
    begin_
    text "case "
    put (Part.written word)
    text " in "
    deeper
    clausesOf clauses
    back
    line "esac"
  | .define _ name body => do
    begin_
    text "function "
    put name
    text " () \n"
    indented
    text "\x7b \n"
    modify fun s => { s with functions := s.functions + 1, indent := s.indent + s.step }
    inner body
    modify fun s => { s with functions := s.functions - 1, indent := s.indent - s.step }
    closing body
  | .arithmetic _ source => do
    begin_
    text "(("
    put (Part.written source)
    text "))"
  | .test _ t => do
    begin_
    text "[[ "
    test t
    text " ]]"
  | .timed c => do
    begin_
    text "time "
    skipIndent
    command c
  | .source _ cs => do
    begin_
    put cs

/-- The commands after one that a line joins them to. -/
def joinedTo : Bool → List Command → Writer
  | _, [] => return ()
  | isBehind, c :: cs => do
    joint isBehind
    command c
    joinedTo (isBackground c) cs

def stagesOf : List Command → Writer
  | [] => return ()
  | [c] => do
    command c
    settle ""
  | c :: cs => do
    command c
    settle " |"
    text " "
    skipIndent
    stagesOf cs

/-- The body of a loop. -/
def rounds : Command → Writer
  | body => do
    line "do\n"
    deeper
    command body
    settle ""
    semicolon
    back
    line "done"

def clausesOf : List Clause → Writer
  | [] => return ()
  | .mk patterns body after :: cs => do
    line ""
    words " | " (patterns.map Part.written)
    text ")\n"
    deeper
    command body
    back
    settle ""
    line (match after with
      | .leave => ";;"
      | .fall => ";&"
      | .resume => ";;&")
    clausesOf cs

/-- The commands in the braces of a function. -/
def inner : Command → Writer
  | .group c => do
    command c
    settle ""
  | .redirected _ (.group c) _ => do
    command c
    settle ""
  | c => do
    command c
    settle ""

/-- The end of a function, with the redirections that hold for it. -/
def closing : Command → Writer
  | .redirected _ (.group _) rs => do
    line "\x7d "
    redirections rs
  | _ => do
    line "\x7d"
    modify fun s => { s with wroteDocument := false }

end

def finish (w : Writer) (s : Sheet) : Text := (w.run s).2.out.reverse

/-- A command in a layout of its own. -/
def commandText (c : Command) : Text := finish (command c) {}

/-- A command, or the head of a compound one, as it is known while it is carried out. -/
def headText (c : Command) : Text :=
  let whole := match c with
    | .each _ name ws _ => loopWords "for " name ws
    | .menu _ name ws _ => loopWords "select " name ws
    | .select _ w _ => do
      text "case "
      put (Part.written w)
      text " in "
    | c => command c
  let cs := finish whole {}
  match c with
  | .each _ _ _ _ => cs.dropLast
  | .menu _ _ _ _ => cs.dropLast
  | _ => cs

/-- The definition of a function after its name, over several lines or as short as can be. -/
def definition (isShort : Bool) (name : Text) (body : Command) : Text :=
  finish
    (do
      put name
      text (if isShort then "() \x7b " else "() \n\x7b \n")
      inner body
      modify fun s => { s with functions := 0, indent := 0 }
      closing body)
    (if isShort then { indent := 1, step := 0, functions := 1 }
      else { indent := 4, step := 4, functions := 1 })

end CellRunner.Shell.Show
