import CellRunner.Regex.Basic

/-!
# Programs for records

A program is a list of rules. Each has a pattern that chooses records and a body of statements
that are carried out for them.
-/

set_option autoImplicit false

namespace CellRunner.Tool.Records

open Shell (Text)

inductive Arithmetic where
  | add
  | subtract
  | multiply
  | divide
  | remainder
  | power
  deriving DecidableEq, Repr

inductive Relation where
  | less
  | lessEqual
  | equal
  | different
  | greater
  | greaterEqual
  deriving DecidableEq, Repr

inductive Builtin where
  | length
  | substr
  | index
  | split
  | sub
  | gsub
  | matchPlace
  | sprintf
  | sin
  | cos
  | atan2
  | exp
  | log
  | sqrt
  | int
  | rand
  | srand
  | toLower
  | toUpper
  | system
  | close
  | flush
  | systime
  | formatTime
  deriving DecidableEq, Repr

inductive Expr where
  | number (x : Float)
  | text (cs : Text)
  /-- an expression to look for; on its own, whether it is in the record -/
  | regex (r : Regex)
  | name (v : String)
  | field (e : Expr)
  | item (array : String) (index : List Expr)
  | assign (target value : Expr)
  | update (op : Arithmetic) (target value : Expr)
  /-- adds to a variable; the value is the one before or the one after -/
  | step (amount : Float) (after : Bool) (target : Expr)
  | arithmetic (op : Arithmetic) (a b : Expr)
  | relation (op : Relation) (a b : Expr)
  | join (a b : Expr)
  | describes (text pattern : Expr)
  | not_ (e : Expr)
  | minus (e : Expr)
  | plus (e : Expr)
  | both (a b : Expr)
  | either (a b : Expr)
  | choice (test yes no : Expr)
  | isIn (index : List Expr) (array : String)
  /-- several expressions in parentheses -/
  | list (es : List Expr)
  | call (function : String) (args : List Expr)
  | builtin (b : Builtin) (args : List Expr)
  /-- reads a record of the main input -/
  | readMain (target : Option Expr)
  | readFile (path : Expr) (target : Option Expr)
  | readCommand (command : Expr) (target : Option Expr)

instance : Inhabited Expr := ⟨.number 0⟩

/-- Where output goes. -/
inductive Redirect where
  | main
  | file (e : Expr)
  | append (e : Expr)
  | command (e : Expr)

inductive Stmt where
  | expr (e : Expr)
  | print (args : List Expr) (target : Redirect)
  | printf (args : List Expr) (target : Redirect)
  | block (body : List Stmt)
  | choice (test : Expr) (yes no : Stmt)
  | loop (test : Expr) (after body : Stmt)
  | loopOnce (body : Stmt) (test : Expr)
  | forKeys (name array : String) (body : Stmt)
  | next
  | nextFile
  | leaveLoop
  | nextRound
  | exit (code : Option Expr)
  | result (e : Option Expr)
  | delete (array : String) (index : List Expr)
  | clear (array : String)

instance : Inhabited Stmt := ⟨.block []⟩

inductive Pattern where
  | begin_
  | end_
  | always
  | when_ (e : Expr)
  | between (first last : Expr)

structure Rule where
  pattern : Pattern
  body : Stmt

structure Function where
  name : String
  params : List String
  /-- the parameters that stand for arrays -/
  arrays : List String
  body : Stmt

structure Program where
  rules : List Rule
  functions : List Function

end CellRunner.Tool.Records
