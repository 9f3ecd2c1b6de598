import CellRunner.Machine.Task
import CellRunner.Text.Utf8

/-!
# Commands of the shell

The shell works on bytes. A text is a list of characters each of which stands for a byte.
There are two dialects: the plain one and an extended one, with lists, conditions in double
brackets and more operations on parameters.
-/

set_option autoImplicit false

namespace CellRunner.Shell

abbrev Text := List Char

def ofBytes (bs : Machine.Bytes) : Text := bs.map fun b => Char.ofNat b.toNat

def toBytes (cs : Text) : Machine.Bytes := cs.map fun c => UInt8.ofNat c.toNat

def ofString (s : String) : Text := ofBytes (Utf8.encode s)

/-- A text as a path or a name. -/
def asName (cs : Text) : String := Utf8.lossy (toBytes cs)

inductive Dialect where
  | plain
  | extended
  deriving DecidableEq, Repr

/-- What stands in for a parameter that is missing, or that is there. -/
inductive Choice where
  | default
  | assign
  | demand
  | alternative
  deriving DecidableEq, Repr

/-- Which matches of a pattern are replaced. -/
inductive Place where
  | first
  | all
  | front
  | back
  deriving DecidableEq, Repr

inductive Recasing where
  | upper
  | lower
  | toggle
  deriving DecidableEq, Repr

inductive RedirectKind where
  | input
  | output
  /-- output that may not replace a file, whatever the options say -/
  | clobber
  | append
  | both
  /-- makes the descriptor a copy of another, or closes it -/
  | duplicate
  /-- as `duplicate`, but a word that is no number names a file for both outputs -/
  | duplicateOutput
  /-- both outputs to one file -/
  | outputs
  | appendOutputs
  /-- reads a text in the script itself -/
  | document
  /-- reads a word and a newline -/
  | text
  deriving DecidableEq, Repr

/-- What follows a clause that was carried out. -/
inductive ClauseEnd where
  | leave
  /-- the next clause, whatever its patterns -/
  | fall
  /-- the clauses after it are tried as well -/
  | resume
  deriving DecidableEq, Repr

mutual

/-- A piece of a word. -/
inductive Part where
  | char (c : Char) (quoted : Bool)
  /-- a pair of quotes with nothing between them -/
  | empty
  /-- a parameter; an indirect one names the parameter that is meant -/
  | parameter (name : Text) (indirect : Bool) (index : Option (List Part)) (operation : Operation)
      (quoted : Bool)
  | command (body : Command) (quoted : Bool)
  | arithmetic (source : List Part) (quoted : Bool)
  /-- the name of a file that a command writes, or reads -/
  | process (reads : Bool) (body : Command)
  /-- how the whole word was written; it stands for nothing -/
  | spelling (text : Text)

/-- What is done with the value of a parameter. -/
inductive Operation where
  | value
  | length
  | choose (choice : Choice) (orEmpty : Bool) (operand : List Part)
  | trim (front longest : Bool) (operand : List Part)
  | slice (offset : List Part) (size : Option (List Part))
  | substitute (place : Place) (pattern replacement : List Part)
  | recase (how : Recasing) (all : Bool) (pattern : List Part)
  | transform (operator : Text)
  /-- the indices of a list -/
  | keys
  /-- the names of parameters that begin alike -/
  | names
  /-- a spelling without a meaning -/
  | bad (spelling : Text)

/-- A redirection; the number of a new descriptor may go to a variable. -/
inductive Redirect where
  | mk (descriptor : Nat) (holder : Option Text) (kind : RedirectKind) (target : List Part)

/-- The value that an assignment gives: a text or the items of a list. -/
inductive Given where
  | word (parts : List Part)
  | items (items : List (Option (List Part) × List Part))

inductive Assignment where
  | mk (name : Text) (index : Option (List Part)) (append : Bool) (value : Given)
      (spelling : Text)

/-- A word of a command, or an assignment that is an argument. -/
inductive Item where
  | word (parts : List Part)
  | assignment (a : Assignment)

/-- A condition in double brackets. -/
inductive Test where
  | word (parts : List Part)
  | unary (letter : Text) (operand : List Part)
  | binary (operator : Text) (left right : List Part)
  | negation (t : Test)
  /-- a condition in parentheses -/
  | group (t : Test)
  | both (a b : Test)
  | either (a b : Test)

inductive Clause where
  | mk (patterns : List (List Part)) (body : Command) (after : ClauseEnd)

inductive Command where
  | simple (line : Nat) (assignments : List Assignment) (items : List Item)
      (redirects : List Redirect)
  | pipeline (negated : Bool) (stages : List Command)
  | conjunction (left right : Command)
  | disjunction (left right : Command)
  | sequence (commands : List Command)
  | background (command : Command)
  | subshell (line : Nat) (body : Command)
  /-- commands in braces -/
  | group (body : Command)
  | redirected (line : Nat) (body : Command) (redirects : List Redirect)
  | conditional (test body : Command) (otherwise : Command)
  | loop (until_ : Bool) (test body : Command)
  | each (line : Nat) (name : Text) (words : Option (List (List Part))) (body : Command)
  | count (line : Nat) (first test step : List Part) (body : Command)
  | select (line : Nat) (word : List Part) (clauses : List Clause)
  | menu (line : Nat) (name : Text) (words : Option (List (List Part))) (body : Command)
  | define (line : Nat) (name : Text) (body : Command)
  | arithmetic (line : Nat) (source : List Part)
  | test (line : Nat) (t : Test)
  | timed (command : Command)
  /-- commands that are read only when they are carried out -/
  | source (line : Nat) (text : Text)

end

abbrev Word := List Part

namespace Part

def isChar (c : Char) : Part → Bool
  | .char d false => c = d
  | _ => false

/-- The characters of a word that holds nothing else. -/
def literal? : Word → Option Text
  | [] => some []
  | .char c _ :: ps => (literal? ps).map (c :: ·)
  | .empty :: ps => literal? ps
  | .spelling _ :: ps => literal? ps
  | _ => none

/-- The characters in a word, whatever else it holds. -/
def characters : Word → Text
  | [] => []
  | .char c _ :: ps => c :: characters ps
  | _ :: ps => characters ps

/-- How a word was written. -/
def written (w : Word) : Text :=
  match w.getLast? with
  | some (.spelling cs) => cs
  | _ => characters w

end Part

instance : Inhabited Command := ⟨.sequence []⟩

namespace Redirect

def descriptor : Redirect → Nat
  | .mk d _ _ _ => d

def holder : Redirect → Option Text
  | .mk _ h _ _ => h

def kind : Redirect → RedirectKind
  | .mk _ _ k _ => k

def target : Redirect → Word
  | .mk _ _ _ t => t

end Redirect

namespace Assignment

def name : Assignment → Text
  | .mk n _ _ _ _ => n

def index : Assignment → Option Word
  | .mk _ i _ _ _ => i

def appends : Assignment → Bool
  | .mk _ _ a _ _ => a

def value : Assignment → Given
  | .mk _ _ _ v _ => v

def spelling : Assignment → Text
  | .mk _ _ _ _ s => s

end Assignment

end CellRunner.Shell
