import CellRunner.Tool.Basic

/-!
# Options

Options are single letters, which may stand together after one dash, or words after two
dashes, which may be cut short as long as only one word is meant.
-/

set_option autoImplicit false

namespace CellRunner.Tool

open Machine (Prog)
open Shell (Text)

/-- What an option takes with it. -/
inductive Takes where
  | nothing
  | value
  /-- a value in the same argument, if there is one -/
  | maybe
  deriving DecidableEq, Repr

structure Options where
  letters : List (Char × Takes)
  /-- words, and the letters that they stand for -/
  words : List (String × Char × Takes) := []
  /-- whether nothing after the first operand is an option -/
  stops : Bool := false

/-- An option that was given, by its letter. -/
abbrev Given := Char × Text

inductive Misuse where
  | unknownLetter (c : Char)
  | unknownWord (word : Text)
  | ambiguous (word : Text) (found : List String)
  | missingFor (c : Char)
  | missingForWord (word : String)
  | superfluous (word : String)
  deriving DecidableEq, Repr

def Misuse.text : Misuse → Text
  | .unknownLetter c => "invalid option -- '".toList ++ [c, '\'']
  | .unknownWord w => "unrecognized option '--".toList ++ w ++ ['\'']
  | .ambiguous w found =>
    "option '--".toList ++ w ++ "' is ambiguous; possibilities:".toList ++
      found.flatMap fun f => " '--".toList ++ f.toList ++ ['\'']
  | .missingFor c => "option requires an argument -- '".toList ++ [c, '\'']
  | .missingForWord w => "option '--".toList ++ w.toList ++ "' requires an argument".toList
  | .superfluous w => "option '--".toList ++ w.toList ++ "' doesn't allow an argument".toList

namespace Options

/-- The words that a word may mean. -/
def meanings (o : Options) (word : Text) : List (String × Char × Takes) :=
  match o.words.find? fun w => w.1.toList = word with
  | some w => [w]
  | none =>
    let found := o.words.filter fun w => word.isPrefixOf w.1.toList
    match found with
    | [] => []
    | w :: ws => if ws.all fun x => x.2 == w.2 then [w] else found

/-- An option given by a word, and the arguments that are left. -/
def word (o : Options) (cs : Text) (rest : List Text) : Except Misuse (Given × List Text) :=
  let (name, value) := cs.span (· != '=')
  match o.meanings name, value with
  | [], _ => .error (.unknownWord cs)
  | [(w, c, takes)], value =>
    match takes, value, rest with
    | .nothing, [], _ => .ok ((c, []), rest)
    | .nothing, _, _ => .error (.superfluous w)
    | _, _ :: v, _ => .ok ((c, v), rest)
    | .maybe, [], _ => .ok ((c, []), rest)
    | .value, [], v :: rest => .ok ((c, v), rest)
    | .value, [], [] => .error (.missingForWord w)
  | found, _ => .error (.ambiguous name (found.map (·.1)))

/-- The options among the letters of one argument, and the arguments that are left. -/
def cluster (o : Options) : Text → List Text → Except Misuse (List Given × List Text)
  | [], rest => .ok ([], rest)
  | c :: cs, rest =>
    match o.letters.lookup c, cs, rest with
    | none, _, _ => .error (.unknownLetter c)
    | some .nothing, _, _ => (cluster o cs rest).map fun (gs, rest) => ((c, []) :: gs, rest)
    | some .value, [], v :: rest => .ok ([(c, v)], rest)
    | some .value, [], [] => .error (.missingFor c)
    | some _, _, _ => .ok ([(c, cs)], rest)

/-- Options and operands among the arguments; `fuel` bounds the number of arguments. -/
def readFrom (o : Options) : Nat → List Text → List Given → List Text →
    Except Misuse (List Given × List Text)
  | 0, _, given, operands => .ok (given.reverse, operands.reverse)
  | _ + 1, [], given, operands => .ok (given.reverse, operands.reverse)
  | fuel + 1, a :: args, given, operands =>
    match a with
    | ['-', '-'] => .ok (given.reverse, operands.reverse ++ args)
    | '-' :: '-' :: cs => do
      let (g, args) ← o.word cs args
      readFrom o fuel args (g :: given) operands
    | '-' :: c :: cs => do
      let (gs, args) ← o.cluster (c :: cs) args
      readFrom o fuel args (gs.reverse ++ given) operands
    | _ =>
      if o.stops then .ok (given.reverse, operands.reverse ++ a :: args)
      else readFrom o fuel args given (a :: operands)

def read (o : Options) (args : List Text) : Except Misuse (List Given × List Text) :=
  o.readFrom (args.length + 1) args [] []

/-- Letters in the order given; one colon after a letter marks a value, two a value that may
be missing. -/
def lettersOf : Text → List (Char × Takes)
  | c :: ':' :: ':' :: cs => (c, .maybe) :: lettersOf cs
  | c :: ':' :: cs => (c, .value) :: lettersOf cs
  | c :: cs => (c, .nothing) :: lettersOf cs
  | [] => []

/-- Words that stand for letters, each taking what its letter takes. -/
def make (letters : String) (words : List (String × Char) := []) (stops : Bool := false) :
    Options :=
  let ls := lettersOf letters.toList
  { letters := ls.filter fun l => l.1.isAlphanum || l.1.toNat > 32
    words := words.map fun (w, c) => (w, c, (ls.lookup c).getD .nothing), stops }

end Options

/-- The options and the operands that a program was given. -/
def readOptions (o : Options) : Run (List Given × List Text) := do
  match o.read (← arguments) with
  | .ok r => return r
  | .error m => misuse m.text

/-- Whether an option with one of these letters was given. -/
def has (letters : String) (given : List Given) : Bool :=
  given.any fun g => letters.toList.contains g.1

/-- The last value given with a letter. -/
def valueOf? (c : Char) (given : List Given) : Option Text :=
  (given.filter fun g => g.1 == c).getLast?.map (·.2)

/-- The letter given last among some. -/
def lastOf? (letters : String) (given : List Given) : Option Char :=
  (given.filter fun g => letters.toList.contains g.1).getLast?.map (·.1)

/-- Complains of operands beyond those that are wanted. -/
def atMost (n : Nat) (operands : List Text) : Run Unit := do
  if let some extra := operands[n]? then misuse ("extra operand ".toList ++ quoted extra)

/-!
## Words to choose from

The value of an option may have to be one of some words, which may be cut short as long as only
one value is meant.
-/

namespace Choice

/-- The words for each value. -/
abbrev Words (α : Type) := List (List String × α)

/-- Values with a word that a text begins; the whole word counts more. -/
def meant {α : Type} (ws : Words α) (cs : Text) : List α :=
  match ws.find? fun w => w.1.any (·.toList = cs) with
  | some w => [w.2]
  | none => (ws.filter fun w => w.1.any fun word => cs.isPrefixOf word.toList).map (·.2)

/-- Tells that a text is no word to choose, and which ones there are. -/
def refuse {α β : Type} (why : String) (context cs : Text) (ws : Words α) : Run β := do
  complain (why.toList ++ " argument ".toList ++ quoted cs ++ " for ".toList ++ quoted context)
  tell "Valid arguments are:".toList
  for w in ws do
    tell ("  - ".toList ++ List.intercalate ", ".toList (w.1.map fun word => quoted word.toList))
  advise
  quit (← get).failure

/-- The value that a text means; `context` says what it is for. -/
def read {α : Type} (context : Text) (ws : Words α) (cs : Text) : Run α := do
  match meant ws cs with
  | [a] => return a
  | [] => refuse "invalid" context cs ws
  | _ => refuse "ambiguous" context cs ws

end Choice

end CellRunner.Tool
