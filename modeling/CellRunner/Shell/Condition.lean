import CellRunner.Shell.Format

/-!
# Conditions

What `test` decides: facts about texts, numbers and files, joined by not, and, or. There are
two ways of reading arguments: a loose one, which takes what it does not understand for texts,
and a strict one.
-/

set_option autoImplicit false

namespace CellRunner.Shell

open Machine (Prog FileInfo Files)

inductive Condition where
  | nonEmpty (s : Text)
  | file (letter : Char) (path : Text)
  | texts (operator : String) (a b : Text)
  | numbers (operator : String) (a b : Text)
  | files (operator : String) (a b : Text)
  | negation (c : Condition)
  | both (a b : Condition)
  | either (a b : Condition)
  deriving DecidableEq, Repr

namespace Condition

/-- What is wrong with the arguments. -/
inductive Fault where
  /-- nothing stands after an operator -/
  | missingAfter (a : Text)
  | notUnary (a : Text)
  | notBinary (a : Text)
  | notNumber (a : Text)
  /-- arguments are left over -/
  | extra (a : Text)
  /-- a parenthesis is missing; another argument may stand in its place -/
  | unclosed (found : Option Text)
  deriving DecidableEq, Repr

def textOperators : List String := ["=", "!=", "<", ">"]

def numberOperators : List String := ["-eq", "-ne", "-lt", "-le", "-gt", "-ge"]

def fileOperators : List String := ["-ef", "-nt", "-ot"]

def operators : List String := textOperators ++ numberOperators ++ fileOperators

/-- Letters of the questions about one argument. -/
def unaryLetters : List Char :=
  ['b', 'c', 'd', 'e', 'f', 'g', 'h', 'k', 'L', 'n', 'O', 'p', 'G', 'r', 's', 'S', 't', 'u', 'w',
    'x', 'z']

/-- What the next argument is taken for. -/
inductive Lexeme where
  | finish
  | operand
  | unary (letter : Char)
  | binary (operator : String)
  | negation
  | conjunction
  | disjunction
  | opening
  | closing
  deriving DecidableEq, Repr

/-- What an argument is taken for when nothing stands in the way. -/
def lexemeOf (a : Text) : Lexeme :=
  let s := String.ofList a
  if operators.contains s then .binary s
  else
    match a with
    | ['!'] => .negation
    | ['-', 'a'] => .conjunction
    | ['-', 'o'] => .disjunction
    | ['('] => .opening
    | [')'] => .closing
    | ['-', c] => if unaryLetters.contains c then .unary c else .operand
    | _ => .operand

def isBinary (a : Text) : Bool :=
  match lexemeOf a with
  | .binary _ => true
  | _ => false

/-- An operator that has nothing after it, or another one, is an operand. -/
def lex : List Text → Lexeme
  | [] => .finish
  | a :: rest =>
    match lexemeOf a, rest with
    | .unary _, [] => .operand
    | .unary c, b :: more => if !more.isEmpty && isBinary b then .operand else .unary c
    | .opening, [] => .operand
    | l, _ => l

/-- The question that a letter asks about an argument. -/
def ofLetter (letter : Char) (a : Text) : Condition :=
  if letter = 'n' then .nonEmpty a
  else if letter = 'z' then .negation (.nonEmpty a)
  else .file letter a

def ofOperator (operator : String) (a b : Text) : Condition :=
  if textOperators.contains operator || operator = "==" then .texts operator a b
  else if fileOperators.contains operator then .files operator a b
  else .numbers operator a b

/-- A whole decimal number. -/
def integer? (cs : Text) : Option Int :=
  let trimmed := ((cs.dropWhile Format.isSpace).reverse.dropWhile Format.isSpace).reverse
  let (negative, ds) := Format.signAt trimmed
  if ds.isEmpty || !ds.all Char.isDigit then none
  else
    let n : Int := Format.decimal ds
    some (if negative then -n else n)

/-- A number that a machine word holds. -/
def word? (cs : Text) : Option Int :=
  (integer? cs).filter fun n => -(Int.pow 2 63) ≤ n && n < Int.pow 2 63

/-- The condition at the front, taking the first argument for `l`; what is left begins with the
last argument of the condition. -/
abbrev Reading := Except Fault (Condition × List Text)

mutual

def disjunction : Nat → Lexeme → List Text → Reading
  | 0, _, _ => .error (.unclosed none)
  | fuel + 1, l, args => do
    let (a, rest) ← conjunction fuel l args
    if lex rest.tail = .disjunction then
      let (b, rest) ← disjunction fuel (lex (rest.drop 2)) (rest.drop 2)
      .ok (.either a b, rest)
    else .ok (a, rest)

def conjunction : Nat → Lexeme → List Text → Reading
  | 0, _, _ => .error (.unclosed none)
  | fuel + 1, l, args => do
    let (a, rest) ← factor fuel l args
    if lex rest.tail = .conjunction then
      let (b, rest) ← conjunction fuel (lex (rest.drop 2)) (rest.drop 2)
      .ok (.both a b, rest)
    else .ok (a, rest)

def factor : Nat → Lexeme → List Text → Reading
  | 0, _, _ => .error (.unclosed none)
  | fuel + 1, l, args => do
    if l = .negation then
      let next := lex args.tail
      let (c, rest) ← factor fuel next (if next = .finish then args else args.tail)
      .ok (.negation c, rest)
    else primary fuel l args

def primary : Nat → Lexeme → List Text → Reading
  | 0, _, _ => .error (.unclosed none)
  | fuel + 1, l, args => do
    let here := args.headD []
    match l, args.tail with
    | .finish, _ => .ok (.nonEmpty [], args)
    | .opening, inner =>
      if lex inner = .closing then .ok (.nonEmpty [], inner)
      else
        let (c, rest) ← disjunction fuel (lex inner) inner
        if lex rest.tail = .closing then .ok (c, rest.tail)
        else .error (.unclosed none)
    | .unary _, [] => .error (.missingAfter here)
    | .unary letter, a :: rest => .ok (ofLetter letter a, a :: rest)
    | _, rest =>
      match lex rest, rest with
      | .binary o, [_] => .error (.missingAfter o.toList)
      | .binary o, _ :: b :: more =>
        match if numberOperators.contains o then [here, b].find? (word? · |>.isNone) else none with
        | some bad => .error (.notNumber bad)
        | none => .ok (ofOperator o here b, b :: more)
      | _, _ => .ok (.nonEmpty here, args)

end

/-- All arguments as one condition, the first of them taken for `l`. -/
def whole (l : Lexeme) (args : List Text) : Except Fault Condition := do
  match ← disjunction (8 * args.length + 8) l args with
  | (_, a :: _ :: _) => .error (.extra a)
  | (c, _) => .ok c

/-- The condition that the arguments spell, or what is wrong with them. Three arguments with
an operator in the middle have no other meaning. -/
def parse : List Text → Except Fault Condition
  | [] => .ok (.nonEmpty [])
  | [a, o, b] =>
    if isBinary o then whole .operand [a, o, b]
    else if a = ['('] && b = [')'] then whole (lex [o]) [o]
    else if a = ['!'] then .negation <$> whole (lex [o, b]) [o, b]
    else whole (lex [a, o, b]) [a, o, b]
  | [a, b, c, d] =>
    if a = ['('] && d = [')'] then whole (lex [b, c]) [b, c]
    else if a = ['!'] then .negation <$> parse [b, c, d]
    else whole (lex [a, b, c, d]) [a, b, c, d]
  | args => whole (lex args) args

/-! ### The strict way -/

/-- Further letters and operators that only the strict way of a shell knows. -/
structure Manner where
  letters : List Char := unaryLetters
  operators : List String := Condition.operators
  /-- whether an operator alone with one argument has to be one of the letters -/
  demandsLetter : Bool := false

def Manner.isBinary (m : Manner) (a : Text) : Bool := m.operators.contains (String.ofList a)

def isDash (a : Text) : Bool :=
  match a with
  | ['-', _] => true
  | _ => false

/-- A question about one argument. -/
def strictUnary (m : Manner) : List Text → Reading
  | ['-', c] :: rest =>
    if !m.letters.contains c then .error (.notUnary ['-', c])
    else
      match rest with
      | a :: rest => .ok (ofLetter c a, rest)
      | [] => .error (.missingAfter ['-', c])
  | a :: _ => .error (.notUnary a)
  | [] => .error (.missingAfter [])

def strictTwo (m : Manner) : List Text → Reading
  | ['!'] :: a :: rest => .ok (.negation (.nonEmpty a), rest)
  | a :: rest =>
    if isDash a then strictUnary m (a :: rest)
    else if m.demandsLetter then .error (.notUnary a)
    else .error (.missingAfter ((a :: rest).getLastD []))
  | [] => .error (.missingAfter [])

mutual

def strictEither (m : Manner) (last : Text) : Nat → List Text → Reading
  | 0, _ => .error (.unclosed none)
  | fuel + 1, args => do
    let (a, rest) ← strictBoth m last fuel args
    match rest with
    | ['-', 'o'] :: more =>
      let (b, rest) ← strictEither m last fuel more
      .ok (.either a b, rest)
    | _ => .ok (a, rest)

def strictBoth (m : Manner) (last : Text) : Nat → List Text → Reading
  | 0, _ => .error (.unclosed none)
  | fuel + 1, args => do
    let (a, rest) ← strictTerm m last fuel args
    match rest with
    | ['-', 'a'] :: more =>
      let (b, rest) ← strictBoth m last fuel more
      .ok (.both a b, rest)
    | _ => .ok (a, rest)

def strictTerm (m : Manner) (last : Text) : Nat → List Text → Reading
  | 0, _ => .error (.unclosed none)
  | fuel + 1, args =>
    match args with
    | [] => .error (.missingAfter last)
    | ['!'] :: rest => do
      let (c, rest) ← strictTerm m last fuel rest
      .ok (.negation c, rest)
    | ['('] :: rest => do
      let inner := (rest.drop 1).takeWhile (· != [')'])
      let n := if inner.length ≥ 4 then rest.length else inner.length + 1
      let (c, after) ← strictCount m last fuel n rest
      match after with
      | [')'] :: rest => .ok (c, rest)
      | a :: _ => .error (.unclosed (some a))
      | [] => .error (.unclosed none)
    | a :: o :: b :: rest =>
      if m.isBinary o then .ok (ofOperator (String.ofList o) a b, rest)
      else if isDash a then strictUnary m args
      else .ok (.nonEmpty a, o :: b :: rest)
    | a :: rest => if isDash a then strictUnary m args else .ok (.nonEmpty a, rest)

/-- A condition that a number of arguments at the front spell. -/
def strictCount (m : Manner) (last : Text) : Nat → Nat → List Text → Reading
  | 0, _, _ => .error (.unclosed none)
  | fuel + 1, n, args =>
    match n, args with
    | 1, a :: rest => .ok (.nonEmpty a, rest)
    | 2, _ => strictTwo m args
    | 3, a :: o :: b :: rest =>
      if m.isBinary o then .ok (ofOperator (String.ofList o) a b, rest)
      else if o = ['-', 'a'] then .ok (.both (.nonEmpty a) (.nonEmpty b), rest)
      else if o = ['-', 'o'] then .ok (.either (.nonEmpty a) (.nonEmpty b), rest)
      else if a = ['!'] then do
        let (c, rest) ← strictTwo m (o :: b :: rest)
        .ok (.negation c, rest)
      else if a = ['('] && b = [')'] then .ok (.nonEmpty o, rest)
      else .error (.notBinary o)
    | 4, a :: b :: c :: d :: rest =>
      if a = ['!'] then do
        let (x, rest) ← strictCount m last fuel 3 (b :: c :: d :: rest)
        .ok (.negation x, rest)
      else if a = ['('] && d = [')'] then do
        let (x, _) ← strictTwo m [b, c]
        .ok (x, rest)
      else strictEither m last fuel args
    | _, _ => strictEither m last fuel args

end

/-- The condition that the arguments spell when nothing is overlooked. -/
def strict (m : Manner) (args : List Text) : Except Fault Condition :=
  if args.isEmpty then .ok (.nonEmpty [])
  else do
    let last := args.getLastD []
    match ← strictCount m last (8 * args.length + 16) args.length args with
    | (c, []) => .ok c
    | (_, a :: _) => .error (.extra a)

/-! ### Deciding -/

def compareNumbers (operator : String) (a b : Int) : Bool :=
  match operator with
  | "-eq" => a = b
  | "-ne" => a ≠ b
  | "-lt" => a < b
  | "-le" => a ≤ b
  | "-gt" => a > b
  | _ => a ≥ b

def compareTexts (operator : String) (a b : Text) : Bool :=
  match operator with
  | "=" => a = b
  | "==" => a = b
  | "!=" => a ≠ b
  | "<" => String.ofList a < String.ofList b
  | _ => String.ofList b < String.ofList a

def fileHolds (letter : Char) (info : FileInfo) : Bool :=
  let has (bits : Nat) : Bool := info.mode &&& bits != 0
  match letter with
  | 'f' => info.kind == .file
  | 'd' => info.isDirectory
  | 'c' => info.kind == .device
  | 'p' => info.kind == .pipe
  | 'h' => info.kind == .link
  | 'L' => info.kind == .link
  | 'r' => info.allows Machine.Files.reading
  | 'w' => info.allows Machine.Files.writing
  | 'x' => info.allows Machine.Files.searching
  | 'O' => info.owned
  | 'G' => info.owned
  | 's' => info.size > 0
  | 'g' => has 0o2000
  | 'u' => has 0o4000
  | 'k' => has 0o1000
  | 'b' => false
  | 'S' => false
  | 't' => false
  | 'N' => false
  | _ => true

/-- Whether an open file or a path is as a letter asks. -/
def asksFile (letter : Char) (path : Text) : Prog Bool := do
  let follows := letter != 'h' && letter != 'L'
  if letter = 't' then return false
  match ← Prog.ask (.stat (asName path) follows) with
  | .ok info => return fileHolds letter info
  | .error _ => return false

/-- Compares two files; a missing one is older than any other, if that is counted. -/
def compareFiles (missingIsOld : Bool) (operator : String) (a b : Text) : Prog Bool := do
  let x := (← Prog.ask (.stat (asName a) true)).toOption
  let y := (← Prog.ask (.stat (asName b) true)).toOption
  return match operator, x, y with
    | "-ef", some x, some y => x.number = y.number
    | "-nt", some x, some y => x.changed > y.changed
    | "-ot", some x, some y => x.changed < y.changed
    | "-nt", some _, none => missingIsOld
    | "-ot", none, some _ => missingIsOld
    | _, _, _ => false

/-- Whether a condition holds now; `bounded` refuses numbers out of range, and `missingIsOld`
says how missing files are compared. Both sides are looked at. -/
def holds (bounded missingIsOld : Bool) : Condition → Prog (Except Fault Bool)
  | .nonEmpty s => pure (.ok !s.isEmpty)
  | .file letter path => do
    if letter = 't' && (integer? path).isNone && bounded then return .error (.notNumber path)
    return .ok (← asksFile letter path)
  | .texts o a b => pure (.ok (compareTexts o a b))
  | .files o a b => do return .ok (← compareFiles missingIsOld o a b)
  | .numbers o a b =>
    let number (cs : Text) : Option Int := if bounded then word? cs else integer? cs
    match number a, number b with
    | some x, some y => pure (.ok (compareNumbers o x y))
    | none, _ => pure (.error (.notNumber a))
    | _, none => pure (.error (.notNumber b))
  | .negation c => do
    match ← holds bounded missingIsOld c with
    | .ok b => pure (.ok !b)
    | r => pure r
  | .both a b => do
    match ← holds bounded missingIsOld a with
    | .ok x => return (← holds bounded missingIsOld b).map (x && ·)
    | r => pure r
  | .either a b => do
    match ← holds bounded missingIsOld a with
    | .ok x => return (← holds bounded missingIsOld b).map (x || ·)
    | r => pure r

end Condition

end CellRunner.Shell
