import CellRunner.Tool.Options

/-!
# Arguments put in order

The options among some arguments come first, each with its value, and the operands after two
dashes.
-/

set_option autoImplicit false

namespace CellRunner.Tool

open Machine (Prog)
open Shell (Text)

namespace Arguments

/-- What happens to arguments that are no options. -/
inductive Ordering where
  | last
  /-- nothing after the first one is an option -/
  | stopping
  | inPlace
  deriving DecidableEq

structure Rules where
  letters : List (Char × Takes)
  words : List (String × Takes)
  ordering : Arguments.Ordering
  /-- whether one dash may begin a word -/
  alone : Bool
  isQuoted : Bool
  /-- the name in complaints; none if there are none -/
  name : Option Text
  isSilent : Bool

def Rules.show (r : Rules) (cs : Text) : Run Unit := do
  if !r.isSilent then
    let piece (c : Char) : Text := if c = '\'' then "'\\''".toList else [c]
    out (' ' :: if r.isQuoted then '\'' :: cs.flatMap piece ++ ['\''] else cs)

def Rules.front (r : Rules) (cs : Text) : Run Unit := do
  if !r.isSilent then out (' ' :: cs)

def Rules.blame (r : Rules) (m : Text) : Run Unit := do
  if let some name := r.name then tell (name ++ ": ".toList ++ m)

/-- The words that begin with a text. -/
def Rules.meanings (r : Rules) (word : Text) : List (String × Takes) :=
  match r.words.find? fun w => w.1.toList = word with
  | some w => [w]
  | none =>
    let found := r.words.filter fun w => word.isPrefixOf w.1.toList
    match found with
    | [] => []
    | w :: ws => if ws.all fun x => x == w then [w] else found

/-- A word with what follows it; `mark` is how it was written. The value tells whether it was
right, and the arguments that are left. -/
def Rules.word (r : Rules) (mark : String) (cs : Text) (rest : List Text) :
    Run (Bool × List Text) := do
  let (name, value) := cs.span (· != '=')
  let spelled (w : String) : Text := '\'' :: mark.toList ++ w.toList ++ ['\'']
  match r.meanings name with
  | [] =>
    r.blame ("unrecognized option '".toList ++ mark.toList ++ cs ++ ['\''])
    return (false, rest)
  | [(w, takes)] =>
    let shown := "--".toList ++ w.toList
    match takes, value, rest with
    | .nothing, [], _ =>
      r.front shown
      return (true, rest)
    | .nothing, _, _ =>
      r.blame ("option ".toList ++ spelled w ++ " doesn't allow an argument".toList)
      return (false, rest)
    | _, _ :: v, _ =>
      r.front shown
      r.show v
      return (true, rest)
    | .maybe, [], _ =>
      r.front shown
      r.show []
      return (true, rest)
    | .value, [], v :: rest =>
      r.front shown
      r.show v
      return (true, rest)
    | .value, [], [] =>
      r.blame ("option ".toList ++ spelled w ++ " requires an argument".toList)
      return (false, rest)
  | found =>
    let shown := found.flatMap fun f => ' ' :: spelled f.1
    r.blame ("option '".toList ++ mark.toList ++ cs ++ "' is ambiguous; possibilities:".toList ++ shown)
    return (false, rest)

/-- Letters after one dash. -/
def Rules.cluster (r : Rules) : Text → List Text → Bool → Run (Bool × List Text)
  | [], rest, ok => return (ok, rest)
  | c :: cs, rest, ok => do
    match (if c = ':' || c = ';' then none else r.letters.lookup c), cs, rest with
    | none, _, _ =>
      r.blame ("invalid option -- '".toList ++ [c, '\''])
      r.cluster cs rest false
    | some .nothing, _, _ =>
      r.front ['-', c]
      r.cluster cs rest ok
    | some .value, [], v :: rest =>
      r.front ['-', c]
      r.show v
      return (ok, rest)
    | some .value, [], [] =>
      r.blame ("option requires an argument -- '".toList ++ [c, '\''])
      return (false, rest)
    | some _, _, _ =>
      r.front ['-', c]
      r.show cs
      return (ok, rest)

/-- All arguments; `fuel` bounds their number. -/
def Rules.all (r : Rules) : Nat → List Text → List Text → Bool → Run Bool
  | 0, _, _, ok => return ok
  | fuel + 1, args, operands, ok => do
    let finish (rest : List Text) : Run Bool := do
      r.front "--".toList
      (operands.reverse ++ rest).forM r.show
      return ok
    match args with
    | [] => finish []
    | a :: rest =>
      match a with
      | ['-', '-'] => finish rest
      | '-' :: '-' :: cs => do
        let (fine, rest) ← r.word "--" cs rest
        r.all fuel rest operands (ok && fine)
      | '-' :: c :: cs =>
        let isWord := r.alone && !((r.meanings ((c :: cs).takeWhile (· != '='))).isEmpty &&
          (r.letters.lookup c).isSome)
        if isWord && !(cs.isEmpty && (r.letters.lookup c).isSome) then do
          let (fine, rest) ← r.word "-" (c :: cs) rest
          r.all fuel rest operands (ok && fine)
        else do
          let (fine, rest) ← r.cluster (c :: cs) rest true
          r.all fuel rest operands (ok && fine)
      | _ =>
        match r.ordering with
        | .last => r.all fuel rest (a :: operands) ok
        | .stopping => finish args
        | .inPlace => do
          r.show a
          r.all fuel rest operands ok

/-- Words with the colons that tell what they take. -/
def wordsIn (cs : Text) : List (String × Takes) :=
  ((cs.splitOnP fun c => c = ',' || c = ' ' || c = '\t' || c = '\n').filter (!·.isEmpty)).map fun w =>
    if [':', ':'].isSuffixOf w then (String.ofList (w.take (w.length - 2)), .maybe)
    else if [':'].isSuffixOf w then (String.ofList w.dropLast, .value)
    else (String.ofList w, .nothing)

/-- Letters with the colons that tell what they take, and the place of operands. -/
def lettersIn (cs : Text) : Arguments.Ordering × List (Char × Takes) :=
  match cs with
  | '+' :: cs => (.stopping, Options.lettersOf cs)
  | '-' :: cs => (.inPlace, Options.lettersOf cs)
  | cs => (.last, Options.lettersOf cs)

def refuse {α : Type} (message : Text) : Run α := do
  complain message
  advise
  quit 2

end Arguments

open Arguments in
def getopt : Tool := do
  modify fun d => { d with failure := 2 }
  let args ← arguments
  let self := (← get).call.name
  let answer (r : Rules) (args : List Text) : Run Nat := do
    let ok ← r.all (args.length + 1) args [] true
    if !r.isSilent then out ['\n']
    return if ok then 0 else 1
  match args with
  | [] => refuse "missing optstring argument".toList
  | spec :: rest =>
    if spec.head? != some '-' then
      let bare := spec.dropWhile fun c => c = '-' || c = '+'
      answer
        { letters := Options.lettersOf bare, words := [], ordering := .last
          alone := false, isQuoted := false, name := some self, isSilent := false } rest
    else
      let (os, operands) ← readOptions <| .make "+ao:l:n:qQs:TuhV"
        [("options", 'o'), ("longoptions", 'l'), ("quiet", 'q'), ("quiet-output", 'Q'),
          ("shell", 's'), ("test", 'T'), ("unquoted", 'u'), ("alternative", 'a'), ("name", 'n')] true
      if has "T" os then quit 4
      if let some s := valueOf? 's' os then
        if !(["sh", "bash", "csh", "tcsh"].contains (String.ofList s)) then
          refuse "unknown shell after -s or --shell argument".toList
      let given ← match valueOf? 'o' os, operands with
        | some o, rest => pure (o, rest)
        | none, o :: rest => pure (o, rest)
        | none, [] => refuse "missing optstring argument".toList
      let (ordering, letters) := lettersIn given.1
      answer
        { letters, ordering, words := (os.filter (·.1 == 'l')).flatMap fun o => wordsIn o.2
          alone := has "a" os, isQuoted := !has "u" os
          name := if has "q" os then none else some ((valueOf? 'n' os).getD self)
          isSilent := has "Q" os } given.2

end CellRunner.Tool
