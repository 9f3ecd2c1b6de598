import CellRunner.Regex.Parse
import CellRunner.Tool.Amount

/-!
# Lines numbered, turned around and broken
-/

set_option autoImplicit false

namespace CellRunner.Tool

open Machine (Prog)
open Shell (Text)

namespace Lines

/-- Goes through the lines of all operands with a state. -/
def through {σ : Type} (operands : List Text) (mark : Char) (s : σ)
    (f : σ → Text → Bool → Run σ) : Run (Nat × σ) :=
  (orInput operands).foldlM (fun (code, s) path =>
    withInput path
      (fun e => do
        complainOf path e
        return (1, s))
      fun d => do
        let (s, feed) ← throughLines (fun s line ended => return some (← f s line ended)) mark
          Prog.fuel s { descriptor := d }
        match feed.trouble with
        | some e =>
          complainOf path e
          return (1, s)
        | none => return (code, s)) (0, s)

/-! ### Numbering -/

inductive Which where
  | all
  | full
  | none_
  | matching (r : Regex)

def which? (cs : Text) : Option Which :=
  match cs with
  | ['a'] => some .all
  | ['t'] => some .full
  | ['n'] => some .none_
  | 'p' :: rest => (Regex.parse {} rest).toOption.map .matching
  | _ => none

def Which.numbers (w : Which) (line : Text) : Bool :=
  match w with
  | .all => true
  | .full => !line.isEmpty
  | .none_ => false
  | .matching r => Regex.isMatch {} r line

structure Numbering where
  which : Which
  width : Nat
  separator : Text
  format : Text
  step : Int
  first : Int

def Numbering.number (n : Numbering) (i : Int) : Text :=
  let digits := ofInt i
  if n.format = ['l', 'n'] then padRight n.width digits
  else if n.format = ['r', 'z'] then
    let front : Text := if i < 0 then ['-'] else []
    let ds := ofNat i.natAbs
    front ++ List.replicate (n.width - front.length - ds.length) '0' ++ ds
  else padLeft n.width digits

def integer? (cs : Text) : Option Int :=
  match cs with
  | '-' :: ds => (natural? ds).map fun n => -(n : Int)
  | '+' :: ds => (natural? ds).map fun n => (n : Int)
  | _ => (natural? cs).map fun n => (n : Int)

def amountOf (os : List Given) (c : Char) (usual : Int) (what : String) : Run Int := do
  match valueOf? c os with
  | none => return usual
  | some v =>
    match integer? v with
    | some n => return n
    | none => fail ("invalid ".toList ++ what.toList ++ ": ".toList ++ quoted v)

/-! ### Breaking -/

structure Breaking where
  width : Nat
  /-- only after blanks, where there are any -/
  atBlanks : Bool
  bytes : Bool

/-- The column after a character. -/
def Breaking.after (b : Breaking) (column : Nat) (c : Char) : Nat :=
  if b.bytes then column + 1
  else if c = '\x08' then column - 1
  else if c = '\r' then 0
  else if c = '\t' then column + 8 - column % 8
  else column + 1

def Breaking.columns (b : Breaking) (cs : Text) : Nat := cs.foldl b.after 0

/-- The pieces of a line; `piece` is the present one backwards. -/
def breakFrom (b : Breaking) : Nat → Text → Text → List Text → List Text
  | 0, _, piece, made => (piece.reverse :: made).reverse
  | _ + 1, [], piece, made => (piece.reverse :: made).reverse
  | fuel + 1, c :: cs, piece, made =>
    if b.after (b.columns piece.reverse) c > b.width && !piece.isEmpty then
      let rest := piece.takeWhile fun c => c != ' ' && c != '\t'
      if b.atBlanks && rest.length < piece.length then
        breakFrom b fuel (c :: cs) rest ((piece.drop rest.length).reverse :: made)
      else breakFrom b fuel (c :: cs) [] (piece.reverse :: made)
    else breakFrom b fuel cs (c :: piece) made

/-! ### Tabs -/

/-- Where the next tab stop after a column is. -/
def nextStop (stops : List Nat) (column : Nat) : Nat :=
  match stops with
  | [] => column + 8 - column % 8
  | [n] => column + n - column % n
  | _ => (stops.find? (column < ·)).getD (column + 1)

def expandFrom (stops : List Nat) (initialOnly : Bool) : Nat → Bool → Text → Text
  | _, _, [] => []
  | column, atStart, c :: cs =>
    if c = '\t' && (atStart || !initialOnly) then
      let n := nextStop stops column
      List.replicate (n - column) ' ' ++ expandFrom stops initialOnly n atStart cs
    else
      let next := if c = '\x08' then column - 1 else if c = '\t' then nextStop stops column
        else column + 1
      c :: expandFrom stops initialOnly next (atStart && (c = ' ' || c = '\t')) cs

def tabStops (os : List Given) : Run (List Nat) := do
  match valueOf? 't' os with
  | none => return []
  | some v =>
    let items := v.foldr (fun c s => if c = ',' || c = ' ' then [] :: s else
      match s with
      | x :: xs => (c :: x) :: xs
      | [] => [[c]]) [[]]
    match items.mapM natural? with
    | some ns =>
      if ns.contains 0 then fail "tab size cannot be 0".toList
      return ns
    | none =>
      fail ("tab size contains invalid character(s): ".toList ++ quoted (v.dropWhile Char.isDigit))

/-- Blanks at the front as tabs where a tab stop is reached; `blanks` counts those that were
not written yet. -/
def unexpandFrom (stops : List Nat) (everywhere : Bool) : Nat → Nat → Bool → Text → Text
  | _, blanks, _, [] => List.replicate blanks ' '
  | column, blanks, atStart, c :: cs =>
    if !atStart && !everywhere then List.replicate blanks ' ' ++ c :: cs
    else if c = ' ' then
      let column := column + 1
      if nextStop stops (column - 1) = column && blanks + 1 > 1 then
        '\t' :: unexpandFrom stops everywhere column 0 atStart cs
      else unexpandFrom stops everywhere column (blanks + 1) atStart cs
    else if c = '\t' then
      '\t' :: unexpandFrom stops everywhere (nextStop stops column) 0 atStart cs
    else
      List.replicate blanks ' ' ++ c :: unexpandFrom stops everywhere (column + 1) 0 false cs

/-! ### Turning around -/

/-- The lines of a text, each with the mark that ends it. -/
def wholeLines (mark : Char) (cs : Text) : List Text :=
  let (front, last) := cs.foldr (fun c (s : List Text × Text) =>
    if c = mark then ((match s with
      | (ls, []) => (ls, [c])
      | (ls, l) => (l :: ls, [c])))
    else (s.1, c :: s.2)) (([], []) : List Text × Text)
  if last.isEmpty then front else last :: front

end Lines

open Lines in
def nl : Tool := do
  let (os, operands) ← readOptions <| .make "b:d:f:h:i:l:n:ps:v:w:"
    [("body-numbering", 'b'), ("section-delimiter", 'd'), ("footer-numbering", 'f'),
      ("header-numbering", 'h'), ("line-increment", 'i'), ("join-blank-lines", 'l'),
      ("number-format", 'n'), ("no-renumber", 'p'), ("number-separator", 's'),
      ("starting-line-number", 'v'), ("number-width", 'w')]
  let style := (valueOf? 'b' os).getD ['t']
  match which? style with
  | none => misuse ("invalid body numbering style: ".toList ++ quoted style)
  | some which =>
    let format := (valueOf? 'n' os).getD ['r', 'n']
    if !([['r', 'n'], ['l', 'n'], ['r', 'z']].contains format) then
      misuse ("invalid line numbering format: ".toList ++ quoted format)
    let n : Numbering :=
      { which, format, separator := (valueOf? 's' os).getD ['\t']
        width := (← amountOf os 'w' 6 "line number field width").toNat
        step := ← amountOf os 'i' 1 "line number increment"
        first := ← amountOf os 'v' 1 "starting line number" }
    let (code, _) ← through operands '\n' n.first fun i line _ => do
      if n.which.numbers line then
        out (n.number i ++ n.separator ++ line ++ ['\n'])
        return i + n.step
      else
        out (List.replicate (n.width + n.separator.length) ' ' ++ line ++ ['\n'])
        return i
    return code

open Lines in
def fold : Tool := do
  let args ← arguments
  if let some (('-' :: c :: cs) :: rest) := some args then
    if c.isDigit then
      modify fun d =>
        { d with call := { d.call with args := ['-', 'w'] :: (c :: cs) :: rest } }
  let (os, operands) ← readOptions <| .make "bsw:"
    [("bytes", 'b'), ("spaces", 's'), ("width", 'w')]
  let v := (valueOf? 'w' os).getD ['8', '0']
  match natural? v with
  | none => fail ("invalid number of columns: ".toList ++ quoted v)
  | some 0 => fail ("invalid number of columns: ".toList ++ quoted v)
  | some width =>
    let b : Breaking := { width, atBlanks := has "s" os, bytes := has "b" os }
    let (code, _) ← through operands '\n' () fun _ line ended => do
      out (List.intercalate ['\n'] (breakFrom b (2 * line.length + 2) line [] []) ++
        if ended then ['\n'] else [])
    return code

open Lines in
def expand : Tool := do
  let (os, operands) ← readOptions <| .make "it:" [("initial", 'i'), ("tabs", 't')]
  let stops ← tabStops os
  let (code, _) ← through operands '\n' () fun _ line ended =>
    out (expandFrom stops (has "i" os) 0 true line ++ if ended then ['\n'] else [])
  return code

open Lines in
def unexpand : Tool := do
  let (os, operands) ← readOptions <| .make "at:\x01"
    [("all", 'a'), ("tabs", 't'), ("first-only", '\x01')]
  let stops ← tabStops os
  let everywhere := has "at" os && !has "\x01" os
  let (code, _) ← through operands '\n' () fun _ line ended =>
    out (unexpandFrom stops everywhere 0 0 true line ++ if ended then ['\n'] else [])
  return code

open Lines in
def rev : Tool := do
  let (_, operands) ← readOptions <| .make "0" [("zero", '0')]
  forEach (orInput operands) fun path =>
    withInput path
      (fun e => do
        complain (because ("cannot open ".toList ++ path) e)
        return 1)
      fun d => do
        let (_, feed) ← throughLines (fun _ line ended => do
          out (line.reverse ++ if ended then ['\n'] else [])
          return some ()) '\n' Prog.fuel () { descriptor := d }
        match feed.trouble with
        | some e =>
          complain (because path e)
          return 1
        | none => return 0

open Lines in
def tac : Tool := do
  let (os, operands) ← readOptions <| .make "brs:"
    [("before", 'b'), ("regex", 'r'), ("separator", 's')]
  let mark := ((valueOf? 's' os).getD ['\n']).headD '\x00'
  forEach (orInput operands) fun path => do
    match ← contents path with
    | .ok cs =>
      out (wholeLines mark cs).reverse.flatten
      return 0
    | .error .isDirectory =>
      complain (because (beforeColon path ++ ": read error".toList) .isDirectory)
      return 1
    | .error e =>
      complain ("failed to open ".toList ++ because (named path ++ " for reading".toList) e)
      return 1

end CellRunner.Tool
