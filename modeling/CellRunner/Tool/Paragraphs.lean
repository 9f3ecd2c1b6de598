import CellRunner.Tool.Lines

/-!
# Paragraphs filled anew

The lines of a paragraph are broken where the sum of the costs of all lines is least. A line costs
more the further it is from the wished width, and some places are better for a break than others.
-/

set_option autoImplicit false

namespace CellRunner.Tool

open Machine (Prog)
open Shell (Text)

namespace Paragraphs

structure Style where
  /-- only the first line of a paragraph has its own indent -/
  crown : Bool
  tagged : Bool
  /-- lines are broken but not joined -/
  splits : Bool
  uniform : Bool
  greatest : Nat
  goal : Nat
  /-- what the lines of a paragraph begin with, without the blanks around it -/
  front : Text
  frontIndent : Nat
  /-- the length of the front with the blanks after it -/
  frontWhole : Nat

structure Word where
  text : Text
  /-- the blanks after the word -/
  space : Nat := 1
  opens : Bool := false
  ends : Bool := false
  punctuated : Bool := false
  /-- whether it is the last word of a sentence -/
  final : Bool := false
  deriving Inhabited

def isOpening (c : Char) : Bool := "(['\"".toList.contains c || c = Char.ofNat 0x60

def isClosing (c : Char) : Bool := ")]'\"".toList.contains c

def isEnd (c : Char) : Bool := ".?!".toList.contains c

def isPunctuation (c : Char) : Bool := ' ' < c && c ≤ '~' && !c.isAlphanum

def Word.of (text : Text) : Word :=
  let back := text.reverse
  let core := back.take (back.length - 1) |>.dropWhile isClosing
  let last := (core.head?).getD (text.headD ' ')
  { text, opens := (text.head?.map isOpening).getD false
    punctuated := (back.head?.map isPunctuation).getD false, ends := isEnd last }

/-- The front of a line: the indent of the front, the column after it, and the text that is
left. -/
structure Line where
  indent : Nat
  column : Nat
  rest : Text
  /-- whether the line is there at all -/
  isThere : Bool := true
  /-- whether the line was ended by a mark -/
  ended : Bool := true
  deriving Inhabited

/-- Skips blanks, and tells whether there were tabs. -/
def skip : Nat → Text → Nat × Text
  | column, ' ' :: cs => skip (column + 1) cs
  | column, '\t' :: cs => skip ((column / 8 + 1) * 8) cs
  | column, cs => (column, cs)

/-- Goes over as much of the front as a line has. -/
def along : Text → Nat → Text → Nat × Text × Bool
  | [], column, cs => (column, cs, true)
  | p :: ps, column, c :: cs => if p = c then along ps (column + 1) cs else (column, c :: cs, false)
  | _ :: _, column, [] => (column, [], false)

def Style.line (s : Style) (cs : Text) (isThere ended : Bool) : Line :=
  let (column, rest) := skip 0 cs
  if s.front.isEmpty then
    { indent := min s.frontIndent column, column, rest, isThere, ended }
  else
    let (after, rest, whole) := along s.front column rest
    if whole then
      let (after, rest) := skip after rest
      { indent := column, column := after, rest, isThere, ended }
    else { indent := column, column := after, rest, isThere, ended }

/-- Whether a line has no words, or not the front that it should have. -/
def Style.isApart (s : Style) (l : Line) : Bool :=
  l.rest.isEmpty || l.indent < s.frontIndent || l.column < l.indent + s.frontWhole

/-! ### Words -/

/-- The words of a line that begins in some column, and the column after it. -/
def wordsFrom (uniform : Bool) (ended : Bool) : Nat → Nat → Text → List Word
  | 0, _, _ => []
  | fuel + 1, column, cs =>
    let text := cs.takeWhile fun c => !(c = ' ' || ('\t' ≤ c && c ≤ '\r'))
    let rest := cs.drop text.length
    if text.isEmpty then
      -- a blank that is no space stands for itself
      match cs with
      | [] => []
      | c :: cs => wordsFrom uniform ended fuel column cs |> addFront c
    else
      let w := Word.of text
      let column := column + text.length
      let (after, rest) := skip column rest
      let space := after - column
      let isLast := rest.isEmpty
      let final := (isLast && !ended) || (w.ends && (isLast || space > 1))
      let space := if isLast || uniform then (if final then 2 else 1) else space
      { w with space, final } :: wordsFrom uniform ended fuel after rest
where
  addFront (c : Char) : List Word → List Word
    | [] => [Word.of [c]]
    | w :: ws => { Word.of (c :: w.text) with space := w.space, final := w.final } :: ws

/-! ### Costs -/

def square (n : Int) : Int := n * n

def shortCost (n : Int) : Int := square (n * 10)

def raggedCost (n : Int) : Int := shortCost n / 2

/-- What is known of the lines from a word on. -/
structure Plan where
  /-- where the next line begins -/
  next : Nat
  length : Nat
  cost : Int
  deriving Inhabited

/-- How good a place for the beginning of a line a word is. -/
def baseCost (words : Array Word) (i : Nat) : Int :=
  let cost := square 70
  let cost :=
    if i = 0 then cost
    else
      let before := words.getD (i - 1) default
      if before.ends then if before.final then cost - square 50 else cost + square 600
      else if before.punctuated then cost - square 40
      else if i > 1 && (words.getD (i - 2) default).final then
        cost + square 200 / (before.text.length + 2)
      else cost
  let w := words.getD i default
  if w.opens then cost - square 40
  else if w.final then cost + square 150 / (w.text.length + 2)
  else cost

/-- The best end of a line that begins with word `i`, if it ends before word `w` or later. -/
def bestEnd (s : Style) (words : Array Word) (plans : Array Plan) (last : Nat) (i : Nat) :
    Nat → Nat → Nat → Option Plan → Option Plan
  | 0, _, _, best => best
  | fuel + 1, w, length, best =>
    let n := words.size
    let lineCost : Int :=
      if w = n then 0
      else
        let p := plans.getD w default
        let cost := shortCost ((s.goal : Int) - length)
        if p.next = n then cost else cost + raggedCost ((length : Int) - p.length)
    let cost := lineCost + if w = n then 0 else (plans.getD w default).cost
    let cost := if i = 0 && last > 0 then cost + raggedCost ((length : Int) - last) else cost
    let better := match best with
      | none => true
      | some b => cost < b.cost
    let best := if better then some { next := w, length, cost } else best
    if w = n then best
    else
      let length := length + (words.getD (w - 1) default).space +
        (words.getD w default).text.length
      if length < s.greatest then bestEnd s words plans last i fuel (w + 1) length best else best

/-- Plans for all words, made from the last one to the first. -/
def plansFor (s : Style) (words : Array Word) (last first other : Nat) : Array Plan :=
  (List.range words.size).reverse.foldl (fun plans i =>
    let length := (if i = 0 then first else other) + (words.getD i default).text.length
    match bestEnd s words plans last i (words.size + 1) (i + 1) length none with
    | some p => plans.set! i { p with cost := p.cost + baseCost words i }
    | none => plans) (Array.replicate words.size default)

/-! ### Output -/

/-- Blanks up to a column, as tabs where the text has tabs. -/
def blanks (tabs : Bool) (column target : Nat) : Text :=
  let reach := target / 8 * 8
  if tabs && column + 1 < reach then
    List.replicate (reach / 8 - column / 8) '\t' ++ List.replicate (target - reach) ' '
  else List.replicate (target - column) ' '

/-- Puts words after one another; the text backwards and the column. -/
def joined (tabs : Bool) : Nat → List Word → Text → Nat × Text
  | column, [], made => (column, made)
  | column, [w], made => (column + w.text.length, w.text.reverse ++ made)
  | column, w :: ws, made =>
    let made := w.text.reverse ++ made
    let column := column + w.text.length
    joined tabs (column + w.space) ws ((blanks tabs column (column + w.space)).reverse ++ made)

/-- What is kept from one paragraph to the next. -/
structure State where
  tabs : Bool := false
  otherIndent : Nat := 0

def Style.indented (s : Style) (st : State) (indent first : Nat) (words : List Word) :
    Nat × Text :=
  let lead := blanks st.tabs 0 indent ++ s.front
  let column := indent + s.front.length
  let gap := blanks st.tabs column (max column first)
  joined st.tabs (max column first) words (lead ++ gap).reverse

/-- Shows the lines of a paragraph; the value is the length of the last one. -/
def showLines (s : Style) (st : State) (indent : Nat) (words : Array Word) (plans : Array Plan) :
    Nat → Nat → Nat → Run Unit
  | 0, _, _ => return ()
  | fuel + 1, i, first => do
    if i < words.size then
      let next := max (i + 1) (plans.getD i default).next
      let (_, made) := s.indented st indent first ((words.toList.drop i).take (next - i))
      out (made.reverse ++ ['\n'])
      showLines s st indent words plans fuel next st.otherIndent

/-- Copies a line that belongs to no paragraph. -/
def copyLine (s : Style) (st : State) (l : Line) : Run Unit := do
  let atEnd := !l.isThere
  if l.column > l.indent || !l.rest.isEmpty then
    let front := s.front.take (l.column - l.indent)
    let column := l.indent + front.length
    out (blanks st.tabs 0 l.indent ++ front)
    if !l.rest.isEmpty then out (blanks st.tabs column l.column)
    if atEnd && l.column ≥ l.indent + s.front.length then out ['\n']
  out l.rest
  if l.ended && l.isThere then out ['\n']

/-- Whether a line goes on with the paragraph of another one. -/
def Style.continues (s : Style) (indent : Nat) (l : Line) : Bool :=
  l.isThere && l.indent = indent && l.column ≥ l.indent + s.frontWhole && !l.rest.isEmpty

/-- The indent of the lines of a paragraph but the first. -/
def Style.otherIndent (s : Style) (st : State) (first : Nat) (same : Bool) (next : Line) : Nat :=
  if s.splits then first
  else if s.crown then if same then next.column else first
  else if s.tagged then
    if same && next.column != first then next.column
    else if st.otherIndent = first then if first = 0 then 3 else 0
    else st.otherIndent
  else first

/-- Whether the lines after the second one may belong to the paragraph. -/
def Style.reaches (s : Style) (first : Nat) (next : Line) : Bool :=
  !s.splits && (!s.tagged || s.crown || next.column != first)

/-- Goes through all lines; `fuel` bounds their number. -/
def fill (s : Style) : Nat → State → List Line → Run Unit
  | 0, _, _ => return ()
  | _ + 1, _, [] => return ()
  | fuel + 1, st, l :: rest => do
    if !l.isThere || s.isApart l then
      copyLine s st l
      if l.isThere then fill s fuel st rest
    else
      let next := rest.headD { indent := 0, column := 0, rest := [], isThere := false }
      let same := s.continues l.indent next
      let st := { st with otherIndent := s.otherIndent st l.column same next }
      let more := if same && s.reaches l.column next then
          rest.takeWhile fun m => s.continues l.indent m && m.column = st.otherIndent
        else []
      let wordsOf (m : Line) : List Word :=
        wordsFrom s.uniform m.ended (m.rest.length + 1) m.column m.rest
      let words := ((l :: more).flatMap wordsOf).toArray
      let words := words.modify (words.size - 1) fun w => { w with ends := true, final := true }
      let plans := plansFor s words 0 l.column st.otherIndent
      showLines s st l.indent words plans (words.size + 1) 0 l.column
      fill s fuel st (rest.drop more.length)

def linesOf (s : Style) (cs : Text) : List Line :=
  let whole := cs.getLast? = some '\n' || cs.isEmpty
  let ls := lines cs
  let isBlank := !whole && (ls.getLast?.map fun l => (skip 0 l).2.isEmpty).getD false
  let (ls, last) := if isBlank then (ls.dropLast, ls.getLastD []) else (ls, [])
  let n := ls.length
  ls.mapIdx (fun i l => s.line l true (i + 1 < n || whole || isBlank)) ++ [s.line last false false]

/-- Arguments in which a width after a dash stands as one. -/
def modern : List Text → List Text
  | ('-' :: c :: cs) :: rest =>
    if c.isDigit then ('-' :: 'w' :: c :: cs) :: rest else ('-' :: c :: cs) :: rest
  | args => args

def widest : Nat := 2500

end Paragraphs

open Paragraphs in
def fmt : Tool := do
  modify fun d => { d with call := { d.call with args := modern d.call.args } }
  let (os, operands) ← readOptions <| .make "cstuw:p:g:"
    [("crown-margin", 'c'), ("prefix", 'p'), ("split-only", 's'), ("tagged-paragraph", 't'),
      ("uniform-spacing", 'u'), ("width", 'w'), ("goal", 'g')]
  let width (c : Char) (most : Nat) : Run (Option Nat) := do
    match valueOf? c os with
    | none => return none
    | some v =>
      match natural? v with
      | some n =>
        if n ≤ most then return some n
        else fail ("invalid width: ".toList ++ quoted v ++
          ": Numerical result out of range".toList)
      | none => fail ("invalid width: ".toList ++ quoted v)
  let greatest ← width 'w' widest
  let goal ← width 'g' (greatest.getD 75)
  let greatest := greatest.getD (match goal with
    | some g => g + 10
    | none => 75)
  let front := (valueOf? 'p' os).getD []
  let bare := front.dropWhile (· = ' ')
  let s : Style :=
    { crown := has "c" os, tagged := has "t" os, splits := has "s" os, uniform := has "u" os
      greatest, goal := goal.getD (greatest * 187 / 200)
      front := (bare.reverse.dropWhile (· = ' ')).reverse, frontIndent := front.length - bare.length
      frontWhole := bare.length }
  forEach (orInput operands) fun path =>
    withInput path
      (fun e => do
        complain ("cannot open ".toList ++ named path ++ " for reading: ".toList ++
          Shell.ofString e.text)
        return 1)
      fun d => do
        match ← slurp d with
        | .error e =>
          complain (if path = ['-'] then "read error: ".toList ++ Shell.ofString e.text
            else "read error".toList)
          return 1
        | .ok bytes =>
          let cs := Shell.ofBytes bytes
          let ls := linesOf s cs
          fill s (ls.length + 1) { tabs := cs.contains '\t' } ls
          return 0

end CellRunner.Tool
