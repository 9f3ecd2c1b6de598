import CellRunner.Shell.Format
import CellRunner.Tool.Options

/-!
# Replacing characters

Sets of characters are written with ranges, classes, repetitions and escapes.
-/

set_option autoImplicit false

namespace CellRunner.Tool

open Machine (Prog)
open Shell (Text toBytes ofBytes ofString)

namespace Charset

/-- A part of a set as it is written. -/
inductive Piece where
  | one (c : Char)
  | range (a b : Char)
  | named (name : String)
  /-- a character some times over; none for as often as it takes -/
  | repeated (c : Char) (count : Option Nat)
  deriving DecidableEq, Repr

inductive Fault where
  | reversed (a b : Char)
  | unknownClass (name : Text)
  | noClass
  | noEquivalent
  | notOne (cs : Text)
  | badCount (cs : Text)
  deriving DecidableEq, Repr

def printable (c : Char) : Text :=
  if c = '\\' then ['\\', '\\'] else if isPrintable c then [c] else escaped c

def Fault.text : Fault → Text
  | .reversed a b =>
    "range-endpoints of '".toList ++ printable a ++ '-' :: printable b ++
      "' are in reverse collating sequence order".toList
  | .unknownClass name => "invalid character class ".toList ++ quoted name
  | .noClass => "missing character class name '[::]'".toList
  | .noEquivalent => "missing equivalence class character '[==]'".toList
  | .notOne cs => cs ++ ": equivalence class operand must be a single character".toList
  | .badCount cs => "invalid repeat count ".toList ++ quoted cs ++ " in [c*n] construct".toList

/-- A character, and whether a backslash stood before it. -/
abbrev Mark := Char × Bool

/-- The characters of a text with their escapes carried out. -/
def marks : Nat → Text → List Mark
  | 0, _ => []
  | _ + 1, [] => []
  | fuel + 1, c :: cs =>
    if c != '\\' then (c, false) :: marks fuel cs
    else
      match cs with
      | [] => [('\\', false)]
      | d :: rest =>
        if Shell.Format.isOctal d then
          let three := (cs.take 3).takeWhile Shell.Format.isOctal
          let digits := if Shell.Format.octalValue three > 255 then three.take 2 else three
          (Shell.Format.byte (Shell.Format.octalValue digits), true) ::
            marks fuel (cs.drop digits.length)
        else
          let c := match "abfnrtv".toList.idxOf? d with
            | some i => "\x07\x08\x0c\n\r\t\x0b".toList.getD i d
            | none => d
          (c, true) :: marks fuel rest

def isPlain (c : Char) (m : Mark) : Bool := m.1 == c && !m.2

/-- What stands before a pair of marks that closes a class, and what follows it. -/
def closing? (delimiter : Char) : List Mark → List Mark → Option (List Mark × List Mark)
  | a :: b :: rest, front =>
    if isPlain delimiter a && isPlain ']' b then some (front.reverse, rest)
    else closing? delimiter (b :: rest) (a :: front)
  | _, _ => none

/-- A repetition after its opening bracket. -/
def repetition? (ms : List Mark) : Except Fault (Option (Piece × List Mark)) :=
  match ms with
  | (c, _) :: star :: rest =>
    if !isPlain '*' star then .ok none
    else
      let digits := rest.takeWhile fun m => !isPlain ']' m
      match rest.drop digits.length with
      | [] => .ok none
      | _ :: more =>
        let ds := digits.map (·.1)
        if ds.isEmpty then .ok (some (.repeated c none, more))
        else
          let base := if ds.head? = some '0' then 8 else 10
          if ds.all fun d => d.isDigit && d.toNat - 48 < base then
            let n := ds.foldl (fun n d => n * base + (d.toNat - 48)) 0
            .ok (some (.repeated c (if n = 0 then none else some n), more))
          else .error (.badCount ds)
  | _ => .ok none

def classNames : List String :=
  ["alnum", "alpha", "blank", "cntrl", "digit", "graph", "lower", "print", "punct", "space",
    "upper", "xdigit"]

/-- Whether a star with digits and a bracket stands at the front. -/
def isStarred : List Mark → Bool
  | m :: rest =>
    isPlain '*' m && (match rest.dropWhile fun m => m.1.isDigit && !m.2 with
      | b :: _ => isPlain ']' b
      | [] => false)
  | [] => false

/-- A class or an equivalent after its opening bracket, if there is one. -/
def class? (ms : List Mark) : Except Fault (Option (Piece × List Mark)) :=
  match ms with
  | (d, false) :: rest =>
    if d != ':' && d != '=' then .ok none
    else
      match closing? d rest [] with
      | none => .ok none
      | some (inner, more) =>
        let name := inner.map (·.1)
        if name.isEmpty then .error (if d = ':' then .noClass else .noEquivalent)
        else if d = ':' then
          if classNames.contains (String.ofList name) then
            .ok (some (.named (String.ofList name), more))
          else if isStarred rest then .ok none
          else .error (.unknownClass name)
        else
          match name with
          | [c] => .ok (some (.one c, more))
          | _ => if isStarred rest then .ok none else .error (.notOne name)
  | _ => .ok none

/-- The pieces of a set; `fuel` bounds their number. -/
def piecesFrom : Nat → List Mark → Except Fault (List Piece)
  | 0, _ => .ok []
  | fuel + 1, ms => do
    match ms with
    | a :: b :: c :: rest =>
      let bracketed ← if isPlain '[' a then do
          match ← class? (b :: c :: rest) with
          | some r => pure (some r)
          | none => repetition? (b :: c :: rest)
        else pure none
      match bracketed with
      | some (p, rest) => return p :: (← piecesFrom fuel rest)
      | none =>
        if isPlain '-' b then
          if c.1 < a.1 then .error (.reversed a.1 c.1)
          else return .range a.1 c.1 :: (← piecesFrom fuel rest)
        else return .one a.1 :: (← piecesFrom fuel (b :: c :: rest))
    | rest => return rest.map fun m => .one m.1

def read (cs : Text) : Except Fault (List Piece) :=
  piecesFrom (cs.length + 1) (marks (cs.length + 1) cs)

def between (a b : Char) : Text :=
  (List.range (b.toNat + 1 - a.toNat)).map fun i => Char.ofNat (a.toNat + i)

def all : Text := between '\x00' (Char.ofNat 255)

def isPunctuation (c : Char) : Bool := '!' ≤ c && c ≤ '~' && !c.isAlphanum

def isMember (name : String) (c : Char) : Bool :=
  if name = "alnum" then c.isAlphanum
  else if name = "alpha" then c.isAlpha
  else if name = "blank" then c = ' ' || c = '\t'
  else if name = "cntrl" then c < ' ' || c = '\x7f'
  else if name = "digit" then c.isDigit
  else if name = "graph" then '!' ≤ c && c ≤ '~'
  else if name = "lower" then c.isLower
  else if name = "print" then ' ' ≤ c && c ≤ '~'
  else if name = "punct" then isPunctuation c
  else if name = "space" then c = ' ' || ('\t' ≤ c && c ≤ '\r')
  else if name = "upper" then c.isUpper
  else c.isDigit || ('a' ≤ c && c ≤ 'f') || ('A' ≤ c && c ≤ 'F')

/-- How many characters a piece stands for when an open repetition stands for `fill`. -/
def Piece.members (fill : Nat) : Piece → Text
  | .one c => [c]
  | .range a b => between a b
  | .named name => all.filter fun c => isMember name c
  | .repeated c n => List.replicate (n.getD fill) c

def members (fill : Nat) (ps : List Piece) : Text := ps.flatMap (·.members fill)

def isOpen : Piece → Bool
  | .repeated _ none => true
  | _ => false

/-- The second set, as long as the first. -/
def fitted (length : Nat) (truncates : Bool) (ps : List Piece) : Text :=
  let base := members 0 ps
  if ps.any isOpen then members (length - base.length) ps
  else if truncates then base
  else
    match base.getLast? with
    | some c => base ++ List.replicate (length - base.length) c
    | none => base

/-- A table from characters to characters: of two pairs with one source the later counts. -/
def table (source target : Text) : Array Char :=
  (source.zip target).foldl (fun t (a, b) => t.setIfInBounds a.toNat b) all.toArray

def setOf (cs : Text) : Array Bool :=
  cs.foldl (fun t c => t.setIfInBounds c.toNat true) (Array.replicate 256 false)

structure Order where
  deleted : Array Bool
  changed : Array Char
  squeezed : Array Bool

/-- The changed text, the last character first. -/
def change (o : Order) : Option Char → Text → Text → Text × Option Char
  | before, [], made => (made, before)
  | before, c :: cs, made =>
    if o.deleted.getD c.toNat false then change o before cs made
    else
      let d := o.changed.getD c.toNat c
      if before = some d && o.squeezed.getD d.toNat false then change o before cs made
      else change o (some d) cs (d :: made)

def loop (o : Order) : Nat → Option Char → Run Nat
  | 0, _ => return 0
  | fuel + 1, before => do
    match ← ask (.read 0 8192) with
    | .ok [] => return 0
    | .ok bytes =>
      let (made, before) := change o before (ofBytes bytes) []
      out made.reverse
      loop o fuel before
    | .error e => fail (because "read error".toList e)

/-- Where in a set a class of letters begins. -/
def caseClasses : Nat → List Piece → List Nat
  | _, [] => []
  | i, p :: ps =>
    let here := match p with
      | .named name => name = "lower" || name = "upper"
      | _ => false
    (if here then [i] else []) ++ caseClasses (i + (p.members 0).length) ps

def isNamed (allowed : List String) : Piece → Bool
  | .named name => !allowed.contains name
  | _ => false

/-- Complains of what is wrong with two sets together. -/
def checkPair (complement truncates : Bool) (first second : List Piece) (source : Text) :
    Run Unit := do
  let target := fitted source.length truncates second
  if (second.filter isOpen).length > 1 then
    fail "only one [c*] repeat construct may appear in string2".toList
  if second.any (isNamed ["lower", "upper"]) then
    fail ("when translating, the only character classes that may appear in\n".toList ++
      "string2 are 'upper' and 'lower'".toList)
  if (caseClasses 0 second).any fun i => !(caseClasses 0 first).contains i then
    fail "misaligned [:upper:] and/or [:lower:] construct".toList
  if complement && first.any (isNamed []) && target.eraseDups.length > 1 then
    fail ("when translating with complemented character classes,\n".toList ++
      "string2 must map all characters in the domain to one".toList)
  if target.isEmpty && !source.isEmpty && !truncates then
    fail "when not truncating set1, string2 must be non-empty".toList

def readSet (cs : Text) : Run (List Piece) := do
  match read cs with
  | .ok ps => return ps
  | .error f => fail f.text

/-- Complains of the number of operands. -/
def checkCount (deletes squeezes : Bool) (operands : List Text) : Run Unit := do
  let least := if deletes == squeezes then 2 else 1
  let most := if deletes && !squeezes then 1 else 2
  if operands.length < least then
    match operands with
    | [] => misuse "missing operand".toList
    | a :: _ =>
      complain ("missing operand after ".toList ++ quoted a)
      tell (if deletes then
          "Two strings must be given when both deleting and squeezing repeats.".toList
        else "Two strings must be given when translating.".toList)
      advise
      quit 1
  if let some extra := operands[most]? then
    complain ("extra operand ".toList ++ quoted extra)
    if operands.length = 2 then
      tell "Only one string may be given when deleting without squeezing repeats.".toList
    advise
    quit 1

end Charset

open Charset in
def tr : Tool := do
  let (os, operands) ← readOptions <| .make "+cCdst"
    [("complement", 'c'), ("delete", 'd'), ("squeeze-repeats", 's'), ("truncate-set1", 't')] true
  let deletes := has "d" os
  let squeezes := has "s" os
  checkCount deletes squeezes operands
  let complement := has "cC" os
  let first ← readSet (operands.headD [])
  if first.any fun p => match p with
      | .repeated _ _ => true
      | _ => false then
    fail "the [c*] repeat construct may not appear in string1".toList
  let inFirst := setOf (members 0 first)
  let source := if complement then all.filter fun c => !inFirst.getD c.toNat false
    else members 0 first
  let none_ := setOf []
  match operands[1]? with
  | none =>
    let s := setOf source
    loop { deleted := if deletes then s else none_, changed := table [] []
           squeezed := if squeezes then s else none_ } Prog.fuel none
  | some cs =>
    let second ← readSet cs
    if deletes then
      loop { deleted := setOf source, changed := table [] []
             squeezed := setOf (members 0 second) } Prog.fuel none
    else
      let truncates := has "t" os
      checkPair complement truncates first second source
      let target := fitted source.length truncates second
      loop { deleted := none_, changed := table source target
             squeezed := if squeezes then setOf (members 0 second ++ target) else none_ }
        Prog.fuel none

end CellRunner.Tool
