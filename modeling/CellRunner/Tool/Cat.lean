import CellRunner.Tool.Options

/-!
# Joining files

Lines may be numbered, and characters that cannot be seen shown.
-/

set_option autoImplicit false

namespace CellRunner.Tool

open Machine (Prog)
open Shell (Text toBytes ofBytes ofString asName)

namespace Cat

structure Style where
  numbers : Bool
  /-- only lines with something on them have numbers -/
  fullOnly : Bool
  ends : Bool
  squeezes : Bool
  tabs : Bool
  shows : Bool

def Style.isPlain (s : Style) : Bool :=
  !(s.numbers || s.fullOnly || s.ends || s.squeezes || s.tabs || s.shows)

/-- Where in the text the program is. -/
structure Place where
  line : Nat := 0
  atStart : Bool := true
  /-- how many empty lines were written last -/
  empty : Nat := 0

/-- A byte below 128 as it is shown. -/
def visibleLow (c : Char) : Text :=
  if c < ' ' then ['^', Char.ofNat (c.toNat + 64)] else if c = '\x7f' then ['^', '?'] else [c]

def visible (c : Char) : Text :=
  if c.toNat < 128 then visibleLow c else 'M' :: '-' :: visibleLow (Char.ofNat (c.toNat - 128))

def shown (s : Style) (c : Char) : Text :=
  if c = '\t' then (if s.tabs then ['^', 'I'] else [c])
  else if s.shows then visible c
  else [c]

def number (n : Nat) : Text := padLeft 6 (ofNat n) ++ ['\t']

/-- The text in a style, the last character first, and the place it leads to. -/
def dress (s : Style) : Text → Place → Text → Text × Place
  | [], p, out => (out, p)
  | '\n' :: cs, p, out =>
    if !p.atStart then
      dress s cs { p with atStart := true } ('\n' :: (if s.ends then '$' :: out else out))
    else if s.squeezes && p.empty > 0 then dress s cs p out
    else
      let numbered := s.numbers && !s.fullOnly
      let out := if numbered then (number (p.line + 1)).reverse ++ out else out
      let out := '\n' :: (if s.ends then '$' :: out else out)
      dress s cs { p with empty := p.empty + 1, line := p.line + if numbered then 1 else 0 } out
  | c :: cs, p, out =>
    let numbered := p.atStart && (s.numbers || s.fullOnly)
    let out := if numbered then (number (p.line + 1)).reverse ++ out else out
    let text := if c = '\r' && s.ends && cs.head? = some '\n' then ['^', 'M'] else shown s c
    dress s cs { line := p.line + (if numbered then 1 else 0), atStart := false, empty := 0 }
      (text.reverse ++ out)

/-- Copies what comes from a descriptor, a part at a time. -/
def pass (s : Style) (path : Text) (d : Nat) : Nat → Place → Run (Nat × Place)
  | 0, p => return (0, p)
  | fuel + 1, p => do
    match ← ask (.read d 131072) with
    | .ok [] => return (0, p)
    | .ok bytes =>
      if s.isPlain then
        write bytes
        pass s path d fuel p
      else
        let (text, p) := dress s (ofBytes bytes) p []
        write (toBytes text.reverse)
        pass s path d fuel p
    | .error e =>
      complainOf path e
      return (1, p)

/-- Whether a file is the one that the output goes to, which would never end. -/
def isOutput (d : Nat) : Run Bool := do
  match ← ask (.statOpen d), ← ask (.statOpen 1) with
  | .ok a, .ok b => return a.kind == .file && a.number == b.number && a.size > 0
  | _, _ => return false

end Cat

def cat : Tool := do
  let (os, operands) ← readOptions <| .make "AbeEnstTuv"
    [("show-all", 'A'), ("number-nonblank", 'b'), ("show-ends", 'E'), ("number", 'n'),
      ("squeeze-blank", 's'), ("show-tabs", 'T'), ("show-nonprinting", 'v')]
  let style : Cat.Style :=
    { numbers := has "n" os, fullOnly := has "b" os, ends := has "eEA" os
      squeezes := has "s" os, tabs := has "tTA" os, shows := has "vetA" os }
  let step (s : Nat × Cat.Place) (path : Text) : Run (Nat × Cat.Place) := do
    let (code, place) ← withInput path
      (fun e => do
        complainOf path e
        return (1, s.2))
      fun d => do
        if ← Cat.isOutput d then
          complain (beforeColon path ++ ": input file is output file".toList)
          return (1, s.2)
        Cat.pass style path d Prog.fuel s.2
    return (max s.1 code, place)
  let (code, _) ← (orInput operands).foldlM step (0, {})
  if (orInput operands).contains ['-'] then
    match ← ask (.close 0) with
    | .ok () => return code
    | .error e => fail ("closing standard input: ".toList ++ ofString e.text)
  else return code

end CellRunner.Tool
