import CellRunner.Tool.Options

/-!
# Counting lines, words and bytes
-/

set_option autoImplicit false

namespace CellRunner.Tool

open Machine (Prog Bytes FileInfo)
open Shell (Text ofBytes)

namespace Counting

structure Counts where
  lines : Nat := 0
  words : Nat := 0
  bytes : Nat := 0
  /-- the length of the longest line -/
  longest : Nat := 0

def Counts.add (a b : Counts) : Counts :=
  { lines := a.lines + b.lines, words := a.words + b.words, bytes := a.bytes + b.bytes
    longest := max a.longest b.longest }

structure Place where
  counts : Counts := {}
  inWord : Bool := false
  column : Nat := 0

def isSpace (b : UInt8) : Bool := b = 32 || (9 ≤ b && b ≤ 13)

def step (p : Place) (b : UInt8) : Place :=
  let c := p.counts
  let ended := { c with longest := max c.longest p.column }
  let space := isSpace b
  let words := if !space && !p.inWord then c.words + 1 else c.words
  let counts := if b = 10 || b = 12 || b = 13 then ended else c
  let column :=
    if b = 10 || b = 12 || b = 13 then 0
    else if b = 9 then p.column + 8 - p.column % 8
    else if 32 ≤ b && b < 127 then p.column + 1
    else p.column
  { counts :=
      { counts with
        lines := if b = 10 then c.lines + 1 else c.lines, words, bytes := c.bytes + 1 }
    inWord := !space, column }

/-- Counts what comes from a descriptor. -/
def countFrom (d : Nat) : Nat → Place → Run (Counts × Option SystemError)
  | 0, p => return (p.counts, none)
  | fuel + 1, p => do
    match ← ask (.read d 65536) with
    | .ok [] => return ({ p.counts with longest := max p.counts.longest p.column }, none)
    | .ok bytes => countFrom d fuel (bytes.foldl step p)
    | .error e => return (p.counts, some e)

/-- The counts that the options ask for, in a fixed order. -/
def chosen (os : List Given) (c : Counts) : List Nat :=
  let wants (letter : String) : Bool := has letter os
  let usual := !has "lwcmL" os
  (if usual || wants "l" then [c.lines] else []) ++ (if usual || wants "w" then [c.words] else []) ++
    (if wants "m" then [c.bytes] else []) ++ (if usual || wants "c" then [c.bytes] else []) ++
    if wants "L" then [c.longest] else []

def line (os : List Given) (width : Nat) (c : Counts) (name : Text) : Text :=
  List.intercalate [' '] ((chosen os c).map fun n => padLeft width (ofNat n)) ++
    (if name.isEmpty then [] else ' ' :: name) ++ ['\n']

/-- The width of all columns: enough for the sizes of all files together. -/
def width (os : List Given) (operands : List Text) : Run Nat := do
  if operands.length ≤ 1 && (chosen os {}).length = 1 then return 1
  let infos ← (orInput operands).filterMapM fun path => do
    let r ← if path = ['-'] then ask (.statOpen 0) else infoOf path
    return r.toOption
  let least := if infos.all fun i => i.kind == .file then 1 else 7
  let total := (infos.filter fun i => i.kind == .file).foldl (fun n i => n + i.size) 0
  return max least (ofNat total).length

end Counting

open Counting in
def wc : Tool := do
  let (os, operands) ← readOptions <| .make "clLmw\x01:"
    [("bytes", 'c'), ("chars", 'm'), ("lines", 'l'), ("words", 'w'), ("max-line-length", 'L'),
      ("total", '\x01')]
  let width ← width os operands
  let step (s : Nat × Counts) (path : Text) : Run (Nat × Counts) :=
    withInput path
      (fun e => do
        complainOf path e
        return (1, s.2))
      fun d => do
        let (counts, trouble) ← countFrom d Prog.fuel {}
        if let some e := trouble then complainOf path e
        out (line os width counts (if operands.isEmpty then [] else path))
        return (if trouble.isSome then 1 else s.1, s.2.add counts)
  let (code, total) ← (orInput operands).foldlM step (0, {})
  let when_ := ((valueOf? '\x01' os).map String.ofList).getD "auto"
  if when_ = "only" || when_ = "always" || (when_ = "auto" && operands.length > 1) then
    out (line os width total "total".toList)
  return code

end CellRunner.Tool
