import CellRunner.Tool.Lines

/-!
# Lines in a random order

Numbers are drawn from bytes so that each is as likely as any other; what is left over of the
bytes is kept for the next one.
-/

set_option autoImplicit false

namespace CellRunner.Tool

open Machine (Prog Bytes)
open Shell (Text toBytes ofBytes asName)

namespace Shuffle

/-- Where numbers are drawn from. -/
structure Urn where
  /-- the descriptor of a file of random bytes -/
  descriptor : Nat
  name : Text
  /-- a random number, and the greatest that it might have been -/
  number : Nat := 0
  greatest : Nat := 0

abbrev Drawing := StateT Urn Run

def byte : Drawing Nat := do
  let u ← get
  match ← (ask (.read u.descriptor 1) : Run (Machine.Outcome Bytes)) with
  | .ok (b :: _) => return b.toNat
  | .ok [] => fail (named u.name ++ ": end of file".toList)
  | .error e => fail (because (beforeColon u.name) e)

/-- Takes bytes until the number might be as great as `greatest`. -/
def fill (greatest : Nat) : Nat → Drawing Unit
  | 0 => return ()
  | fuel + 1 => do
    if (← get).greatest < greatest then
      let b ← byte
      modify fun u => { u with number := u.number * 256 + b, greatest := u.greatest * 256 + 255 }
      fill greatest fuel

/-- How often a number that would not be fair is drawn again. -/
def patience : Nat := 1000

/-- A number below `choices`. -/
def below (choices : Nat) : Nat → Drawing Nat
  | 0 => return 0
  | fuel + 1 => do
    let greatest := choices - 1
    fill greatest 64
    let u ← get
    if u.greatest = greatest then
      set { u with number := 0, greatest := 0 }
      return u.number
    else
      let excess := u.greatest - greatest
      let unusable := excess % choices
      let last := u.greatest - unusable
      if u.number ≤ last then
        set { u with number := u.number / choices, greatest := excess / choices }
        return u.number % choices
      else
        set { u with number := u.number - (last + 1), greatest := unusable - 1 }
        below choices fuel

def draw (choices : Nat) : Drawing Nat := below choices patience

/-- The first `count` of the numbers below `n` in a random order. -/
def order (count n : Nat) : Drawing (List Nat) := do
  let (_, chosen) ← (List.range (min count n)).foldlM (fun (numbers, chosen) i => do
    let j := i + (← draw (n - i))
    let a := numbers.getD i 0
    let b := numbers.getD j 0
    return ((numbers.set! i b).set! j a, b :: chosen)) (Array.range n, ([] : List Nat))
  return chosen.reverse

/-- Keeps `count` of some lines, each as likely as any other. -/
def sample (count : Nat) (lines : List Text) : Drawing (Array Text) := do
  let kept := (lines.take count).toArray
  let rest := lines.drop count
  if kept.size < count then return kept
  else
    let (kept, n) ← rest.foldlM (fun ((kept : Array Text), n) line => do
      let j ← draw (n + 1)
      return (if j < count then kept.set! j line else kept, n + 1)) (kept, count)
    let _ ← draw (n + 1)
    return kept

/-- Lines of more bytes than this are sampled while they are read. -/
def smallInput : Nat := 8192

/-- The ends of a range of numbers. -/
def range? (cs : Text) : Option (Nat × Nat) := do
  let (low, rest) := cs.span (· != '-')
  let low ← natural? low
  let high ← natural? (rest.drop 1)
  if low ≤ high + 1 then some (low, high) else none

structure Wish where
  /-- how many lines are wanted; all if none is given -/
  count : Option Nat
  repeats : Bool
  mark : Char

def Wish.show (w : Wish) (lines : Array Text) : Drawing Unit := do
  let put (line : Text) : Run Unit := out (line ++ [w.mark])
  if w.repeats then
    if lines.isEmpty && w.count != some 0 then fail "no lines to repeat".toList
    (List.range (w.count.getD Prog.fuel)).forM fun _ => do
      let j ← draw lines.size
      put (lines.getD j [])
  else
    let chosen ← order (w.count.getD lines.size) lines.size
    chosen.forM fun (i : Nat) => put (lines.getD i [])

end Shuffle

open Shuffle in
def shuffle : Tool := do
  let (os, operands) ← readOptions <| .make "ei:n:o:rz\x01:"
    [("echo", 'e'), ("input-range", 'i'), ("head-count", 'n'), ("output", 'o'),
      ("random-source", '\x01'), ("repeat", 'r'), ("zero-terminated", 'z')]
  let ranges := os.filter (·.1 == 'i')
  let range ← match ranges with
    | [] => pure none
    | (_, v) :: rest =>
      match range? v with
      | none => fail ("invalid input range: ".toList ++ quoted v)
      | some r =>
        if !rest.isEmpty then fail "multiple -i options specified".toList
        pure (some r)
  let counts ← (os.filter (·.1 == 'n')).mapM fun (_, v) => do
    match natural? v with
    | some n => pure n
    | none => fail ("invalid line count: ".toList ++ quoted v)
  if (os.filter (·.1 == 'o')).length > 1 then fail "multiple output files specified".toList
  if has "e" os && range.isSome then misuse "cannot combine -e and -i options".toList
  if !has "e" os then
    if let some extra := operands[if range.isSome then 0 else 1]? then
      misuse ("extra operand ".toList ++ quoted extra)
  let mark := if has "z" os then Char.ofNat 0 else '\n'
  let wish : Wish := { count := counts.min?, repeats := has "r" os, mark }
  let source := (valueOf? '\x01' os).getD "/dev/urandom".toList
  let (lines, sampled) ← match range with
    | some (low, high) =>
      pure ((List.range (high + 1 - low)).map fun i => ofNat (low + i), false)
    | none =>
      if has "e" os then pure (operands, false)
      else
        let path := operands.headD ['-']
        let plain ← do
          match ← (if path = ['-'] then ask (.statOpen 0) else infoOf path) with
          | .ok info => pure (info.kind == .file && info.size ≤ smallInput)
          | .error _ => pure true
        match ← contents path with
        | .error e =>
          fail (if e = .isDirectory then "read error: Is a directory".toList
            else because (beforeColon path) e)
        | .ok cs => pure (linesBy mark cs, wish.count.isSome && !wish.repeats && !plain)
  withInput source
    (fun e => fail (because (beforeColon source) e))
    fun d => do
      if let some path := valueOf? 'o' os then
        match ← ask (.open (asName path) .truncate 0o666 0) with
        | .error e => fail (because (beforeColon path) e)
        | .ok o =>
          let _ ← ask (.copy o 1)
          close o
      let _ ← (do
        let lines ← if sampled then sample (wish.count.getD 0) lines else pure lines.toArray
        wish.show lines : Drawing Unit).run { descriptor := d, name := source }
      return 0

end CellRunner.Tool
