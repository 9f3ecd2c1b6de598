import CellRunner.Tool.Amount

/-!
# Bytes as numbers and as letters
-/

set_option autoImplicit false

namespace CellRunner.Tool

open Machine (Prog Bytes)
open Shell (Text toBytes ofBytes ofString asName)

namespace Dump

inductive Kind where
  | octal
  | signed
  | unsigned
  | hexadecimal
  | char
  | named
  deriving DecidableEq, Repr

/-- How the bytes of a line are written. -/
structure Format where
  kind : Kind
  size : Nat
  shows : Bool := false
  deriving DecidableEq, Repr

/-- The greatest number of digits that a number of some bytes has. -/
def Format.width (f : Format) : Nat :=
  match f.kind with
  | .octal => [0, 3, 6, 8, 11, 14, 16, 19, 22].getD f.size 22
  | .signed => [0, 4, 6, 8, 11, 13, 16, 18, 20].getD f.size 20
  | .unsigned => [0, 3, 5, 8, 10, 13, 15, 17, 20].getD f.size 20
  | .hexadecimal => 2 * f.size
  | .char => 3
  | .named => 3

def nameOf (n : Nat) : String :=
  let names := ["nul", "soh", "stx", "etx", "eot", "enq", "ack", "bel", "bs", "ht", "nl", "vt", "ff",
    "cr", "so", "si", "dle", "dc1", "dc2", "dc3", "dc4", "nak", "syn", "etb", "can", "em", "sub",
    "esc", "fs", "gs", "rs", "us", "sp"]
  if n = 127 then "del" else names.getD n (String.singleton (Char.ofNat n))

def charText (n : Nat) : Text :=
  match n with
  | 0 => "\\0".toList
  | 7 => "\\a".toList
  | 8 => "\\b".toList
  | 9 => "\\t".toList
  | 10 => "\\n".toList
  | 11 => "\\v".toList
  | 12 => "\\f".toList
  | 13 => "\\r".toList
  | n =>
    if 32 ≤ n && n < 127 then [Char.ofNat n]
    else
      let ds := Nat.toDigits 8 n
      List.replicate (3 - ds.length) '0' ++ ds

/-- The number that some bytes stand for, the lowest first. -/
def number (bs : Bytes) : Nat := bs.foldr (fun b n => n * 256 + b.toNat) 0

def zeros (width : Nat) (ds : Text) : Text := List.replicate (width - ds.length) '0' ++ ds

def Format.field (f : Format) (bs : Bytes) : Text :=
  let n := number bs
  match f.kind with
  | .octal => zeros f.width (Nat.toDigits 8 n)
  | .hexadecimal => zeros f.width (Nat.toDigits 16 n)
  | .unsigned => padLeft f.width (ofNat n)
  | .signed =>
    let half := Nat.pow 2 (8 * f.size - 1)
    padLeft f.width (ofInt (if n ≥ half then (n : Int) - (2 * half : Nat) else n))
  | .char => padLeft 3 (charText n)
  | .named => padLeft 3 (nameOf (n % 128)).toList

def chunks (size : Nat) : Nat → Bytes → List Bytes
  | 0, _ => []
  | fuel + 1, bs => if bs.isEmpty then [] else bs.take size :: chunks size fuel (bs.drop size)

/-- The fields of a line in one format, widened so that a line of `width` bytes takes up `total`
columns. -/
def Format.line (f : Format) (width total : Nat) (bs : Bytes) : Text :=
  let fields := width / f.size
  let gap := total - fields * (f.width + 1)
  let parts := chunks f.size (bs.length + 1) bs
  let widened := (parts.zip (List.range parts.length)).flatMap fun (p, i) =>
    let left := fields - i
    let extra := gap * left / fields - gap * (left - 1) / fields
    let filled := p ++ List.replicate (f.size - p.length) 0
    List.replicate (extra + 1) ' ' ++ f.field filled
  if f.shows then
    let missing := total - widened.length
    widened ++ List.replicate missing ' ' ++ "  >".toList ++
      (ofBytes bs).map (fun c => if isPrintable c then c else '.') ++ ['<']
  else widened

structure Style where
  radix : Char
  formats : List Format
  width : Nat
  repeats : Bool

def Style.address (s : Style) (n : Nat) : Text :=
  match s.radix with
  | 'n' => []
  | 'd' => zeros 7 (ofNat n)
  | 'x' => zeros 6 (Nat.toDigits 16 n)
  | _ => zeros 7 (Nat.toDigits 8 n)

/-- All lines; a row of equal lines is cut short. -/
def Style.lines (s : Style) (total : Nat) : Nat → Option Bytes → Bool → List Bytes → Text
  | _, _, _, [] => []
  | n, before, starred, bs :: rest =>
    let next := n + bs.length
    if before = some bs && bs.length = s.width && !s.repeats && !rest.isEmpty then
      (if starred then [] else "*\n".toList) ++ s.lines total next before true rest
    else
      let front := s.address n
      let text := (s.formats.zip (List.range s.formats.length)).flatMap fun (f, i) =>
        (if i = 0 then front else List.replicate front.length ' ') ++ f.line s.width total bs ++ ['\n']
      text ++ s.lines total next (some bs) false rest

def sizeAt (cs : Text) (usual : Nat) : Option (Nat × Text) :=
  match cs with
  | 'C' :: rest => some (1, rest)
  | 'S' :: rest => some (2, rest)
  | 'I' :: rest => some (4, rest)
  | 'L' :: rest => some (8, rest)
  | _ =>
    let ds := cs.takeWhile Char.isDigit
    if ds.isEmpty then some (usual, cs)
    else
      let n := Shell.Format.decimal ds
      if [1, 2, 4, 8].contains n then some (n, cs.drop ds.length) else none

/-- The formats that a text such as `x1z` spells; `fuel` bounds its length. -/
def formatsFrom : Nat → Text → Option (List Format)
  | 0, _ => none
  | _ + 1, [] => some []
  | fuel + 1, c :: cs => do
    let (f, rest) ← match c with
      | 'a' => some (({ kind := .named, size := 1 } : Format), cs)
      | 'c' => some ({ kind := .char, size := 1 }, cs)
      | 'd' => (sizeAt cs 4).map fun (n, r) => ({ kind := .signed, size := n }, r)
      | 'u' => (sizeAt cs 4).map fun (n, r) => ({ kind := .unsigned, size := n }, r)
      | 'o' => (sizeAt cs 4).map fun (n, r) => ({ kind := .octal, size := n }, r)
      | 'x' => (sizeAt cs 4).map fun (n, r) => ({ kind := .hexadecimal, size := n }, r)
      | _ => none
    let (f, rest) := match rest with
      | 'z' :: more => ({ f with shows := true }, more)
      | _ => (f, rest)
    return f :: (← formatsFrom fuel rest)

/-- The format that an option letter stands for. -/
def ofLetter (c : Char) : Option Format :=
  match c with
  | 'a' => some { kind := .named, size := 1 }
  | 'b' => some { kind := .octal, size := 1 }
  | 'c' => some { kind := .char, size := 1 }
  | 'd' => some { kind := .unsigned, size := 2 }
  | 'D' => some { kind := .unsigned, size := 4 }
  | 'h' => some { kind := .hexadecimal, size := 2 }
  | 'i' => some { kind := .signed, size := 4 }
  | 'l' => some { kind := .signed, size := 8 }
  | 'o' => some { kind := .octal, size := 2 }
  | 'O' => some { kind := .octal, size := 4 }
  | 's' => some { kind := .signed, size := 2 }
  | 'x' => some { kind := .hexadecimal, size := 2 }
  | 'X' => some { kind := .hexadecimal, size := 4 }
  | _ => none

/-- All bytes of the operands one after the other. -/
def loadAll (operands : List Text) : Run (Bytes × Nat) :=
  (orInput operands).foldlM (fun (bytes, code) path => do
    match ← contents path with
    | .ok cs => return (bytes ++ toBytes cs, code)
    | .error e =>
      complainOf path e
      return (bytes, 1)) ([], 0)

end Dump

open Dump in
def od : Tool := do
  let (os, operands) ← readOptions <| .make "A:aBbcDdeFfHhIij:LlN:OoS:st:vw::Xx"
    [("address-radix", 'A'), ("skip-bytes", 'j'), ("read-bytes", 'N'), ("format", 't'),
      ("output-duplicates", 'v'), ("width", 'w'), ("strings", 'S')]
  let radix := ((valueOf? 'A' os).getD ['o']).headD 'o'
  if !(['o', 'd', 'x', 'n'].contains radix) then
    fail ("invalid output address radix '".toList ++ [radix] ++
      "'; it must be one character from [doxn]".toList)
  let formats ← os.filterMapM fun g => do
    if g.1 = 't' then
      match formatsFrom (g.2.length + 1) g.2 with
      | some fs => return some fs
      | none => fail ("invalid type string ".toList ++ quoted g.2)
    else return (ofLetter g.1).map ([·])
  let formats := formats.flatten
  let formats := if formats.isEmpty then [{ kind := .octal, size := 2 }] else formats
  let number (c : Char) (what : String) : Run (Option Nat) := do
    match valueOf? c os with
    | none => return none
    | some v =>
      match sized? v with
      | some n => return some n
      | none => fail ("invalid ".toList ++ what.toList ++ " argument ".toList ++ quoted v)
  let skip := (← number 'j' "-j").getD 0
  let limit ← number 'N' "-N"
  let width := match valueOf? 'w' os with
    | some [] => 32
    | some v => (natural? v).getD 16
    | none => 16
  let (all, code) ← loadAll operands
  if code != 0 && all.isEmpty && operands.length = 1 then return code
  if skip > all.length then fail "cannot skip past end of combined input".toList
  let bytes := all.drop skip
  let bytes := match limit with
    | some n => bytes.take n
    | none => bytes
  let s : Style := { radix, formats, width, repeats := has "v" os }
  let total := formats.foldl (fun n f => max n (width / f.size * (f.width + 1))) 0
  out (s.lines total skip none false (chunks width (bytes.length + 1) bytes))
  if radix != 'n' then out (s.address (skip + bytes.length) ++ ['\n'])
  return code

end CellRunner.Tool
