import CellRunner.Tool.Amount

/-!
# Bytes written in letters

An alphabet has a letter for each row of some bits. Letters come in blocks that stand for whole
bytes; a block that is cut short may be filled up.
-/

set_option autoImplicit false

namespace CellRunner.Tool

open Machine (Prog Bytes)
open Shell (Text toBytes ofBytes ofString)

namespace Encoding

structure Alphabet where
  letters : Array Char
  /-- the bits of one letter -/
  bits : Nat
  /-- the letters of a block -/
  block : Nat
  /-- the bits of a byte go from the lowest to the highest -/
  lowFirst : Bool := false

def capitals : String := "ABCDEFGHIJKLMNOPQRSTUVWXYZ"

def digits : String := "0123456789"

def Alphabet.of (letters : String) (bits block : Nat) : Alphabet :=
  { letters := letters.toList.toArray, bits, block }

def sixtyFour : Alphabet :=
  .of (capitals ++ capitals.toLower ++ digits ++ "+/") 6 4

def sixtyFourForNames : Alphabet :=
  .of (capitals ++ capitals.toLower ++ digits ++ "-_") 6 4

def thirtyTwo : Alphabet := .of (capitals ++ "234567") 5 8

def thirtyTwoInOrder : Alphabet := .of (digits ++ "ABCDEFGHIJKLMNOPQRSTUV") 5 8

def sixteen : Alphabet := .of (digits ++ "ABCDEF") 4 2

def two : Alphabet := .of "01" 1 8

def twoLowFirst : Alphabet := { two with lowFirst := true }

namespace Alphabet

/-- How many bytes a block stands for. -/
def width (a : Alphabet) : Nat := a.bits * a.block / 8

def value? (a : Alphabet) (c : Char) : Option Nat := a.letters.idxOf? c

/-- The number that bytes stand for, filled up with zeros. -/
def number (a : Alphabet) (bs : Bytes) : Nat :=
  (bs ++ List.replicate (a.width - bs.length) 0).foldl
    (fun n (b : UInt8) => n * 256 + b.toNat) 0

/-- The letters of a block. -/
def blockOf (a : Alphabet) (bs : Bytes) : Text :=
  let n := a.number bs
  let used := (8 * bs.length + a.bits - 1) / a.bits
  let letter (i : Nat) : Char :=
    a.letters.getD (n / Nat.pow 2 (a.bits * (a.block - 1 - i)) % Nat.pow 2 a.bits) '0'
  let shown := (List.range used).map letter
  let shown := if a.lowFirst then shown.reverse else shown
  shown ++ List.replicate (a.block - used) '='

/-- Bytes in letters; `fuel` bounds the number of blocks. -/
def encode (a : Alphabet) : Nat → Bytes → Text
  | 0, _ => []
  | fuel + 1, bs =>
    if bs.isEmpty then [] else a.blockOf (bs.take a.width) ++ encode a fuel (bs.drop a.width)

/-- The bytes that the letters of a block stand for, and whether it is well written. -/
def bytesOf (a : Alphabet) (cs : Text) : Bytes × Bool :=
  let values := (cs.map a.value?).takeWhile (·.isSome)
  let values := values.filterMap id
  let values := if a.lowFirst then values.reverse else values
  let n := (values ++ List.replicate (a.block - values.length) 0).foldl
    (fun n v => n * Nat.pow 2 a.bits + v) 0
  let count := values.length * a.bits / 8
  let bytes := (List.range count).map fun i => UInt8.ofNat (n / Nat.pow 256 (a.width - 1 - i))
  let rest := cs.drop values.length
  let isWhole := cs.length = a.block && rest.all (· = '=')
  let fits := (8 * count + a.bits - 1) / a.bits = values.length && count > 0
  (bytes, isWhole && fits)

/-- The bytes that letters stand for, as far as they are well written, and whether all are. -/
def decode (a : Alphabet) : Nat → Text → Bytes × Bool
  | 0, _ => ([], false)
  | fuel + 1, cs =>
    if cs.isEmpty then ([], true)
    else
      let (bs, ok) := a.bytesOf (cs.take a.block)
      if ok then
        let (rest, ok) := decode a fuel (cs.drop a.block)
        (bs ++ rest, ok)
      else if cs.length < a.block && a.bits = 5 then ([], false)
      else (bs, false)

end Alphabet

/-! ### Four bytes in five letters -/

def eightyFive : Array Char :=
  (digits ++ capitals.toLower ++ capitals ++ ".-:+=^!/*?&<>()[]\x7b\x7d@%$#").toList.toArray

/-- Bytes in letters; what does not fill a block is left out. -/
def encodeWide : Nat → Bytes → Text
  | 0, _ => []
  | fuel + 1, bs =>
    if bs.length < 4 then []
    else
      let n := (bs.take 4).foldl (fun n (b : UInt8) => n * 256 + b.toNat) 0
      let letter (i : Nat) : Char := eightyFive.getD (n / Nat.pow 85 (4 - i) % 85) '0'
      (List.range 5).map letter ++ encodeWide fuel (bs.drop 4)

def decodeWide : Nat → Text → Bytes × Bool
  | 0, _ => ([], false)
  | fuel + 1, cs =>
    if cs.isEmpty then ([], true)
    else
      match (cs.take 5).mapM eightyFive.idxOf? with
      | none => ([], false)
      | some vs =>
        let n := vs.foldl (fun n v => n * 85 + v) 0
        if vs.length < 5 || n ≥ Nat.pow 2 32 then ([], false)
        else
          let (rest, ok) := decodeWide fuel (cs.drop 5)
          ((List.range 4).map (fun i => UInt8.ofNat (n / Nat.pow 256 (3 - i))) ++ rest, ok)

/-! ### Lines -/

/-- A text in lines of some width. -/
def wrapped (width : Nat) : Nat → Text → Text
  | 0, cs => cs
  | fuel + 1, cs =>
    if cs.isEmpty then []
    else if width = 0 then cs
    else cs.take width ++ '\n' :: wrapped width fuel (cs.drop width)

/-- Ways to write bytes in letters. -/
inductive Scheme where
  | rows (a : Alphabet)
  | wide

def Scheme.has (s : Scheme) (c : Char) : Bool :=
  match s with
  | .rows a => (a.value? c).isSome || c = '='
  | .wide => eightyFive.contains c

/-- Writes what is read in letters, or the other way round. -/
def convert (s : Scheme) (os : List Given) (operands : List Text) : Run Nat := do
  let width ← match valueOf? 'w' os with
    | none => pure 76
    | some v =>
      match natural? v with
      | some n => pure n
      | none => fail ("invalid wrap size: ".toList ++ quoted v)
  atMost 1 operands
  let path := operands.headD ['-']
  match ← contents path with
  | .error e =>
    fail (if e = .isDirectory then "read error: ".toList ++ ofString e.text
      else because (beforeColon path) e)
  | .ok cs =>
    let fuel := cs.length + 1
    if Tool.has "d" os then
      let cs := cs.filter fun c => c != '\n' && (!Tool.has "i" os || s.has c)
      let (bytes, ok) := match s with
        | .rows a => a.decode fuel cs
        | .wide => decodeWide fuel cs
      emit bytes
      if !ok then fail "invalid input".toList
      return 0
    else
      let bytes := toBytes cs
      let text := match s with
        | .rows a => a.encode fuel bytes
        | .wide => encodeWide fuel bytes
      match s with
      | .rows _ => pure ()
      | .wide =>
        if bytes.length % 4 != 0 then
          fail "invalid input (length must be multiple of 4 characters)".toList
      out (wrapped width (text.length + 1) text)
      return 0

def letters : String := "diw:"

def words : List (String × Char) := [("decode", 'd'), ("ignore-garbage", 'i'), ("wrap", 'w')]

def schemes : List (String × Scheme) :=
  [("base64", .rows sixtyFour), ("base64url", .rows sixtyFourForNames), ("base32", .rows thirtyTwo),
    ("base32hex", .rows thirtyTwoInOrder), ("base16", .rows sixteen), ("base2msbf", .rows two),
    ("base2lsbf", .rows twoLowFirst), ("z85", .wide)]

/-- Letters that stand for the schemes. -/
def schemeLetter (i : Nat) : Char := Char.ofNat (i + 1)

end Encoding

open Encoding in
def encodeIn (a : Alphabet) : Tool := do
  let (os, operands) ← readOptions (.make letters words)
  convert (.rows a) os operands

open Encoding in
def encodeAs : Tool := do
  let marks := (List.range schemes.length).map schemeLetter
  let names := (schemes.map (·.1)).zip marks
  let (os, operands) ← readOptions (.make (letters ++ String.ofList marks) (words ++ names))
  match lastOf? (String.ofList marks) os with
  | none => misuse "missing encoding type".toList
  | some c =>
    match (schemes[c.toNat - 1]?).map (·.2) with
    | some s => convert s os operands
    | none => misuse "missing encoding type".toList

end CellRunner.Tool
