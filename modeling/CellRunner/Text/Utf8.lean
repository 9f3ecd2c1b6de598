import CellRunner.Text.Blank

/-!
# Well-formed byte sequences

A lead byte fixes the ranges of the bytes that must follow it. Reading a byte sequence goes
from left to right; it ends after the last byte, inside a character, or at the first byte
that cannot belong to any well-formed sequence. The place of a fault is counted in bytes of
complete characters.
-/

set_option autoImplicit false

namespace CellRunner.Utf8

/-- The least and the greatest value a byte may have. -/
abbrev Range := UInt8 × UInt8

def Range.holds (r : Range) (b : UInt8) : Bool := r.1 ≤ b && b ≤ r.2

def continuing : Range := (0x80, 0xBF)

/-- What must follow a lead byte; `none` for a byte that begins no character. -/
def follow (b : UInt8) : Option (List Range) :=
  if b < 0x80 then some []
  else if b < 0xC2 then none
  else if b < 0xE0 then some [continuing]
  else if b = 0xE0 then some [(0xA0, 0xBF), continuing]
  else if b = 0xED then some [(0x80, 0x9F), continuing]
  else if b < 0xF0 then some [continuing, continuing]
  else if b = 0xF0 then some [(0x90, 0xBF), continuing, continuing]
  else if b < 0xF4 then some [continuing, continuing, continuing]
  else if b = 0xF4 then some [(0x80, 0x8F), continuing, continuing]
  else none

/-- The bits of a lead byte that count towards the character. -/
def leadBits (b : UInt8) : Nat :=
  if b < 0x80 then b.toNat
  else if b < 0xE0 then b.toNat % 32
  else if b < 0xF0 then b.toNat % 16
  else b.toNat % 8

/-- The character with the given bytes. -/
def character : List UInt8 → Char
  | [] => Char.ofNat 0
  | b :: bs => Char.ofNat (bs.foldl (fun v t => v * 64 + t.toNat % 64) (leadBits b))

/-- How a byte sequence ends. -/
inductive Ending
  | complete
  /-- inside a character, of which these bytes have been read -/
  | incomplete (held : List UInt8)
  /-- at a sequence of this many bytes that no continuation makes well formed -/
  | invalid (length : Nat)
  deriving DecidableEq, Repr

/-- The complete characters at the front, the number of their bytes, and what comes after. -/
structure Scan where
  text : List Char
  validUpTo : Nat
  ending : Ending
  deriving DecidableEq, Repr

/-- Reads on after the characters `text` (last first, `count` bytes), the bytes `held` of an
unfinished character (last first) and the ranges `need` that it still requires. -/
def scanFrom (text : List Char) (count : Nat) (held : List UInt8) (need : List Range) :
    List UInt8 → Scan
  | [] => ⟨text.reverse, count, if held.isEmpty then .complete else .incomplete held.reverse⟩
  | b :: bs =>
    match need with
    | [] =>
      match follow b with
      | none => ⟨text.reverse, count, .invalid 1⟩
      | some [] => scanFrom (character [b] :: text) (count + 1) [] [] bs
      | some (r :: rs) => scanFrom text count [b] (r :: rs) bs
    | r :: rs =>
      if r.holds b then
        match rs with
        | [] => scanFrom (character (b :: held).reverse :: text) (count + held.length + 1) [] [] bs
        | q :: qs => scanFrom text count (b :: held) (q :: qs) bs
      else ⟨text.reverse, count, .invalid held.length⟩

def scan (bs : List UInt8) : Scan := scanFrom [] 0 [] [] bs

/-- Where a byte sequence stops being well formed, and how many bytes are wrong there;
no length when the sequence only lacks its end. -/
structure Fault where
  validUpTo : Nat
  length : Option Nat
  deriving DecidableEq, Repr

def Fault.message (f : Fault) : String :=
  match f.length with
  | some n => s!"invalid utf-8 sequence of {n} bytes from index {f.validUpTo}"
  | none => s!"incomplete utf-8 byte sequence from index {f.validUpTo}"

/-- The text of a byte sequence that is well formed to its end. -/
def text (bs : List UInt8) : Except Fault String :=
  let s := scan bs
  match s.ending with
  | .complete => .ok (String.ofList s.text)
  | .incomplete _ => .error ⟨s.validUpTo, none⟩
  | .invalid n => .error ⟨s.validUpTo, some n⟩

def encode (s : String) : List UInt8 := s.toUTF8.toList

/-- One byte of a text in which each maximal ill-formed part is shown as U+FFFD. -/
def lossyByte (out : List Char) (held : List UInt8) (need : List Range) (b : UInt8) :
    List Char × List UInt8 × List Range :=
  let fresh (out : List Char) : List Char × List UInt8 × List Range :=
    match follow b with
    | none => ('\uFFFD' :: out, [], [])
    | some [] => (character [b] :: out, [], [])
    | some rs => (out, [b], rs)
  match need with
  | [] => fresh out
  | r :: rs =>
    if r.holds b then
      match rs with
      | [] => (character (b :: held).reverse :: out, [], [])
      | _ => (out, b :: held, rs)
    else fresh ('\uFFFD' :: out)

/-- The text of any byte sequence, with U+FFFD for each ill-formed part. -/
def lossy (bs : List UInt8) : String :=
  let (out, held, _) := bs.foldl (fun (o, h, n) b => lossyByte o h n b) ([], [], [])
  String.ofList ((if held.isEmpty then out else '\uFFFD' :: out).reverse)

end CellRunner.Utf8
