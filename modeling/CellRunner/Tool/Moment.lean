import CellRunner.Machine.Kernel
import CellRunner.Text.Moment
import CellRunner.Tool.Amount

/-!
# Moments that arguments tell
-/

set_option autoImplicit false

namespace CellRunner

open Shell (Text ofString)
open Tool

namespace Moment

/-! ### Reading -/

/-- Words and numbers of a text that tells a moment. -/
def words (cs : Text) : List Text :=
  (cs.foldr (fun c s =>
    if c = ' ' || c = '\t' || c = '\n' then [] :: s
    else
      match s with
      | x :: xs => (c :: x) :: xs
      | [] => [[c]]) [[]]).filter (!·.isEmpty)

def splitAt (mark : Char) (cs : Text) : List Text :=
  cs.foldr (fun c s =>
    if c = mark then [] :: s
    else
      match s with
      | x :: xs => (c :: x) :: xs
      | [] => [[c]]) [[]]

def isValid (m : Moment) : Bool :=
  let (y, mo, d) := ofDays (days m.year m.month m.day)
  1 ≤ m.month && m.month ≤ 12 && y = m.year && mo = m.month && d = m.day && m.hour < 24 &&
    m.minute < 60 && m.second ≤ 60

def dateOf? (cs : Text) : Option (Int × Nat × Nat) :=
  match (splitAt '-' cs).mapM natural? with
  | some [y, m, d] => some (y, m, d)
  | _ =>
    match (splitAt '/' cs).mapM natural? with
    | some [y, m, d] => if y > 31 then some (y, m, d) else some (d, y, m)
    | _ =>
      match natural? cs with
      | some n => if cs.length = 8 then some (n / 10000, n / 100 % 100, n % 100) else none
      | none => none

def timeOf? (cs : Text) : Option (Nat × Nat × Nat × Nat) :=
  match splitAt ':' cs with
  | [h, m] => do return (← natural? h, ← natural? m, 0, 0)
  | [h, m, s] =>
    match splitAt '.' s with
    | [s] => do return (← natural? h, ← natural? m, ← natural? s, 0)
    | [s, f] => do
      let places := (f ++ List.replicate 6 '0').take 6
      return (← natural? h, ← natural? m, ← natural? s, ← natural? places)
    | _ => none
  | _ => none

/-- Microseconds in a unit of time; months and years are not among them. -/
def unitOf? (cs : Text) : Option Int :=
  let s := String.ofList (cs.map Char.toLower)
  let s := if s.endsWith "s" then (s.dropEnd 1).toString else s
  match s with
  | "sec" => some 1000000
  | "second" => some 1000000
  | "min" => some 60000000
  | "minute" => some 60000000
  | "hour" => some 3600000000
  | "day" => some 86400000000
  | "week" => some 604800000000
  | "fortnight" => some 1209600000000
  | _ => none

/-- A moment with a number of months later. -/
def addMonths (m : Moment) (n : Int) : Moment :=
  let all := m.year * 12 + (m.month - 1) + n
  let shifted := { m with year := all.fdiv 12, month := ((all.fmod 12) + 1).toNat, day := 1 }
  ofCount (shifted.count + ((m.day : Int) - 1) * 86400000000)

def signed? (cs : Text) : Option Int :=
  match cs with
  | '-' :: ds => (natural? ds).map fun n => -(n : Int)
  | '+' :: ds => (natural? ds).map fun n => (n : Int)
  | _ => (natural? cs).map fun n => (n : Int)

def monthOf? (cs : Text) : Option Nat :=
  let lower := cs.map Char.toLower
  if lower.length < 3 then none
  else (monthNames.findIdx? fun n => lower.isPrefixOf (n.toList.map Char.toLower)).map (· + 1)

/-- The moment that words tell, seen from another one. -/
def readFrom : Nat → List Text → Moment → Option Moment
  | 0, _, _ => none
  | _ + 1, [], m => some m
  | fuel + 1, w :: ws, m =>
    let lower := String.ofList (w.map Char.toLower)
    let midnight (m : Moment) : Moment := { m with hour := 0, minute := 0, second := 0, fraction := 0 }
    let move (m : Moment) (us : Int) : Moment := ofCount (m.count + us)
    if lower = "now" || lower = "today" || lower = "utc" || lower = "z" || lower = "gmt" then
      readFrom fuel ws m
    else if lower = "yesterday" then readFrom fuel ws (move m (-86400000000))
    else if lower = "tomorrow" then readFrom fuel ws (move m 86400000000)
    else if let some (y, mo, d) := dateOf? w then
      readFrom fuel ws { midnight m with year := y, month := mo, day := d }
    else if let some (h, mi, s, f) := timeOf? (if w.getLast? = some 'Z' then w.dropLast else w) then
      readFrom fuel ws { m with hour := h, minute := mi, second := s, fraction := f }
    else if let some n := signed? w then
      match ws with
      | u :: rest =>
        let ago := rest.head?.map (fun a => String.ofList (a.map Char.toLower)) == some "ago"
        let n := if ago then -n else n
        let rest := if ago then rest.drop 1 else rest
        let name := String.ofList (u.map Char.toLower)
        if name = "month" || name = "months" then readFrom fuel rest (addMonths m n)
        else if name = "year" || name = "years" then readFrom fuel rest (addMonths m (12 * n))
        else
          match unitOf? u, monthOf? u with
          | some us, _ => readFrom fuel rest (move m (n * us))
          | none, some mo =>
            match rest.head?.bind natural? with
            | some y =>
              readFrom fuel (rest.drop 1)
                { midnight m with year := y, month := mo, day := n.toNat }
            | none => readFrom fuel rest { midnight m with month := mo, day := n.toNat }
          | none, none => none
      | [] => none
    else if let some mo := monthOf? w then
      match ws with
      | d :: rest =>
        match natural? (d.filter (· != ',')) with
        | some day =>
          match rest.head?.bind natural? with
          | some y => readFrom fuel (rest.drop 1) { midnight m with year := y, month := mo, day }
          | none => readFrom fuel rest { midnight m with month := mo, day }
        | none => none
      | [] => none
    else none

/-- The moment that a text tells, seen from now. -/
def read? (now : Moment) (cs : Text) : Option Moment :=
  match cs with
  | '@' :: n =>
    match splitAt '.' n with
    | [whole] => (signed? whole).map fun s => ofCount (s * 1000000)
    | [whole, f] => do
      let s ← signed? whole
      let places ← natural? ((f ++ List.replicate 6 '0').take 6)
      return ofCount (s * 1000000 + places)
    | _ => none
  | [] => some { now with hour := 0, minute := 0, second := 0, fraction := 0 }
  | _ =>
    let cs := match splitAt 'T' cs with
      | [a, b] => if (dateOf? a).isSome && b.head?.any Char.isDigit then a ++ ' ' :: b else cs
      | _ => cs
    let ws := words cs
    (readFrom (ws.length + 1) ws now).filter isValid

/-- A moment written as digits: an optional year, month, day, hour and minute, and seconds after
a point. -/
def ofStamp? (now : Moment) (cs : Text) : Option Moment :=
  let (digits, rest) := cs.span Char.isDigit
  let second : Option Nat := match rest with
    | [] => some 0
    | '.' :: s => if s.length = 2 then natural? s else none
    | _ => none
  let n := Shell.Format.decimal digits
  let at_ (year : Int) : Option Moment :=
    second.bind fun second =>
      let m : Moment :=
        { year, month := n / 1000000 % 100, day := n / 10000 % 100, hour := n / 100 % 100
          minute := n % 100, second }
      if m.isValid then some m else none
  if digits.length = 8 then at_ now.year
  else if digits.length = 10 then
    let y := n / 100000000
    at_ (if y < 69 then 2000 + y else 1900 + y)
  else if digits.length = 12 then at_ (n / 100000000 : Nat)
  else none

end Moment

/-- The present moment. -/
def Tool.now : Run Moment := do
  let c : Nat ← ask .clock
  return Moment.ofCount (Machine.epoch + c)

end CellRunner
