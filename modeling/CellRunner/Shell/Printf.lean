import CellRunner.Shell.Format
import CellRunner.Text.Moment

/-!
# Filling a format

A format is used again until all arguments are used up. What goes wrong with an argument is
kept for messages, and some faults end the output.
-/

set_option autoImplicit false

namespace CellRunner.Shell.Printf

open Format (Directive Field Floating Amount)

/-- Whose directives and escapes a format may hold. -/
inductive Manner where
  | plain
  | extended
  | tool
  deriving DecidableEq, Repr

inductive Complaint where
  | notNumber (a : Text)
  | partly (a : Text)
  | outOfRange (a : Text)
  /-- a directive without a meaning -/
  | badDirective (spelling : Text)
  /-- a directive that the format does not end -/
  | unfinished (spelling : Text)
  /-- a time without the letter that ends it -/
  | badTime (spelling : Text)
  /-- a variable gets the number of characters so far -/
  | count (name : Text) (n : Nat)
  deriving DecidableEq, Repr

structure Printing where
  /-- what was written, the last part first -/
  written : List Text := []
  args : List Text
  /-- the last one first -/
  complaints : List Complaint := []
  /-- whether nothing more is written -/
  isOver : Bool := false
  /-- whether a directive was met -/
  isUsed : Bool := false

namespace Printing

def write (p : Printing) (cs : Text) : Printing := { p with written := cs :: p.written }

def complain (p : Printing) (c : Complaint) : Printing :=
  { p with complaints := c :: p.complaints }

def text (p : Printing) : Text := p.written.reverse.flatten

def take (p : Printing) : Option Text × Printing :=
  let p := { p with isUsed := true }
  match p.args with
  | a :: args => (some a, { p with args })
  | [] => (none, p)

/-- What a number read from an argument is worth, given what was left of it. -/
def judge (p : Printing) (a rest : Text) (found fits : Bool) : Printing :=
  if !found then if a.isEmpty then p else p.complain (.notNumber a)
  else if !rest.isEmpty then p.complain (.partly a)
  else if !fits then p.complain (.outOfRange a)
  else p

/-- The code of a character after a quote, and what follows it. -/
def quoted? : Text → Option (Nat × Text)
  | '"' :: c :: rest => some (c.toNat, rest)
  | '\'' :: c :: rest => some (c.toNat, rest)
  | ['"'] => some (0, [])
  | ['\''] => some (0, [])
  | _ => none

def signed (p : Printing) : Int × Printing :=
  match p.take with
  | (none, p) => (0, p)
  | (some a, p) =>
    match quoted? a with
    | some (n, _) => (n, p)
    | none =>
      match Format.integerAt a with
      | none => (0, p.judge a a false true)
      | some (negative, n, rest) =>
        let (v, fits) := Format.clampSigned negative n
        (v, p.judge a rest true fits)

def unsigned (p : Printing) : Nat × Printing :=
  match p.take with
  | (none, p) => (0, p)
  | (some a, p) =>
    match quoted? a with
    | some (n, _) => (n, p)
    | none =>
      match Format.integerAt a with
      | none => (0, p.judge a a false true)
      | some (negative, n, rest) =>
        let (v, fits) := Format.clampUnsigned negative n
        (v, p.judge a rest true fits)

def real (m : Manner) (p : Printing) : Floating × Printing :=
  let zero : Floating := .finite false ⟨0, 1⟩
  match p.take with
  | (none, p) => (zero, p)
  | (some a, p) =>
    match quoted? a with
    | some (n, _) => (.finite false ⟨n, 1⟩, p)
    | none =>
      match Format.realAt a with
      | none => (zero, p.judge a a false true)
      | some (x, rest) => (x.limited (m != .plain), p.judge a rest true true)

/-- An amount, which an argument may tell. -/
def amount (p : Printing) : Amount → Int × Printing
  | .number n => (n, p)
  | .argument => p.signed

end Printing

/-- One directive that is complete. -/
def fill (m : Manner) (spelling : Text) (d : Directive) (kind : Char) (p : Printing) :
    Printing :=
  let (width, p) := p.amount d.width
  let (precision, p) := match d.precision with
    | some a =>
      let (n, p) := p.amount a
      (if n < 0 then none else some n.toNat, p)
    | none => (none, p)
  let d := if width < 0 then { d with left := true } else d
  let f : Field := { directive := d, width := width.natAbs, precision }
  let isReal := "eEfFgG".contains kind
  if kind = 'd' || kind = 'i' then
    let (n, p) := p.signed
    p.write (Format.signed f n)
  else if "ouxX".contains kind then
    let (n, p) := p.unsigned
    p.write (Format.unsigned f kind n)
  else if isReal then
    let (x, p) := p.real m
    p.write (Format.real f kind x)
  else if kind = 'c' then
    let (a, p) := p.take
    let c := match a with
      | some (c :: _) => c
      | _ => Char.ofNat 0
    p.write (Format.pad f [c])
  else if kind = 's' then
    let (a, p) := p.take
    p.write (Format.text f (a.getD []))
  else if kind = 'b' then
    let (a, p) := p.take
    let (cs, stops) := Format.unescape (m != .plain) (a.getD [])
    { p.write (Format.text f cs) with isOver := stops }
  else
    { p.complain (.badDirective spelling) with isOver := true }

/-- A field of a text, and what was made of the arguments that tell its size. -/
def textField (d : Directive) (p : Printing) : Field × Printing :=
  let (width, p) := p.amount d.width
  let (precision, p) := match d.precision with
    | some a =>
      let (n, p) := p.amount a
      (if n < 0 then none else some n.toNat, p)
    | none => (none, p)
  let d := if width < 0 then { d with left := true } else d
  ({ directive := d, width := width.natAbs, precision }, p)

/-- What a directive of the extended manner makes of an argument; one kind cuts it before it is
quoted. -/
def fillQuoted (asWord : Text → Text) (cutsFirst : Bool) (d : Directive) (p : Printing) :
    Printing :=
  let (f, p) := textField d p
  let (a, p) := p.take
  let cs := a.getD []
  if cutsFirst then
    let cs := match f.precision with
      | some n => cs.take n
      | none => cs
    p.write (Format.text { f with precision := none } (asWord cs))
  else p.write (Format.text f (asWord cs))

/-- The text up to the parenthesis that closes it, and the rest; `depth` counts those that are
open. -/
def closed : Nat → Text → Text × Text
  | _, [] => ([], [])
  | depth, c :: cs =>
    if c = ')' && depth = 0 then ([], cs)
    else
      let depth := if c = '(' then depth + 1 else if c = ')' then depth - 1 else depth
      let (inner, rest) := closed depth cs
      (c :: inner, rest)

/-- A moment in seconds since 1970 in a format of its own. -/
def fillTime (now began : Int) (format : Text) (d : Directive) (p : Printing) : Printing :=
  let (f, p) := textField d p
  let (n, p) := if p.args.isEmpty then (-1, { p with isUsed := true }) else p.signed
  let seconds := if n = -1 then now else if n = -2 then began else n
  let format := if format.isEmpty then "%X".toList else format
  p.write (Format.text f ((Moment.ofCount (seconds * 1000000)).text format))

section

-- how an argument is written so that it can be read again, and the moments that are known
variable (asWord : Text → Text) (now began : Int)

/-- One use of the format; `fuel` bounds its length. -/
def once (m : Manner) : Nat → Text → Printing → Printing
  | 0, _, p => p
  | _ + 1, [], p => p
  | fuel + 1, c :: cs, p =>
    if p.isOver then p
    else if c = '\\' then
      match m, cs with
      | .tool, 'c' :: _ => { p with isOver := true }
      | _, _ =>
        let (made, rest) := if m = .plain then Format.escape cs else Format.richEscape cs
        once m fuel rest (p.write made)
    else if c != '%' then
      let run := (c :: cs).takeWhile fun c => c != '%' && c != '\\'
      once m fuel ((c :: cs).drop run.length) (p.write run)
    else
      match cs with
      | '%' :: rest => once m fuel rest (p.write ['%'])
      | _ =>
        let sizes : List Char := if m = .plain then [] else "hlLjzt".toList
        let (d, rest) := Format.directive sizes cs
        let spelling := '%' :: cs.take (cs.length - rest.length)
        match d.kind with
        | none => { p.complain (.unfinished spelling) with isOver := true }
        | some kind =>
          if m = .extended && kind = '(' then
            let (format, after) := closed 0 rest
            match after with
            | 'T' :: after => once m fuel after (fillTime now began format d p)
            | _ =>
              once m fuel cs ((p.write ['%']).complain (.badTime (after.take 1)))
          else if m = .extended && kind = 'n' then
            let (a, p) := p.take
            once m fuel rest (match a with
              | some (c :: name) => p.complain (.count (c :: name) p.text.length)
              | _ => p)
          else if m = .extended && kind = 'Q' then
            once m fuel rest (fillQuoted asWord true d p)
          else if kind = 'q' && m != .plain then once m fuel rest (fillQuoted asWord false d p)
          else once m fuel rest (fill m spelling d kind p)

/-- The format as often as the arguments ask for it; `fuel` bounds their number. -/
def all (m : Manner) (format : Text) : Nat → Printing → Printing
  | 0, p => p
  | fuel + 1, p =>
    let q := once asWord now began m (format.length + 1) format { p with isUsed := false }
    if q.isOver || q.args.isEmpty || !q.isUsed then q else all m format fuel q

def print (m : Manner) (format : Text) (args : List Text) : Printing :=
  all asWord now began m format (args.length + 1) { args }

end

end CellRunner.Shell.Printf
