import CellRunner.Shell.Format
import CellRunner.Text.Moment

/-!
# Prompts

In a prompt, letters after a backslash stand for what the shell knows.
-/

set_option autoImplicit false

namespace CellRunner.Shell.Prompt

/-- What prompts tell of a shell. -/
structure Facts where
  /-- the last part of its name -/
  shell : Text
  place : Text
  home : Text
  user : Text
  host : Text
  jobs : Nat
  /-- seconds since 1970 -/
  seconds : Nat

/-- The present directory, where a tilde stands for the home directory. -/
def place (f : Facts) : Text :=
  let n := f.home.length
  if n > 1 && f.home.isPrefixOf f.place && (f.place.length = n || f.place[n]? = some '/') then
    '~' :: f.place.drop n
  else f.place

def lastName (path : Text) : Text :=
  match (path.reverse.takeWhile (· != '/')).reverse with
  | [] => path
  | name => name

def decimal (n : Nat) : Text := Nat.toDigits 10 n

/-- The text of a prompt; `fuel` bounds its length. -/
def decodeFrom (f : Facts) : Nat → Text → Text
  | 0, _ => []
  | fuel + 1, cs =>
    let at_ (format : String) : Text := (Moment.ofCount (f.seconds * 1000000)).text format.toList
    match cs with
    | [] => []
    | '\\' :: 'D' :: '\x7b' :: rest =>
      let format := rest.takeWhile (· != '\x7d')
      let format := if format.isEmpty then "%X".toList else format
      (Moment.ofCount (f.seconds * 1000000)).text format ++
        decodeFrom f fuel (rest.drop ((rest.takeWhile (· != '\x7d')).length + 1))
    | '\\' :: c :: rest =>
      let known : Option Text := match c with
        | 'a' => some ['\x07']
        | 'd' => some (at_ "%a %b %d")
        | 'e' => some ['\x1b']
        | 'h' => some (f.host.takeWhile (· != '.'))
        | 'H' => some f.host
        | 'j' => some (decimal f.jobs)
        | 'l' => some "tty".toList
        | 'n' => some ['\n']
        | 'r' => some ['\r']
        | 's' => some f.shell
        | 't' => some (at_ "%H:%M:%S")
        | 'T' => some (at_ "%I:%M:%S")
        | '@' => some (at_ "%I:%M %p")
        | 'A' => some (at_ "%H:%M")
        | 'u' => some f.user
        | 'v' => some "5.2".toList
        | 'V' => some "5.2.21".toList
        | 'w' => some (place f)
        | 'W' => some (if place f = ['~'] then ['~'] else lastName f.place)
        | '!' => some ['1']
        | '#' => some ['1']
        | '$' => some ['$']
        | '\\' => some ['\\']
        | '[' => some []
        | ']' => some []
        | _ => none
      let digits := (c :: rest).take 3
      if digits.length = 3 && digits.all Format.isOctal then
        Char.ofNat (Format.octalValue digits % 256) :: decodeFrom f fuel (rest.drop 2)
      else
        match known with
        | some text => text ++ decodeFrom f fuel rest
        | none => '\\' :: c :: decodeFrom f fuel rest
    | c :: rest => c :: decodeFrom f fuel rest

def decode (f : Facts) (cs : Text) : Text := decodeFrom f (cs.length + 1) cs

end CellRunner.Shell.Prompt
