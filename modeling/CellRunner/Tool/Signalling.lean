import CellRunner.Machine.Signal
import CellRunner.Tool.Lines

/-!
# Sending signals
-/

set_option autoImplicit false

namespace CellRunner.Tool

open Machine (Prog)
open Shell (Text)

namespace Signalling

/-- The names of the signals that have one, from the first on. -/
def names : List String :=
  ["HUP", "INT", "QUIT", "ILL", "TRAP", "ABRT", "BUS", "FPE", "KILL", "USR1", "SEGV", "USR2", "PIPE",
    "ALRM", "TERM", "STKFLT", "CHLD", "CONT", "STOP", "TSTP", "TTIN", "TTOU", "URG", "XCPU", "XFSZ",
    "VTALRM", "PROF", "WINCH", "POLL", "PWR", "SYS"]

def named? (cs : Text) : Option Nat :=
  let name := cs.map Char.toUpper
  let name := if "SIG".toList.isPrefixOf name then name.drop 3 else name
  (names.idxOf? (String.ofList name)).map (· + 1)

/-- Other names of signals. -/
def aliases : List (String × Nat) := [("CLD", 17), ("IO", 29), ("IOT", 6), ("UNUSED", 31)]

/-- The signal that a name or a number stands for. -/
def number? (cs : Text) : Option Nat :=
  match natural? cs with
  | some n => if n < Machine.Signal.count then some n else none
  | none =>
    let name := cs.map Char.toUpper
    let name := if "SIG".toList.isPrefixOf name then name.drop 3 else name
    ((named? cs).or (aliases.lookup (String.ofList name))).or
      (if name = ['0'] then some 0 else none)

def usage : Text :=
  ("\nUsage:\n kill [options] <pid> [...]\n\nOptions:\n" ++
    " <pid> [...]            send signal to every <pid> listed\n" ++
    " -<signal>, -s, --signal <signal>\n" ++
    "                        specify the <signal> to be sent\n" ++
    " -q, --queue <value>    integer value to be sent with the signal\n" ++
    " -l, --list=[<signal>]  list all signal names, or convert one to a name\n" ++
    " -L, --table            list all signal names in a nice table\n\n" ++
    " -h, --help     display this help and exit\n" ++
    " -V, --version  output version information and exit\n\n" ++
    "For more details see kill(1).").toList

def refuse {α : Type} : Run α := do
  tell usage
  quit 1

/-- All names, sixteen in a line. -/
def list : Text :=
  let line (ns : List String) : Text := (String.intercalate " " ns ++ "\n").toList
  line (names.take 16) ++ line (names.drop 16)

/-- All names with their numbers, seven in a line. -/
def table : Text :=
  let cells := names.mapIdx fun i n => padLeft 2 (ofNat (i + 1)) ++ ' ' :: padRight 8 n.toList
  let rows := (List.range 5).map fun r => (cells.drop (7 * r)).take 7
  rows.flatMap fun row =>
    let cs := (row.map fun c => c).flatten
    (if row.length = 7 then cs.reverse.dropWhile (· = ' ') |>.reverse else cs) ++ ['\n']

/-- Sends a signal to a process, or to a group if its number is below zero. -/
def send (signal : Option Nat) (target : Int) : Run Nat := do
  let reply : Machine.Outcome Unit ← match signal with
    | none => do
      let there : Machine.Outcome Unit ←
        if target < 0 then ask (.killGroup (some target.natAbs) 0) else ask (.kill target.natAbs 0)
      match there with
      | .error .noProcess => pure there
      | _ => pure (.error .invalid)
    | some s =>
      if target < 0 then ask (.killGroup (some target.natAbs) s)
      else if target = 0 then ask (.killGroup none s)
      else ask (.kill target.natAbs s)
  match reply with
  | .ok () => return 0
  | .error e =>
    complain (because ('(' :: ofInt target ++ [')']) e)
    return 1

def sendAll (signal : Option Nat) : List Text → Nat → Run Nat
  | [], code => return code
  | t :: rest, code => do
    match Lines.integer? t with
    | none => fail ("failed to parse argument: '".toList ++ t ++ ['\''])
    | some n => sendAll signal rest (max code (← send signal n))

/-- Takes the first argument that is a dash and a signal out of the arguments. -/
def extract : List Text → Option Nat × List Text
  | [] => (none, [])
  | a :: rest =>
    match a with
    | '-' :: cs =>
      match number? cs with
      | some n => (some n, rest)
      | none => let (n, rest) := extract rest; (n, a :: rest)
    | _ => let (n, rest) := extract rest; (n, a :: rest)

/-- Shows the other form of a signal. -/
def showOne (cs : Text) : Run Nat := do
  let shown := match natural? cs with
    | some n => if n = 0 then none else (names[n - 1]?).map String.toList
    | none => (named? cs).map ofNat
  match shown with
  | some s => out (s ++ ['\n'])
  | none => complain ("unknown signal name ".toList ++ cs)
  return 0

/-- Goes through the arguments; `fuel` bounds their number. -/
def go : Nat → Option Nat → List Text → List Text → Run Nat
  | 0, _, _, _ => return 1
  | _ + 1, signal, [], targets =>
    if targets.isEmpty then refuse else sendAll signal targets.reverse 0
  | fuel + 1, signal, a :: rest, targets => do
    let isListed (cs : Text) : Bool := cs.head? != some '-'
    match a with
    | ['-', '-'] =>
      let targets := targets.reverse ++ rest
      if targets.isEmpty then refuse else sendAll signal targets 0
    | '-' :: '-' :: word =>
      let (word, value) := word.span (· != '=')
      match String.ofList word with
      | "list" =>
        match value, rest with
        | _ :: v, _ => showOne v
        | [], v :: _ => if isListed v then showOne v else out list *> pure 0
        | [], [] => out list *> pure 0
      | "table" => out table *> pure 0
      | "help" => out (usage ++ ['\n']) *> pure 0
      | "signal" =>
        match value, rest with
        | _ :: v, _ => go fuel (number? v) rest targets
        | [], v :: rest => go fuel (number? v) rest targets
        | [], [] => refuse
      | _ => refuse
    | '-' :: c :: cs =>
      if c = 'l' then
        if !cs.isEmpty then showOne cs
        else
          match rest with
          | v :: _ => if isListed v then showOne v else out list *> pure 0
          | [] => out list *> pure 0
      else if c = 'L' then out table *> pure 0
      else if c = 'h' then out (usage ++ ['\n']) *> pure 0
      else if c = 's' || c = 'q' then
        let next (v : Text) : Option Nat := if c = 's' then number? v else signal
        match cs, rest with
        | [], v :: rest => go fuel (next v) rest targets
        | [], [] => do
          complain ("invalid argument ".toList ++ [c])
          refuse
        | cs, rest => go fuel (next cs) rest targets
      else if c.isDigit then send signal (-((c.toNat - 48 : Nat) : Int))
      else do
        complain ("invalid argument ".toList ++ [c])
        refuse
    | _ => go fuel signal rest (a :: targets)

end Signalling

open Signalling in
def kill : Tool := do
  let args ← arguments
  if args.isEmpty then refuse
  let (signal, args) := extract args
  go (args.length + 1) (signal.or (some Machine.Signal.terminate)) args []

end CellRunner.Tool
