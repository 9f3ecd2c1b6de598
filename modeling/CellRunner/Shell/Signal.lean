import CellRunner.Shell.Syntax

/-!
# Signals by name
-/

set_option autoImplicit false

namespace CellRunner.Shell.Signal

/-- The names of signals from number 1 on; one of them only the extended dialect knows. -/
def names (d : Dialect) : List String :=
  ["HUP", "INT", "QUIT", "ILL", "TRAP", "ABRT", "BUS", "FPE", "KILL", "USR1", "SEGV", "USR2",
    "PIPE", "ALRM", "TERM", (match d with
      | .plain => ""
      | .extended => "STKFLT"),
    "CHLD", "CONT", "STOP", "TSTP", "TTIN", "TTOU", "URG", "XCPU", "XFSZ", "VTALRM", "PROF",
    "WINCH", "IO", "PWR", "SYS"]

/-- The first signal without a use of its own, and the last one. -/
def firstFree : Nat := 34

def lastFree : Nat := 64

/-- The name of a signal, which is a number for some. -/
def name (d : Dialect) (n : Nat) : String :=
  if n = 0 then "EXIT"
  else if n < 32 then
    let s := (names d).getD (n - 1) ""
    if s.isEmpty then toString n else s
  else if n < firstFree || n > lastFree then toString n
  else if n = firstFree then "RTMIN"
  else if n = lastFree then "RTMAX"
  else if n < 50 then "RTMIN+" ++ toString (n - firstFree)
  else "RTMAX-" ++ toString (lastFree - n)

/-- Events of the extended dialect that have traps as signals have. -/
def events : List (Nat × String) := [(65, "DEBUG"), (66, "ERR"), (67, "RETURN")]

def debug : Nat := 65

def failure : Nat := 66

def return_ : Nat := 67

/-- The name of a signal with the letters that the extended dialect puts in front. -/
def fullName (n : Nat) : String :=
  match events.lookup n with
  | some name => name
  | none => if n = 0 then "EXIT" else "SIG" ++ name .extended n

/-- The number of a signal given by number or by name, `least` or more. -/
def ofText? (d : Dialect) (least : Nat) (cs : Text) : Option Nat :=
  let isNumber := !cs.isEmpty && cs.all Char.isDigit
  let n := cs.foldl (fun n c => n * 10 + (c.toNat - 48)) 0
  if isNumber then if n ≤ lastFree then some n else none
  else
    let capital := cs.map Char.toUpper
    let bare := match d, capital with
      | .extended, 'S' :: 'I' :: 'G' :: rest => rest
      | _, cs => cs
    let event := match d with
      | .plain => none
      | .extended => (events.find? fun e => e.2.toList = capital).map (·.1)
    match event with
    | some n => some n
    | none => ((List.range (lastFree + 1)).drop least).find? fun n => name d n = String.ofList bare

/-- What is said of a process that a signal ended. -/
def description (n : Nat) : String :=
  let known : List (Nat × String) :=
    [(1, "Hangup"), (2, "Interrupt"), (3, "Quit"), (4, "Illegal instruction"),
      (5, "Trace/breakpoint trap"), (6, "Aborted"), (7, "Bus error"),
      (8, "Floating point exception"), (9, "Killed"), (10, "User defined signal 1"),
      (11, "Segmentation fault"), (12, "User defined signal 2"), (13, "Broken pipe"),
      (14, "Alarm clock"), (15, "Terminated"), (16, "Stack fault"), (17, "Child exited"),
      (18, "Continued"), (19, "Stopped (signal)"), (20, "Stopped"), (21, "Stopped (tty input)"),
      (22, "Stopped (tty output)"), (23, "Urgent I/O condition"), (24, "CPU time limit exceeded"),
      (25, "File size limit exceeded"), (26, "Virtual timer expired"),
      (27, "Profiling timer expired"), (28, "Window changed"), (29, "I/O possible"),
      (30, "Power failure"), (31, "Bad system call")]
  match known.lookup n with
  | some s => s
  | none =>
    if n ≥ firstFree && n ≤ lastFree then "Real-time signal " ++ toString (n - firstFree)
    else "Unknown signal " ++ toString n

end CellRunner.Shell.Signal
