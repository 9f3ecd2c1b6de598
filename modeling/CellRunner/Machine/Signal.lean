/-!
# Signals
-/

set_option autoImplicit false

namespace CellRunner.Machine.Signal

def interrupt : Nat := 2

def quit : Nat := 3

def kill : Nat := 9

def pipe : Nat := 13

def terminate : Nat := 15

def child : Nat := 17

def continue_ : Nat := 18

def stop : Nat := 19

/-- The number of signals, those without a name included. -/
def count : Nat := 65

/-- Signals that stop a process unless it takes or ignores them. -/
def stops (signal : Nat) : Bool := [19, 20, 21, 22].contains signal

/-- Signals that do nothing to a process that does not take them. -/
def harmless : List Nat := [0, 17, 18, 23, 28]

/-- Signals that end a process unless it takes or ignores them. -/
def isDeadly (signal : Nat) : Bool := !harmless.contains signal && !stops signal

end CellRunner.Machine.Signal
