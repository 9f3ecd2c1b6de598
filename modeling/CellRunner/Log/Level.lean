import CellRunner.Text.Case

/-!
# Log levels

A line is shown when its level is at most as chatty as the chosen one.
-/

set_option autoImplicit false

namespace CellRunner

inductive Level where
  | error
  | warn
  | info
  | debug
  | trace
  deriving DecidableEq, Repr

namespace Level

def name : Level → String
  | .error => "ERROR"
  | .warn => "WARN"
  | .info => "INFO"
  | .debug => "DEBUG"
  | .trace => "TRACE"

/-- From the fewest lines to the most. -/
def chattiness : Level → Nat
  | .error => 0
  | .warn => 1
  | .info => 2
  | .debug => 3
  | .trace => 4

def shows (chosen level : Level) : Bool := level.chattiness ≤ chosen.chattiness

/-- The exact lower-case word. -/
def ofWord? : String → Option Level
  | "error" => some .error
  | "warn" => some .warn
  | "info" => some .info
  | "debug" => some .debug
  | "trace" => some .trace
  | _ => none

/-- A level in any case, with blanks around it; `warning` is another word for `warn`. -/
def read? (s : String) : Option Level :=
  let word := String.ofList (Text.lowercase (Text.trim s.toList))
  if word = "warning" then some .warn else ofWord? word

end Level

end CellRunner
