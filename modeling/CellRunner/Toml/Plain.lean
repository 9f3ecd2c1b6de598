import CellRunner.Decimal.Shortest
import CellRunner.Toml.Node

/-!
# Documents of plain values

The values of a document are plain when each fits 64 bits: integers with a sign, and floats
that do not overflow. A date is a value too. It may also be written as a table under a
reserved name, so a nested table whose first key is that name must hold the text of one.
-/

set_option autoImplicit false

namespace CellRunner.Toml

/-- The key that stands for a date where fields are expected. -/
def momentField : String := "$__toml_private_datetime"

def Scalar.isPlain : Scalar → Bool
  | .integer v => -(Int.pow 2 63) ≤ v && v < Int.pow 2 63
  | .float _ digits place => (Decimal.nearest digits place).isSome
  | _ => true

namespace Node

/-- Whether the keys, in sorted order, start with the reserved name of a date. -/
def posesAsMoment (es : Entries) : Bool :=
  (find? es ⟨momentField, ⟨0, 0⟩⟩).isSome && es.all fun e => !decide (e.1.text < momentField)

def spellsMoment : Option Node → Bool
  | some (.scalar _ (.string s)) => (Scalar.moment? s.toList).isSome
  | _ => false

mutual

def isPlain : Node → Bool
  | .scalar _ v => v.isPlain
  | .array _ items => arePlain items
  | .tables _ items => arePlain items
  | .table _ _ es =>
    if posesAsMoment es then spellsMoment (find? es ⟨momentField, ⟨0, 0⟩⟩) else entriesPlain es

def arePlain : List Node → Bool
  | [] => true
  | n :: ns => isPlain n && arePlain ns

def entriesPlain : List (Key × Node) → Bool
  | [] => true
  | (_, n) :: es => isPlain n && entriesPlain es

end

end Node

/-- Whether a text is a document all of whose values are plain. -/
def isPlain (text : String) : Bool :=
  match parse text with
  | some entries => Node.entriesPlain entries
  | none => false

end CellRunner.Toml
