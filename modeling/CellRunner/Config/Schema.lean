import CellRunner.Config.Basic
import CellRunner.Decimal.Shortest
import CellRunner.Text.Quoted
import CellRunner.Toml.Plain

/-!
# The configuration in a TOML document

A section is a table of known keys, each of them optional; an array gives the values of the
keys in their order. Keys are looked at in sorted order and the first fault is reported.
-/

set_option autoImplicit false

namespace CellRunner.Config

open Toml (Node Scalar Span)

/-- What was found where something else was expected. -/
inductive Found where
  | string (text : String)
  | integer (value : Int)
  /-- an integer of more than 64 bits -/
  | wideInteger (value : Int)
  | float (text : String)
  | boolean (value : Bool)
  | sequence
  | map
  deriving DecidableEq, Repr

def Found.text : Found → String
  | .string s => "string " ++ Text.quoted s
  | .integer v => "integer `" ++ toString v ++ "`"
  | .wideInteger v =>
    "integer `" ++ toString v ++ "` as " ++ if v < Int.pow 2 127 then "i128" else "u128"
  | .float s => "floating point `" ++ s ++ "`"
  | .boolean b => "boolean `" ++ (if b then "true" else "false") ++ "`"
  | .sequence => "sequence"
  | .map => "map"

/-- Why a well-formed document is no configuration. -/
inductive Problem where
  | unknownField (name : String) (known : List String)
  | invalidType (found : Found) (expected : String)
  | invalidValue (found : Found) (expected : String)
  | integerOverflow
  | floatOverflow
  deriving DecidableEq, Repr

def expectedNames (known : List String) : String :=
  let marked := known.map fun n => "`" ++ n ++ "`"
  match marked with
  | [a] => a
  | [a, b] => a ++ " or " ++ b
  | _ => "one of " ++ String.intercalate ", " marked

def Problem.message : Problem → String
  | .unknownField name known =>
    "unknown field `" ++ name ++ "`, expected " ++ expectedNames known
  | .invalidType found expected => "invalid type: " ++ found.text ++ ", expected " ++ expected
  | .invalidValue found expected => "invalid value: " ++ found.text ++ ", expected " ++ expected
  | .integerOverflow => "integer number overflowed"
  | .floatOverflow => "floating-point number overflowed"

structure SchemaFault where
  span : Span
  problem : Problem
  deriving DecidableEq, Repr

/-- The fault in a document, shown at its place. -/
def SchemaFault.message (f : SchemaFault) (text : String) : String :=
  Toml.excerpt text f.span ++ f.problem.message ++ "\n"

abbrev Checked (α : Type) := Except SchemaFault α

def signText (negative : Bool) : String := if negative then "-" else ""

/-- The fault of a node whose kind is not the expected one. -/
def mismatch (n : Node) (expected : String) : Problem :=
  let wrong (f : Found) : Problem := .invalidType f expected
  match n with
  | .scalar _ (.string s) => wrong (.string s)
  | .scalar _ (.integer v) =>
    if -(Int.pow 2 63) ≤ v && v < Int.pow 2 64 then wrong (.integer v)
    else if -(Int.pow 2 127) ≤ v && v < Int.pow 2 128 then wrong (.wideInteger v)
    else .integerOverflow
  | .scalar _ (.float negative digits place) =>
    match Decimal.nearest digits place with
    | some s => wrong (.float (signText negative ++ s))
    | none => .floatOverflow
  | .scalar _ (.infinity negative) => wrong (.float (signText negative ++ "inf"))
  | .scalar _ (.notANumber _) => wrong (.float "NaN")
  | .scalar _ (.boolean b) => wrong (.boolean b)
  | .scalar _ .moment => wrong .map
  | .array _ _ => wrong .sequence
  | .tables _ _ => wrong .sequence
  | .table _ _ _ => wrong .map

def refuse {α : Type} (n : Node) (expected : String) : Checked α :=
  .error ⟨n.span, mismatch n expected⟩

def text (n : Node) (expected : String) : Checked String :=
  match n with
  | .scalar _ (.string s) => .ok s
  | _ => refuse n expected

def string (n : Node) : Checked String := text n "a string"

def path (n : Node) : Checked String := text n "path string"

def strings (n : Node) : Checked (List String) :=
  match n with
  | .array _ items => items.mapM string
  | .tables _ items => items.mapM string
  | _ => refuse n "a sequence"

/-- An integer of 32 bits without a sign. -/
def word (n : Node) : Checked Nat :=
  match n with
  | .scalar span (.integer v) =>
    if 0 ≤ v && v < Int.pow 2 32 then .ok v.toNat
    else if -(Int.pow 2 63) ≤ v && v < Int.pow 2 64 then
      .error ⟨span, .invalidValue (.integer v) "u32"⟩
    else refuse n "u32"
  | _ => refuse n "u32"

/-- A table with known keys; each field sets its part of a value. -/
structure Section (α : Type) where
  title : String
  fields : List (String × (Node → α → Checked α))

/-- Puts an entry into a list that is sorted by key. -/
def insertByKey (e : Toml.Key × Node) : Toml.Entries → Toml.Entries
  | [] => [e]
  | f :: es => if e.1.text < f.1.text then e :: f :: es else f :: insertByKey e es

def sortByKey (es : Toml.Entries) : Toml.Entries := es.foldl (fun out e => insertByKey e out) []

namespace Section

variable {α : Type}

def names (s : Section α) : List String := s.fields.map (·.1)

/-- One entry of the table. -/
def readEntry (s : Section α) (a : α) (e : Toml.Key × Node) : Checked α :=
  match s.fields.find? (fun f => f.1 == e.1.text) with
  | some f => f.2 e.2 a
  | none => .error ⟨e.1.span, .unknownField e.1.text s.names⟩

def readEntries (s : Section α) (es : Toml.Entries) (a : α) : Checked α :=
  (sortByKey es).foldlM s.readEntry a

/-- Items for the fields in order; those without a field are left out. -/
def readItems (s : Section α) (items : List Node) (a : α) : Checked α :=
  (s.fields.zip items).foldlM (fun a (f, n) => f.2 n a) a

def read (s : Section α) (n : Node) (a : α) : Checked α :=
  match n with
  | .table _ _ es => s.readEntries es a
  | .array _ items => s.readItems items a
  | .tables _ items => s.readItems items a
  | .scalar span .moment => .error ⟨span, .unknownField Toml.momentField s.names⟩
  | .scalar _ _ => refuse n ("struct " ++ s.title)

end Section

def toolchainSection : Section Toolchain where
  title := "ToolchainSection"
  fields := [("compiler", fun n t => do return { t with compiler := ← string n }),
    ("baseline_flags", fun n t => do return { t with baselineFlags := ← strings n })]

def workspaceSection : Section Workspace where
  title := "WorkspaceSection"
  fields := [("temp_dir", fun n w => do return { w with tempDir := some (← path n) })]

def verificationSection : Section Verification where
  title := "VerificationSection"
  fields := [("interpreter", fun n v => do return { v with interpreter := ← string n }),
    ("script_mode", fun n v => do return { v with scriptMode := ← word n })]

def rootSection : Section Config where
  title := "RawKernelConfig"
  fields := [
    ("toolchain", fun n c => do return { c with toolchain := ← toolchainSection.read n {} }),
    ("workspace", fun n c => do return { c with workspace := ← workspaceSection.read n {} }),
    ("verification",
      fun n c => do return { c with verification := ← verificationSection.read n {} })]

/-- The configuration that the tables of a document give. -/
def ofEntries (es : Toml.Entries) : Checked Config := rootSection.readEntries es {}

end CellRunner.Config
