import CellRunner.Fault.Basic

/-!
# How the program reports failure
-/

set_option autoImplicit false

namespace CellRunner.Host

/-- Why the program did not succeed. -/
inductive Trouble where
  /-- the configuration, in a named file or in the default one -/
  | config (path : Option String) (cause : Fault)
  | reading (path : String) (cause : IoFault)
  | readingInput (cause : IoFault)
  | executing (path : String) (cause : Fault)
  | cleanup (cause : Fault)
  deriving DecidableEq, Repr

namespace Trouble

def faultChain (f : Fault) : List String := f.message :: f.source?.toList

/-- The failure and what it lies in, outermost first. -/
def chain : Trouble → List String
  | .config (some path) f => ("loading config " ++ path) :: faultChain f
  | .config none f => faultChain f
  | .reading path e => ["reading " ++ path, e.message]
  | .readingInput e => ["reading source from stdin", e.message]
  | .executing path f => ("executing " ++ path) :: faultChain f
  | .cleanup f => "cleaning up temp files" :: faultChain f

/-- A cause with its further lines indented; the number, if any, stands before the first. -/
def indented (number : Option Nat) (text : String) : String :=
  let (first, later) := match number with
    | some n =>
      let digits := toString n
      (String.ofList (List.replicate (5 - digits.length) ' ') ++ digits ++ ": ", "       ")
    | none => ("    ", "    ")
  match text.splitOn "\n" with
  | [] => first
  | l :: ls => first ++ l ++ String.join (ls.map fun m => "\n" ++ later ++ m)

/-- A single cause has no number. -/
def causes : List String → String
  | [] => ""
  | [c] => "\n\nCaused by:\n" ++ indented none c
  | cs => "\n\nCaused by:\n" ++
    String.intercalate "\n" (cs.mapIdx fun i c => indented (some i) c)

def message (t : Trouble) : String :=
  match t.chain with
  | [] => ""
  | c :: cs => "ckernel error: " ++ c ++ causes cs ++ "\n"

end Trouble

end CellRunner.Host
