import CellRunner.Proofs.Session.Effects

/-!
# What is known of a request before it runs

All that a request passes to its programs and shows to its user is on one sheet, which its
directives and the configuration give, save the names of the two files that it makes.
-/

set_option autoImplicit false

namespace CellRunner
open Supervisor

/-- What a source asks for. -/
structure Sheet where
  compiler : String
  /-- the arguments of the compiler before the names of its files -/
  front : List String
  /-- and after them -/
  back : List String
  programArgs : List String
  stdin : String
  expected : String
  hints : List String
  scripts : List String

namespace Sheet

/-- The arguments of the compiler. -/
def command (sheet : Sheet) (source binary : String) : List String :=
  sheet.front ++ [source, "-o", binary] ++ sheet.back

/-- The texts shown before the program runs. -/
def echo (sheet : Sheet) : List String :=
  (if sheet.stdin.isEmpty then [] else ["input: " ++ sheet.stdin]) ++
    (if sheet.expected.isEmpty then [] else ["expected output: " ++ sheet.expected]) ++
    if sheet.hints.isEmpty then []
    else "Some memory hints which you might like to verify for this question:\n" :: sheet.hints

end Sheet

/-- A program is started with these arguments, or cannot be. -/
inductive Begins (program : String) (args : List String) : Event → Prop where
  | spawned (process : Nat) : Begins program args (.spawned program args process)
  | notSpawned (cause : IoFault) : Begins program args (.notSpawned program args cause)

/-- What the world may answer to a request for a file. -/
def MayAnswer {σ : Type} (w : World σ) (dir suffix : String) (result : Except IoFault String) :
    Prop :=
  ∃ world, (w.create world dir suffix).1 = result

/-- The answers to requests for files are those of the world. -/
def Granted {σ : Type} (w : World σ) (ds : List Deed) : Prop :=
  ∀ dir suffix result, .create dir suffix result ∈ ds → MayAnswer w dir suffix result

theorem granted_append {σ : Type} (w : World σ) (ds es : List Deed) (h : Granted w ds)
    (h' : Granted w es) : Granted w (ds ++ es) := fun dir suffix result hd =>
  (List.mem_append.mp hd).elim (h dir suffix result) (h' dir suffix result)

/-- The user is shown what is on the sheet, once the source has been compiled and before the
program starts. -/
def Echoes (sheet : Sheet) (binary : String) (es : List Event) : Prop :=
  ∃ front started back, Begins binary sheet.programArgs started ∧
    es = front ++ (.transition .compiling .running :: sheet.echo.map (.wrote .stderr)) ++
      started :: back

namespace TempFiles
open Act

variable {σ : Type}

end TempFiles

namespace Pipeline
open Act

variable {σ : Type}

/-- A source that has been compiled, as its stages tell. -/
def Compiled (es : List Event) : Prop := (.compiling, .running) ∈ steps es

/-- What is told of a request after its files were made. -/
structure Shows (sheet : Sheet) (binary : String) (r : Except Stop Report) (es : List Event) :
    Prop where
  echoes : Compiled es → Echoes sheet binary es
  compiled : ∀ report, r = .ok report → report.compileExit = 0 → Compiled es

end Pipeline

namespace Pipeline
open Act

variable {σ : Type}

end Pipeline

namespace Session
open Act

variable {σ : Type}

end Session

end CellRunner
