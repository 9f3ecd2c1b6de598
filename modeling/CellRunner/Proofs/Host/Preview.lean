import CellRunner.Host.Outcome
import CellRunner.Proofs.Host.Sources
import CellRunner.Proofs.Session.Foretold

/-!
# Telling what would be done

A dry run prints, for each source that it can read, the sheet that the handling of the source
would follow, and does nothing else.
-/

set_option autoImplicit false

namespace CellRunner
open Host

def Absolute (path : String) : Prop := path.toList.head? = some '/'

/-- A path of a file in a directory that ends in a suffix. -/
def Placed (dir suffix path : String) : Prop :=
  ∃ name : String, '/' ∉ name.toList ∧ path = join dir (name ++ suffix)

/-- In a world that makes temporary files where it is told to, those of an absolute directory are
placed in it. The system's own directory for them is absolute. -/
structure World.Places {σ : Type} (w : World σ) : Prop where
  system : Absolute w.tempDir
  placed : ∀ dir suffix path, Absolute dir → MayAnswer w dir suffix (.ok path) →
    Placed dir suffix path

namespace Sheet

/-- What is printed of a sheet: the arguments, the input and the output only when there are
any. -/
def text (sheet : Sheet) (path dir : String) : String :=
  String.join <|
    ["ckernel dry-run: " ++ path ++ "\n",
      "  compile: " ++ sheet.compiler ++ " " ++ String.intercalate " "
        (sheet.command (join dir "<source>.c") (join dir "<binary>.out")) ++ "\n"] ++
    (if sheet.programArgs.isEmpty then []
      else ["  args: " ++ Text.quotedList sheet.programArgs ++ "\n"]) ++
    (if sheet.stdin.isEmpty then [] else ["  stdin: " ++ Text.quoted sheet.stdin ++ "\n"]) ++
    (if sheet.expected.isEmpty then []
      else ["  expected stdout: " ++ Text.quoted sheet.expected ++ "\n"]) ++
    sheet.hints.map ("  hint: " ++ ·) ++
    sheet.scripts.map fun script => "  test_script: " ++ script ++ "\n"

end Sheet

namespace Host
open Act

variable {σ : Type}

end Host

namespace Host

end Host

end CellRunner
