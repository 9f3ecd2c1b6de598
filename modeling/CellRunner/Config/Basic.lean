import CellRunner.Text.Blank
import CellRunner.Text.Quoted

/-!
# Configuration

How sources are compiled, where temporary files go and how test scripts are run.
-/

set_option autoImplicit false

namespace CellRunner

/-- Hardening and sanitizer flags that every compilation starts with. -/
def defaultBaselineFlags : List String :=
  ["-ggdb", "-fPIC", "-ftrapv", "-fpack-struct", "-fsanitize=address", "-fsanitize=leak",
    "-fsanitize=undefined", "-fsanitize=shift", "-fsanitize=vla-bound", "-fsanitize=null",
    "-fsanitize=bounds", "-fsanitize=object-size", "-fsanitize-address-use-after-scope",
    "-fstack-protector-all"]

structure Toolchain where
  compiler : String := "gcc"
  /-- flags before those of a source's own directives -/
  baselineFlags : List String := defaultBaselineFlags
  deriving DecidableEq, Repr

structure Workspace where
  /-- the directory of temporary files; the system's own when absent -/
  tempDir : Option String := none
  deriving DecidableEq, Repr

structure Verification where
  /-- runs each test script; when blank a script is run directly -/
  interpreter : String := "/bin/bash"
  /-- permission bits given to a script before it runs -/
  scriptMode : Nat := 0o777
  deriving DecidableEq, Repr

structure Config where
  toolchain : Toolchain := {}
  workspace : Workspace := {}
  verification : Verification := {}
  deriving DecidableEq, Repr

/-- The interpreter without blanks around it; none when nothing remains. -/
def Verification.interpreter? (v : Verification) : Option String :=
  let s := Text.trimmed v.interpreter
  if s.isEmpty then none else some s

/-- The directory of temporary files, given that of the system. -/
def Config.tempDir (c : Config) (system : String) : String := c.workspace.tempDir.getD system

namespace Config

/-! ## Checks on a configuration -/

/-- What makes a configuration unusable. -/
inductive Invalid where
  | emptyCompiler
  | emptyFlag (flag : String)
  | noDirectory (dir : String)
  | scriptMode (mode : Nat)
  deriving DecidableEq, Repr

/-- A number in octal, marked as such. -/
def octal (n : Nat) : String := "0o" ++ String.ofList (Nat.toDigits 8 n)

def Invalid.message : Invalid → String
  | .emptyCompiler => "[toolchain].compiler must not be empty"
  | .emptyFlag flag =>
    "[toolchain].baseline_flags contains an empty flag (" ++ Text.quoted flag ++ ")"
  | .noDirectory dir => "[workspace].temp_dir '" ++ dir ++ "' is not an existing directory"
  | .scriptMode mode =>
    "[verification].script_mode must be a permission mode <= 0o7777 (got " ++ octal mode ++ ")"

/-- The first fault, in the order compiler, flags, directory, mode; `isDirectory` tells which
paths are directories now. -/
def fault? (isDirectory : String → Bool) (c : Config) : Option Invalid :=
  if Text.isBlankText c.toolchain.compiler then some .emptyCompiler
  else
    match c.toolchain.baselineFlags.find? Text.isBlankText with
    | some flag => some (.emptyFlag flag)
    | none =>
      match c.workspace.tempDir.filter (!isDirectory ·) with
      | some dir => some (.noDirectory dir)
      | none =>
        if c.verification.scriptMode > 0o7777 then some (.scriptMode c.verification.scriptMode)
        else none

end Config

end CellRunner
