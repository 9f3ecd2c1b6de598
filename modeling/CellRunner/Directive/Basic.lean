import CellRunner.Directive.Arguments
import CellRunner.Directive.Line

/-!
# The directives of a source text

Every directive line adds to the field of its key; all other lines add nothing. So the
directives of a text are the sum of those of its lines, in order.
-/

set_option autoImplicit false

namespace CellRunner

/-- Sentences about memory to be shown to the user, one text for each key. -/
structure MemoryHints where
  noTerminator : String := ""
  total : String := ""
  auxiliary : String := ""
  expected : String := ""
  deriving DecidableEq, Repr

namespace MemoryHints

def isEmpty (h : MemoryHints) : Bool :=
  h.noTerminator.isEmpty && h.total.isEmpty && h.auxiliary.isEmpty && h.expected.isEmpty

/-- The texts that are not empty, in the order they are shown. -/
def shown (h : MemoryHints) : List String :=
  [h.noTerminator, h.total, h.auxiliary, h.expected].filter (!·.isEmpty)

/-- Field by field, the texts of one after those of the other. -/
def append (a b : MemoryHints) : MemoryHints where
  noTerminator := a.noTerminator ++ b.noTerminator
  total := a.total ++ b.total
  auxiliary := a.auxiliary ++ b.auxiliary
  expected := a.expected ++ b.expected

end MemoryHints

/-- What a source text asks for. -/
structure Directives where
  /-- flags for the compiler, put before the source file -/
  compileFlags : List String := []
  /-- flags put after the output file -/
  linkFlags : List String := []
  /-- text for the program's standard input -/
  stdin : String := ""
  /-- shown to the user and compared with nothing -/
  expectedStdout : String := ""
  memoryHints : MemoryHints := {}
  /-- scripts to run after the program, as written after the colon -/
  testScripts : List String := []
  programArgs : List String := []
  deriving DecidableEq, Repr

namespace Directives

/-- Whether there is anything to show before the program runs. -/
def hasGuidance (d : Directives) : Bool :=
  !d.stdin.isEmpty || !d.expectedStdout.isEmpty || !d.memoryHints.isEmpty

/-- Field by field, what one asks for and then what the other asks for. -/
def append (a b : Directives) : Directives where
  compileFlags := a.compileFlags ++ b.compileFlags
  linkFlags := a.linkFlags ++ b.linkFlags
  stdin := a.stdin ++ b.stdin
  expectedStdout := a.expectedStdout ++ b.expectedStdout
  memoryHints := a.memoryHints.append b.memoryHints
  testScripts := a.testScripts ++ b.testScripts
  programArgs := a.programArgs ++ b.programArgs

def texts (ws : List (List Char)) : List String := ws.map String.ofList

/-- What a directive with this key and value adds. -/
def ofDirective (key : Directive.Key) (value : List Char) : Directives :=
  let v := String.ofList value
  match key with
  | .cflags => { compileFlags := texts (Text.words value) }
  | .ldflags => { linkFlags := texts (Text.words value) }
  | .stdin => { stdin := String.ofList (Directive.QuotedLines.joined value) }
  | .stdout => { expectedStdout := String.ofList (Directive.QuotedLines.joined value) }
  | .testScript => { testScripts := [v] }
  | .memTotalNoTerm => { memoryHints := { noTerminator :=
      "If you only allocated " ++ v ++
        " bytes, you have likely left off space for string termination.\n" } }
  | .memTotal => { memoryHints := { total :=
      "If you only allocated " ++ v ++
        " bytes, you may not have allocated space for the array, " ++
        "which may or may not be what you wanted to do.\n" } }
  | .memAux => { memoryHints := { auxiliary :=
      "If you only allocated " ++ v ++
        " bytes, you may not have allocated space for each string " ++
        "in the array, only the pointers to each string.\n" } }
  | .memExpect => { memoryHints := { expected :=
      "You should expect to use about " ++ v ++
        " bytes, you can use valgrind and gdb to check " ++
        "that you've got this right in next week's workshop.\n" } }
  | .args => { programArgs := texts (Directive.Arguments.split value) }

def ofLine : Directive.Line → Directives
  | .directive key value => ofDirective key value
  | _ => {}

/-- The lines of a source text, each with its meaning. -/
def linesOf (source : String) : List Directive.Line :=
  (Text.lines source.toList).map Directive.Line.read

def parse (source : String) : Directives :=
  (linesOf source).foldl (fun d l => d.append (ofLine l)) {}

end Directives

end CellRunner
