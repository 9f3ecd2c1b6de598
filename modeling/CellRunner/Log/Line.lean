import CellRunner.Log.Level
import CellRunner.Session.Event

/-!
# Log lines

A line names its level, the part of the program it comes from, and what happened with the
values that belong to it. A text is quoted where it may hold anything.
-/

set_option autoImplicit false

namespace CellRunner.Log

structure Line where
  level : Level
  origin : String
  text : String
  deriving DecidableEq, Repr

def Line.render (l : Line) : String := l.level.name ++ " " ++ l.origin ++ ": " ++ l.text

def field (name value : String) : String := " " ++ name ++ "=" ++ value

def optional : Option Int → String
  | some n => "Some(" ++ toString n ++ ")"
  | none => "None"

def numbers (ns : List Int) : String := "[" ++ String.intercalate ", " (ns.map toString) ++ "]"

/-- The line that tells of an event, for those that are told. -/
def ofEvent : Event → Option Line
  | .spawned program args process =>
    some ⟨.info, "ckernel::exec::process", "spawned child process" ++
      field "program" (Text.quoted program) ++ field "args" (Text.quotedList args) ++
      field "pid" (toString process)⟩
  | .exited _ program code =>
    some ⟨.info, "ckernel::exec::process", "child process exited" ++ field "program" program ++
      field "exit_code" (toString code)⟩
  | .transition source target =>
    some ⟨.info, "ckernel::engine::pipeline", "pipeline stage transition" ++
      field "from" source.text ++ field "to" target.text⟩
  | .handled execution stage compileExit runExit scriptExits =>
    some ⟨.info, "ckernel::engine::session", "request handled" ++
      field "execution" (toString execution) ++ field "stage" stage.text ++
      field "compile_exit" (toString compileExit) ++ field "run_exit" (optional runExit) ++
      field "script_exits" (numbers scriptExits)⟩
  | .shutDown files =>
    some ⟨.info, "ckernel::engine::session", "session shut down" ++ field "files" (toString files)⟩
  | .shutDownFailed cause =>
    some ⟨.warn, "ckernel::engine::session", "session shut down with cleanup errors" ++
      field "error" cause.message⟩
  | .removalFailed path e =>
    some ⟨.warn, "ckernel::fs", "failed to remove temp file" ++ field "path" path ++
      field "error" e.message⟩
  | .executing source => some ⟨.info, "ckernel", "executing source" ++ field "source" source⟩
  | .defaultsUsed path =>
    some ⟨.debug, "ckernel::config::loader", "no config file; using defaults" ++ field "path" path⟩
  | .directiveIgnored line =>
    some ⟨.trace, "ckernel::directive::parser", "ignoring directive without exactly one ':'" ++
      field "line" (Text.quoted line)⟩
  | .keyIgnored key =>
    some ⟨.trace, "ckernel::directive::parser", "ignoring unknown directive" ++
      field "key" (Text.quoted key)⟩
  | _ => none

/-- The chosen level: the one on the command line, else the one in the environment. -/
def chosen (commandLine : Option Level) (environment : Option String) : Level :=
  (commandLine.or (environment.bind Level.read?)).getD .warn

end CellRunner.Log
