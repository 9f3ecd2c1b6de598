import CellRunner.Config.Schema
import CellRunner.Fault.System
import CellRunner.Supervisor.Basic

/-!
# Failures of the backend

A user's program that does not compile, crashes or exits with a code other than zero is no
failure. These are: a process that cannot be started, output that is not text, temporary
files that cannot be made or removed, and a configuration that cannot be used.
-/

set_option autoImplicit false

namespace CellRunner

inductive Fault where
  | spawn (program : String) (cause : IoFault)
  | decode (stream : Stream) (cause : Utf8.Fault)
  /-- no temporary file could be made in a directory -/
  | creating (dir : String) (cause : IoFault)
  /-- a temporary file could not be filled -/
  | writing (path : String) (cause : IoFault)
  | removing (path : String) (cause : IoFault)
  | config (cause : Config.Invalid)
  | io (cause : IoFault)
  /-- the document is ill-formed -/
  | tomlSyntax
  /-- the document is well-formed and no configuration -/
  | tomlSchema (text : String) (cause : Config.SchemaFault)
  deriving DecidableEq, Repr

namespace Fault

/-- The failure that a failure lies in, as text. -/
def source? : Fault → Option String
  | .spawn _ e => some e.message
  | .decode _ f => some f.message
  | .io e => some e.message
  | .tomlSyntax => some ""
  | .tomlSchema text f => some (f.message text)
  | _ => none

def message : Fault → String
  | .spawn program e => "failed to spawn '" ++ program ++ "': " ++ e.message
  | .decode stream f => stream.name ++ " of child process is not valid UTF-8: " ++ f.message
  | .creating dir e => "Resource error: creating temp file in " ++ dir ++ ": " ++ e.message
  | .writing path e => "Resource error: writing temp file " ++ path ++ ": " ++ e.message
  | .removing path e => "Resource error: removing " ++ path ++ ": " ++ e.message
  | .config c => "Configuration error: " ++ c.message
  | .io e => "IO error: " ++ e.message
  | .tomlSyntax => "TOML parsing error: "
  | .tomlSchema text f => "TOML parsing error: " ++ f.message text

def ofFailure : Supervisor.Failure → Fault
  | .decode stream f => .decode stream f
  | .io e => .io e

end Fault

end CellRunner
