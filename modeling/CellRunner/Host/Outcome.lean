import CellRunner.Host.Run
import CellRunner.Log.Line

/-!
# What the user sees of a run
-/

set_option autoImplicit false

namespace CellRunner.Host

/-- What is written to the standard error: texts, and log lines between them. -/
inductive Notice where
  | text (text : String)
  | log (line : Log.Line)
  deriving DecidableEq, Repr

structure Outcome where
  exitCode : Nat
  stdout : String := ""
  notices : List Notice := []
  deriving DecidableEq, Repr

namespace Outcome

/-- The standard error without its log lines. -/
def stderr (o : Outcome) : String :=
  String.join (o.notices.filterMap fun
    | .text s => some s
    | .log _ => none)

def logs (o : Outcome) : List Log.Line :=
  o.notices.filterMap fun
    | .text _ => none
    | .log l => some l

end Outcome

def helpText : String :=
  "Usage: ckernel [OPTIONS] <SOURCE>...\n\nOptions:\n" ++
    "      --config <PATH>\n      --log-level <LEVEL>  error, warn, info, debug or trace\n" ++
    "      --dry-run\n  -h, --help\n  -V, --version\n"

/-- The texts for the standard output among events. -/
def printedText (events : List Event) : String :=
  String.join (events.filterMap fun
    | .wrote .stdout text => some text
    | .printed text => some text
    | _ => none)

/-- What an event makes appear on the standard error. -/
def noticeOf (level : Level) : Event → Option Notice
  | .wrote .stderr text => some (.text text)
  | e => ((Log.ofEvent e).filter fun l => level.shows l.level).map .log

variable {σ : Type}

/-- The outcome of a run that leaves a scene; `level` is the chosen log level. -/
def outcomeOf (trouble : Option Trouble) (level : Level) (s : Scene σ) : Outcome :=
  { exitCode := if trouble.isSome then 1 else 0
    stdout := printedText s.events
    notices := s.events.filterMap (noticeOf level) ++
      trouble.toList.map fun t => .text t.message }

/-- Does what the arguments ask for; `environment` is the log level set there, if any. -/
def respond (w : World σ) (args : List String) (environment : Option String) (world : σ) :
    Outcome × σ :=
  match parse args with
  | .misuse => ({ exitCode := 2, notices := [.text helpText] }, world)
  | .version => ({ exitCode := 0, stdout := versionText }, world)
  | .help => ({ exitCode := 0, stdout := helpText }, world)
  | .run i =>
    let scene : Scene σ := { world, files := { dir := w.tempDir } }
    let level := Log.chosen i.logLevel environment
    match run w i scene with
    | .ok trouble s => (outcomeOf trouble level s, s.world)
    | .error _ s => ({ outcomeOf none level s with exitCode := 1 }, s.world)

end CellRunner.Host
