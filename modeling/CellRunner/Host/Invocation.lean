import CellRunner.Log.Level

/-!
# The command line
-/

set_option autoImplicit false

namespace CellRunner.Host

/-- What the program is asked to do. -/
structure Invocation where
  /-- source files in order -/
  sources : List String := []
  config : Option String := none
  logLevel : Option Level := none
  dryRun : Bool := false
  deriving DecidableEq, Repr

inductive Request where
  | run (invocation : Invocation)
  | version
  | help
  /-- the arguments cannot be understood -/
  | misuse
  deriving DecidableEq, Repr

/-- Whether a source names the standard input: a dash, which slashes and dots may follow. -/
def namesInput (source : String) : Bool :=
  match source.toList.splitOn '/' with
  | first :: rest => first = ['-'] && rest.all fun name => name = [] || name = ['.']
  | [] => false

/-- A word that cannot be the value of an option. -/
def isOptionLike (s : String) : Bool := s.startsWith "-" && s != "-"

def setConfig (i : Invocation) (value : String) : Option Invocation :=
  if value.isEmpty || i.config.isSome then none else some { i with config := some value }

def setLevel (i : Invocation) (value : String) : Option Invocation :=
  match Level.ofWord? value with
  | some level => if i.logLevel.isSome then none else some { i with logLevel := some level }
  | none => none

def addSource (i : Invocation) (source : String) : Option Invocation :=
  if source.isEmpty then none else some { i with sources := i.sources ++ [source] }

/-- The value in an argument of the form `name=value`. -/
def valueOf? (name arg : String) : Option String :=
  let front := (name ++ "=").toList
  if front.isPrefixOf arg.toList then some (String.ofList (arg.toList.drop front.length)) else none

/-- Goes on with an invocation, unless it has become impossible. -/
def andThen (i : Option Invocation) (next : Invocation → Request) : Request :=
  match i with
  | some i => next i
  | none => .misuse

/-- Reads the arguments; after `--` all are sources. -/
def parseFrom : Bool → Invocation → List String → Request
  | _, i, [] => if i.sources.isEmpty then .misuse else .run i
  | true, i, arg :: args => andThen (addSource i arg) (parseFrom true · args)
  | false, i, arg :: args =>
    if arg = "--" then parseFrom true i args
    else if arg = "--dry-run" then
      if i.dryRun then .misuse else parseFrom false { i with dryRun := true } args
    else if arg.startsWith "-h" || arg = "--help" then .help
    else if arg.startsWith "-V" || arg = "--version" then .version
    else if arg = "--config" || arg = "--log-level" then
      match args with
      | [] => .misuse
      | value :: args =>
        if isOptionLike value then .misuse
        else andThen (if arg = "--config" then setConfig i value else setLevel i value)
          (parseFrom false · args)
    else
      match valueOf? "--config" arg, valueOf? "--log-level" arg with
      | some value, _ => andThen (setConfig i value) (parseFrom false · args)
      | _, some value => andThen (setLevel i value) (parseFrom false · args)
      | none, none =>
        if isOptionLike arg then .misuse else andThen (addSource i arg) (parseFrom false · args)

def parse (args : List String) : Request := parseFrom false {} args

def versionText : String := "ckernel 0.1.0\n"

end CellRunner.Host
