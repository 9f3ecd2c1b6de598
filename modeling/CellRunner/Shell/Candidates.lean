import CellRunner.Shell.Lookup

/-!
# Words that complete a word

A completion gives the names of some kinds, the files that a pattern describes, words of its own
and what a function or a command comes up with.
-/

set_option autoImplicit false

namespace CellRunner.Shell.Candidates

open Builtin (sorted put)

/-- Words that the grammar gives a meaning to, in order. -/
def keywords : List String :=
  ["if", "then", "else", "elif", "fi", "case", "esac", "for", "select", "while", "until", "do",
    "done", "in", "function", "time", "\x7b", "\x7d", "!", "[[", "]]", "coproc"]

/-- The names of all signals and events. -/
def signals : List String :=
  (List.range 68).map fun n =>
    if n = 32 || n = 33 then "SIGJUNK(" ++ toString n ++ ")" else Signal.fullName n

/-- The names of files that begin with a text. -/
def filesLike (word : Text) : Script (List Text) := do
  let name := (word.reverse.takeWhile (· != '/')).reverse
  let front := word.take (word.length - name.length)
  match ← Script.ask (.list (asName (if front.isEmpty then ['.'] else front))) with
  | .error _ => return []
  | .ok names => return ((names.map ofString).filter (name.isPrefixOf ·)).map (front ++ ·)

/-- The names of programs that begin with a text. -/
def programsLike (word : Text) : Script (List Text) := do
  let mut out : List (List Text) := []
  for dir in ← Lookup.searchPath do
    for path in ← filesLike (Lookup.inDirectory dir word) do
      match ← Script.ask (.stat (asName path) true) with
      | .ok info =>
        if info.kind == .file && info.allows Machine.Files.searching then
          out := [path.drop (if dir.isEmpty then 0 else dir.length + 1)] :: out
      | .error _ => pure ()
  return out.reverse.flatten

/-- The first word of what each job carries out. -/
def jobNames (p : Job → Bool) : Script (List Text) := do
  Jobs.refresh
  return (((← get).jobs.reverse.filter fun j => !Jobs.hasEnded j && p j).filterMap fun j =>
    j.members.head?.map fun m => m.text.takeWhile (· != ' '))

/-- The kinds of names in the order in which they are gone through. -/
def kinds : List String :=
  ["alias", "arrayvar", "builtin", "disabled", "enabled", "export", "function", "helptopic",
    "hostname", "job", "keyword", "running", "setopt", "shopt", "signal", "stopped", "variable",
    "command", "file", "user", "group", "service", "directory"]

/-- All names of one kind that begin with a word. -/
def ofKind (word : Text) (kind : String) : Script (List Text) := do
  let s ← get
  let like (names : List Text) : List Text := names.filter (word.isPrefixOf ·)
  let texts (names : List String) : List Text := like (names.map String.toList)
  let variablesWith (p : Variable → Bool) : List Text :=
    like (sorted ((s.variables_.filter p).map (·.name)))
  let isOff (n : String) : Bool := s.disabled.contains n.toList
  let functions := like (sorted (s.functions.map (·.name)))
  let aliases := like (sorted (s.aliases.map (·.1)))
  match kind with
  | "alias" => return aliases
  | "arrayvar" => return variablesWith fun v => match v.value with
    | some (.list _) => true
    | _ => false
  | "builtin" => return texts Lookup.builtinNames
  | "disabled" => return texts (Lookup.builtinNames.filter isOff)
  | "enabled" => return texts (Lookup.builtinNames.filter (!isOff ·))
  | "export" => return variablesWith (·.exported)
  | "function" => return functions
  | "helptopic" => return texts (Help.topics.map (·.name))
  | "hostname" => return texts ["localhost"]
  | "job" => return like (← jobNames fun _ => true)
  | "keyword" => return texts keywords
  | "running" => return like (← jobNames Jobs.isRunning)
  | "setopt" => return texts Builtin.extendedOptions
  | "shopt" => return texts (Builtin.features.map (·.1))
  | "signal" => return texts signals
  | "stopped" => return like (← jobNames Jobs.isStopped)
  | "variable" => return variablesWith fun v => v.value.isSome
  | "command" =>
    if word.contains '/' then filesLike word
    else
      return aliases ++ texts keywords ++ functions ++
        texts (Lookup.builtinNames.filter (!isOff ·)) ++ (← programsLike word)
  | "file" => filesLike word
  | "user" => return texts (Machine.Account.users.map (·.name))
  | "group" => return texts (Machine.Account.groups.map (·.name))
  | "directory" => (← filesLike word).filterM FileNames.isDirectory
  | _ => return []

/-- A pattern in which ampersands stand for the word; a backslash keeps one from that. -/
def withWord (word : Text) : Text → Text
  | '\\' :: '&' :: rest => '&' :: withWord word rest
  | '&' :: rest => word ++ withWord word rest
  | c :: rest => c :: withWord word rest
  | [] => []

/-- Leaves out what a pattern describes, or all else if an exclamation mark begins it. -/
def filtered (hasGroups : Bool) (filter word : Text) (found : List Text) : List Text :=
  let (keeps, p) := match filter with
    | '!' :: p => (true, p)
    | p => (false, p)
  let p := withWord word p
  let pattern := Pattern.ofGlyphs hasGroups (p.length + 1) (p.map (·, false))
  found.filter fun cs => pattern.describes cs = keeps

section

variable (run : Runner)

/-- The words of a completion that begin with a word. -/
def wordsLike (list word : Text) : Script (List Text) := do
  let ifs ← Expand.separators
  match Parse.words? .extended (ifs.contains ·) list with
  | none => return []
  | some ws =>
    let mut out : List (List Text) := []
    for w in ws do out := (← Expand.bareFields run w) :: out
    return (out.reverse.flatten).filter (word.isPrefixOf ·)

/-- What a function leaves in the variable for replies. -/
def ofFunction (call : Function → List Text → Script Unit) (name word : Text) :
    Script (List Text) := do
  Script.refuse "warning: -F option may not work as you expect".toList
  match (← get).function? name with
  | none =>
    Script.complain ("completion: function ".toList ++ Parser.inMarks name ++ " not found".toList)
    return []
  | some f =>
    let own := ["COMP_LINE", "COMP_POINT", "COMP_CWORD"].map String.toList
    for (name, value) in own.zip [[], ['0'], ['-', '1']] do Script.assign name value
    let builtin := (← get).builtin
    modify fun s => { s with builtin := none }
    call f ["compgen".toList, word, []]
    modify fun s => { s with builtin }
    let replies := "COMPREPLY".toList
    let found := Script.Value.items ((← Script.find? replies).bind (·.value))
    for name in replies :: own do Script.remove name
    return found.map (·.2)

/-- The lines that a command writes. -/
def ofCommand (command word : Text) : Script (List Text) := do
  Script.refuse "warning: -C option may not work as you expect".toList
  let text := List.intercalate [' '] (command ::
    ["compgen".toList, word, []].map Format.singleQuoted)
  match Parse.line (Copy.sourceOf .extended 1 text) with
  | .ok ({ command := some c, .. }, _) =>
    let found ← Copy.capture run c
    return if found.isEmpty then [] else ((String.ofList found).splitOn "\n").map String.toList
  | _ => return []

/-- What a completion finds for a word. -/
def find (call : Function → List Text → Script Unit) (c : Completion) (word : Text) :
    Script (List Text) := do
  let mut out : List (List Text) := []
  for kind in kinds do
    if c.kinds.contains kind then out := (← ofKind word kind) :: out
  if let some p := c.files then
    let found ← FileNames.describedBy (p.map (·, false))
    out := (if found = [p] && !(← FileNames.isThere p) then [] else found) :: out
  if let some list := c.words then out := (← wordsLike run list word) :: out
  if let some name := c.function then out := (← ofFunction call name word) :: out
  if let some command := c.command then out := (← ofCommand run command word) :: out
  let found := out.reverse.flatten
  let hasGroups ← Expand.hasGroups
  let found := match c.filter with
    | some p => filtered hasGroups p word found
    | none => found
  let found := found.map fun cs => (c.front.getD []) ++ cs ++ (c.back.getD [])
  let directories ← if c.options.contains "plusdirs" ||
      (c.options.contains "dirnames" && found.isEmpty) then ofKind word "directory" else pure []
  let found := found ++ directories
  if found.isEmpty && c.options.contains "default" then filesLike word else return found

/-- Lists what completes a word. -/
def compgen (call : Function → List Text → Script Unit) (args : List Text) : Script Nat := do
  Builtin.withOptions Builtin.completionLetters Builtin.completionValued (Help.usage "compgen") args
    fun options operands => do
      match ← Builtin.completionFrom {} options with
      | .error status => return status
      | .ok c =>
        if options.isEmpty then return 0
        let found ← find run call c (operands.headD [])
        if found.isEmpty then return 1
        put (found.flatMap fun cs => cs ++ ['\n'])

end

end CellRunner.Shell.Candidates
