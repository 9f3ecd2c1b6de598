import CellRunner.Tool.Editing.Script
import CellRunner.Tool.Launch
import CellRunner.Tool.Paths

/-!
# Editing streams

Each line is put into a space of its own, the commands of a script change it, and what is left
of it is written. A second space keeps text from one line to the next.
-/

set_option autoImplicit false

namespace CellRunner.Tool

open Machine (Prog)
open Shell (Text toBytes ofBytes ofString asName)

namespace Editing

structure Space where
  text : Text := []
  /-- whether the line had its end -/
  isEnded : Bool := true

/-- What is shown after the present line. -/
inductive Later where
  | text (cs : Text)
  | file (path : Text)

/-- A file that is written. -/
structure Sink where
  path : Text
  descriptor : Nat
  /-- whether the last line lacks its end -/
  owes : Bool := false

/-- How far a range of lines has come. -/
inductive Span where
  | idle
  | upTo (line : Nat)
  /-- up to a line that is not known yet -/
  | open
  deriving DecidableEq, Repr

structure Settings where
  silent : Bool
  separate : Bool
  /-- the ending of names of old files, if files are edited in place -/
  inPlace : Option Text
  width : Nat
  mark : Char
  eager : Bool

/-- A file that is edited in place. -/
structure Draft where
  path : Text
  temporary : Text
  descriptor : Nat
  mode : Nat

structure State where
  settings : Settings
  script : Script
  space : Space := {}
  hold : Space := {}
  /-- what is shown later, the last first -/
  later : List Later := []
  replaced : Bool := false
  /-- the expression that was used last -/
  used : Option (Regex × Regex.Manner) := none
  spans : Array Span
  sinks : List Sink := []
  /-- files that are read a line at a time -/
  readers : List (Text × Feed) := []
  feed : Option Feed := none
  name : Text := ['-']
  /-- files that were not opened yet -/
  waiting : List Text
  /-- a line that was read before its time -/
  ahead : Option (Text × Bool) := none
  line : Nat := 0
  code : Nat := 0
  draft : Option Draft := none
  owes : Bool := false

abbrev Editor := StateT State Run

/-- Where output goes. -/
inductive Target where
  | main
  | file (path : Text)

def stop {α : Type} (message : Text) : Editor α := do
  complain message
  quit 4

/-! ### Output -/

/-- The text of a command, where the end of its last line is that of other lines. -/
def ended (cs : Text) : Editor Text := do
  let mark := (← get).settings.mark
  return if cs.getLast? = some '\n' then cs.dropLast ++ [mark] else cs

/-- Writes text to the main output. -/
def put (cs : Text) : Editor Unit := do
  let s ← get
  match s.draft with
  | some d =>
    let _ ← run (Prog.put d.descriptor (toBytes cs))
  | none =>
    out cs
    if s.settings.eager then flush

/-- Writes the end that the last line of the main output lacks. -/
def settle : Editor Unit := do
  let s ← get
  if s.owes then
    put [s.settings.mark]
    set { s with owes := false }

def putText (cs : Text) : Editor Unit := do
  settle
  put cs

/-- Writes a line, with its end if there is one. -/
def putLine (target : Target) (cs : Text) (isEnded : Bool) : Editor Unit := do
  let s ← get
  let mark := s.settings.mark
  let closing := if isEnded then [mark] else []
  match target with
  | .main =>
    settle
    put (cs ++ closing)
    modify fun s => { s with owes := !isEnded }
  | .file path =>
    if path = "/dev/stdout".toList then
      settle
      out (cs ++ closing)
      modify fun s => { s with owes := !isEnded }
    else
      let some sink := s.sinks.find? (·.path == path) | return ()
      let opening := if sink.owes then [mark] else []
      let _ ← run (Prog.put sink.descriptor (toBytes (opening ++ cs ++ closing)))
      let sinks := s.sinks.map fun k => if k.path == path then { k with owes := !isEnded } else k
      set { s with sinks }

/-- Shows what was kept for the end of a line. -/
def putLater : Editor Unit := do
  let items := (← get).later.reverse
  modify fun s => { s with later := [] }
  for item in items do
    settle
    match item with
    | .text cs => put cs
    | .file path =>
      let path := if path = "/dev/stdin".toList then ['-'] else path
      match ← contents path with
      | .ok cs => put cs
      | .error _ => pure ()

/-! ### Input -/

def chunk (s : Settings) : Nat := if s.eager then 1 else 4096

/-- The name of an old file. -/
def backupOf (path suffix : Text) : Text :=
  let base := Paths.lastName path
  let name := if suffix.contains '*' then suffix.flatMap fun c => if c = '*' then base else [c]
    else base ++ suffix
  if name.contains '/' then name else path.take (path.length - base.length) ++ name

/-- Puts an edited file in its place. -/
def finishDraft : Editor Unit := do
  let s ← get
  match s.draft with
  | none => return ()
  | some d =>
    close d.descriptor
    let rename (source target : Text) : Editor Unit := do
      match ← ask (.move (asName source) (asName target)) with
      | .ok () => pure ()
      | .error e => stop (because ("cannot rename ".toList ++ source) e)
    match s.settings.inPlace with
    | some [] => pure ()
    | some suffix => rename d.path (backupOf d.path suffix)
    | none => pure ()
    rename d.temporary d.path
    set { s with draft := none, owes := false }

/-- Closes the present file. -/
def closeInput : Editor Unit := do
  let s ← get
  match s.feed with
  | some f =>
    if f.descriptor != 0 then close f.descriptor
    set { s with feed := none }
    finishDraft
  | none => return ()

/-- Starts a new version of a file. -/
def startDraft (path : Text) (descriptor : Nat) : Editor Bool := do
  match ← ask (.statOpen descriptor) with
  | .ok info =>
    if info.kind == .file then
      let base := Paths.lastName path
      let temporary := path.take (path.length - base.length) ++ "sed".toList ++ ofNat (← ask .self)
      match ← ask (.open (asName temporary) .truncate info.mode 3) with
      | .ok d =>
        let _ ← ask (.setMode (asName temporary) info.mode)
        modify fun s => { s with draft := some { path, temporary, descriptor := d, mode := info.mode } }
        return true
      | .error e => stop (because ("couldn't open temporary file ".toList ++ temporary) e)
    else
      complain ("couldn't edit ".toList ++ path ++ ": not a regular file".toList)
      modify fun s => { s with code := 4 }
      return false
  | .error _ => return false

/-- Lines are counted anew. -/
def startAnew : Editor Unit := do
  modify fun s => { s with
    line := 0
    spans := s.script.commands.map fun c =>
      if c.selection.first = some .zero then .open else .idle }
  if (← get).settings.inPlace.isNone then settle

/-- Opens the next file; false if there is none. -/
def openNext : Editor Bool := do
  let s ← get
  match s.waiting with
  | [] => return false
  | path :: waiting =>
    set { s with waiting, name := path }
    if path = ['-'] && s.settings.inPlace.isNone then
      modify fun s => { s with feed := some { descriptor := 0, chunk := chunk s.settings } }
    else
      match ← ask (.open (asName path) .read 0 3) with
      | .error e =>
        complain ("can't read ".toList ++ because path e)
        modify fun s => { s with code := 2 }
      | .ok d =>
        let ready ← if s.settings.inPlace.isSome then startDraft path d else pure true
        if ready then
          modify fun s => { s with feed := some { descriptor := d, chunk := chunk s.settings } }
        else close d
    if s.settings.separate then startAnew
    return true

/-- The next line of the present file, kept in `ahead`; false at its end. -/
def lookAhead : Editor Bool := do
  let s ← get
  if s.ahead.isSome then return true
  match s.feed with
  | none => return false
  | some f =>
    let (line, f) ← f.next s.settings.mark
    match f.trouble with
    | some e => stop ("read error on ".toList ++ because s.name e)
    | none =>
      set { s with feed := some f, ahead := line }
      return line.isSome

/-- Goes on to the next file that has a line; `fuel` bounds the number of files. -/
def advance : Nat → Editor Bool
  | 0 => return false
  | fuel + 1 => do
    if ← lookAhead then return true
    closeInput
    if ← openNext then advance fuel else return false

/-- Whether no line follows. -/
def isLast : Editor Bool := do
  if ← lookAhead then return false
  let s ← get
  if s.settings.separate then return true
  return !(← advance (s.waiting.length + 1))

/-- Reads the next line, into the space or after what is in it; false if there is none. -/
def readLine (appends : Bool) : Editor Bool := do
  putLater
  modify fun s => { s with replaced := false }
  if !(← advance ((← get).waiting.length + 1)) then return false
  let s ← get
  match s.ahead with
  | none => return false
  | some (cs, isEnded) =>
    let text := if appends then s.space.text ++ cs else cs
    set { s with ahead := none, line := s.line + 1, space := { text, isEnded } }
    return true

/-! ### Addresses -/

/-- The expression of a pattern, which becomes the one used last. -/
def expressionOf (p : Pattern) : Editor (Regex × Regex.Manner) := do
  match p.regex with
  | some r =>
    modify fun s => { s with used := some (r, p.manner) }
    return (r, p.manner)
  | none =>
    match (← get).used with
    | some u => return u
    | none =>
      complain "-e expression #1, char 0: no previous regular expression".toList
      quit 1

def isAt (a : Address) : Editor Bool := do
  let s ← get
  match a with
  | .zero => return false
  | .line n => return s.line == n
  | .step first step =>
    if step = 0 then return s.line == first
    return s.line ≥ first && (s.line - first) % step == 0
  | .last => isLast
  | .pattern p =>
    let (r, m) ← expressionOf p
    return Regex.isMatch m r s.space.text

def setSpan (i : Nat) (x : Span) : Editor Unit :=
  modify fun s => { s with spans := s.spans.setIfInBounds i x }

/-- Whether a range of lines starts at this line. -/
def startsAt (i : Nat) (first : Address) (final : Until) : Editor Bool := do
  if !(← isAt first) then return false
  let line := (← get).line
  match final with
  | .address (.line n) => if n > line then setSpan i (.upTo n)
  | .plus n => if n > 0 then setSpan i (.upTo (line + n))
  | .multiple n => if n > 0 && line % n != 0 then setSpan i (.upTo (line + (n - line % n)))
  | .address _ => setSpan i .open
  return true

/-- Whether the command with number `i` is for the present line. -/
def chooses (i : Nat) (x : Selection) : Editor Bool := do
  let s ← get
  let chosen ← match x.first, x.final with
    | none, _ => pure true
    | some first, none => isAt first
    | some first, some final => do
      match s.spans.getD i .idle, final with
      | .upTo n, _ =>
        if s.line ≥ n then setSpan i .idle
        pure (s.line ≤ n : Bool)
      | .open, .address a =>
        if ← isAt a then setSpan i .idle
        pure true
      | _, _ => startsAt i first final
  return chosen != x.negated

/-! ### Substitutions -/

def Recase.apply : Recase → Char → Char
  | .keep, c => c
  | .upper, c => c.toUpper
  | .lower, c => c.toLower

/-- How the case of what follows is changed. -/
structure Casing where
  mode : Recase := .keep
  once : Option Recase := none

def Casing.apply (k : Casing) : Text → Text × Casing
  | [] => ([], k)
  | c :: cs => ((k.once.getD k.mode).apply c :: cs.map k.mode.apply, { k with once := none })

/-- What is put in place of a match. -/
def replacement (text : Text) (m : Regex.Match) : Casing → List Piece → Text
  | _, [] => []
  | k, p :: ps =>
    match p with
    | .text cs =>
      let (cs, k) := k.apply cs
      cs ++ replacement text m k ps
    | .group n =>
      let (cs, k) := k.apply ((m.group? text n).getD [])
      cs ++ replacement text m k ps
    | .recase r => replacement text m { mode := r } ps
    | .once r => replacement text m { k with once := some r } ps

/-- Goes on with a substitution from a place in the text on. `done` holds what comes before,
the last part first, `count` the matches so far and `edge` the end of the last one; the value
tells whether anything was replaced. `fuel` bounds the matches. -/
def substituteFrom (x : Substitution) (r : Regex) (m : Regex.Manner) (text : Text) :
    Nat → Nat → Nat → Option Nat → List Text → Bool → Text × Bool
  | 0, start, _, _, done, changed => ((text.drop start :: done).reverse.flatten, changed)
  | fuel + 1, start, count, edge, done, changed =>
    let finish (done : List Text) (start : Nat) (changed : Bool) : Text × Bool :=
      ((text.drop start :: done).reverse.flatten, changed)
    if start > text.length then finish done start changed
    else
      match Regex.find? m r text start with
      | none => finish done start changed
      | some found =>
        let done := Regex.Match.part text start found.start :: done
        let isEmpty := found.start = found.stop
        let next := if isEmpty then found.stop + 1 else found.stop
        let skipped := if isEmpty then Regex.Match.part text found.stop next else []
        if isEmpty && edge = some found.start then
          substituteFrom x r m text fuel next count edge (skipped :: done) changed
        else if count + 1 < x.first then
          substituteFrom x r m text fuel next (count + 1) (some found.stop)
            (skipped :: found.text text :: done) changed
        else
          let done := replacement text found {} x.pieces :: done
          if x.all then
            substituteFrom x r m text fuel next (count + 1) (some found.stop) (skipped :: done) true
          else finish done found.stop true

/-! ### Commands -/

/-- How the commands for one line end. -/
inductive Ending where
  | done
  | discarded
  /-- the commands start again without a new line -/
  | again
  | quit (code : Nat) (quietly : Bool)

/-- A text where characters that cannot be shown are escapes, in lines of some width. -/
def spelledOut (width : Nat) : Nat → Text → Text
  | _, [] => ['$', '\n']
  | column, c :: cs =>
    let piece := if c = '\\' then ['\\', '\\'] else if isPrintable c then [c] else escaped c
    if width > 0 && column + piece.length > width - 1 then
      '\\' :: '\n' :: piece ++ spelledOut width piece.length cs
    else piece ++ spelledOut width (column + piece.length) cs

/-- What a command of the shell prints. -/
def outputOf (command : Text) : Editor Text := do
  let (input, output) ← ask .pipe
  let d ← (get : Run Desk)
  let _ ← Launch.startAside "sh".toList ["-c".toList, command] d.call.environment id do
    let _ ← ask (.copy output 1)
    close output
    close input
  close output
  let all ← slurp input
  close input
  let _ ← ask (.wait none false)
  return (all.toOption.map ofBytes).getD []

/-- A line from a file that is read a line at a time. -/
def lineOf (path : Text) : Editor Unit := do
  let s ← get
  let found ← match s.readers.lookup path with
    | some f => pure (some f)
    | none =>
      if path = "/dev/stdin".toList then pure (some { descriptor := 0 })
      else
        match ← ask (.open (asName path) .read 0 3) with
        | .ok d => pure (some { descriptor := d })
        | .error _ => pure none
  match found with
  | none => return ()
  | some f =>
    let (line, f) ← f.next s.settings.mark
    modify fun s => { s with readers := (path, f) :: s.readers.filter (·.1 != path) }
    match line with
    | none => return ()
    | some (cs, isEnded) =>
      let cs := if isEnded then cs ++ [s.settings.mark] else cs
      modify fun s => { s with later := .text cs :: s.later }

def setText (cs : Text) : Editor Unit :=
  modify fun s => { s with space := { s.space with text := cs } }

/-- The first line of the space, and what follows its end. -/
def firstLine : Editor (Text × Option Text) := do
  let s ← get
  match s.space.text.span (· != s.settings.mark) with
  | (front, _ :: rest) => return (front, some rest)
  | (front, []) => return (front, none)

def substitute (x : Substitution) : Editor Unit := do
  let (r, m) ← expressionOf x.pattern
  let s ← get
  let text := s.space.text
  let (result, changed) := substituteFrom x r m text (text.length + 2) 0 0 none [] false
  if changed then
    modify fun s => { s with replaced := true, space := { s.space with text := result } }
    if x.runs then
      let printed ← outputOf result
      setText (if printed.getLast? = some s.settings.mark then printed.dropLast else printed)
    let s ← get
    if x.prints > 0 then putLine .main s.space.text s.space.isEnded
    if let some path := x.file then putLine (.file path) s.space.text s.space.isEnded

/-- Where a branch leads to. -/
def place (label : Text) : Editor Nat := do
  let script := (← get).script
  return if label.isEmpty then script.commands.size
    else (script.labels.lookup label).getD script.commands.size

/-- What follows a command: the number of the next one, or the end. -/
abbrev Next := Except Ending Nat

def perform (i : Nat) (c : Command) : Editor Next := do
  let s ← get
  let next : Editor Next := return .ok (i + 1)
  let printed (target : Target) : Editor Next := do
    putLine target s.space.text s.space.isEnded
    next
  match c.action with
  | .block _ => next
  | .nothing => next
  | .lineNumber =>
    putText (ofNat s.line ++ [s.settings.mark])
    next
  | .append cs =>
    set { s with later := .text (← ended cs) :: s.later }
    next
  | .insert cs =>
    putText (← ended cs)
    next
  | .change cs =>
    if s.spans.getD i .idle = .idle then putText (← ended cs)
    return .error .discarded
  | .branch l => return .ok (← place l)
  | .branchIf l =>
    if s.replaced then
      set { s with replaced := false }
      return .ok (← place l)
    next
  | .branchUnless l =>
    if s.replaced then
      set { s with replaced := false }
      next
    else return .ok (← place l)
  | .delete => return .error .discarded
  | .deleteFirst =>
    match (← firstLine).2 with
    | some rest =>
      setText rest
      return .error .again
    | none => return .error .discarded
  | .fileName =>
    putText (s.name ++ [s.settings.mark])
    next
  | .get =>
    set { s with space := s.hold }
    next
  | .getAppended =>
    setText (s.space.text ++ s.settings.mark :: s.hold.text)
    next
  | .hold =>
    set { s with hold := s.space }
    next
  | .holdAppended =>
    set { s with hold := { s.hold with text := s.hold.text ++ s.settings.mark :: s.space.text } }
    next
  | .exchange =>
    set { s with space := s.hold, hold := s.space }
    next
  | .list width =>
    putText (spelledOut (width.getD s.settings.width) 0 s.space.text)
    next
  | .next =>
    if ← isLast then return .error .done
    if !s.settings.silent then
      let _ ← printed .main
    if ← readLine false then next else return .error .discarded
  | .nextAppended =>
    if ← isLast then return .error .done
    setText (s.space.text ++ [s.settings.mark])
    if ← readLine true then next else return .error .done
  | .print => printed .main
  | .printFirst =>
    let (front, rest) ← firstLine
    putLine .main front (rest.isSome || s.space.isEnded)
    next
  | .quit code => return .error (.quit code false)
  | .quitSilently code => return .error (.quit code true)
  | .read path =>
    set { s with later := .file path :: s.later }
    next
  | .readLine path =>
    lineOf path
    next
  | .substitute x =>
    substitute x
    next
  | .write path => printed (.file path)
  | .writeFirst path =>
    let (front, rest) ← firstLine
    putLine (.file path) front (rest.isSome || s.space.isEnded)
    next
  | .translate pairs =>
    setText (s.space.text.map fun c => (pairs.lookup c).getD c)
    next
  | .clear =>
    setText []
    next
  | .execute [] =>
    let printed ← outputOf s.space.text
    setText (if printed.getLast? = some s.settings.mark then printed.dropLast else printed)
    next
  | .execute command =>
    let printed ← outputOf command
    putText printed
    next

/-- Does the commands from number `i` on; `fuel` bounds their number. -/
def performFrom : Nat → Nat → Editor Ending
  | 0, _ => return .done
  | fuel + 1, i => do
    match (← get).script.commands[i]? with
    | none => return .done
    | some c =>
      if ← chooses i c.selection then
        match ← perform i c with
        | .ok next => performFrom fuel next
        | .error e => return e
      else
        match c.action with
        | .block stop => performFrom fuel stop
        | _ => performFrom fuel (i + 1)

def showSpace : Editor Unit := do
  let s ← get
  if !s.settings.silent then putLine .main s.space.text s.space.isEnded

/-- Leaves what was not used to whoever reads next. -/
def giveBack : Editor Unit := do
  let s ← get
  match s.feed with
  | some f =>
    if f.descriptor = 0 then
      let rest := match s.ahead with
        | some (cs, true) => cs ++ s.settings.mark :: f.rest
        | some (cs, false) => cs
        | none => f.rest
      { f with rest }.giveBack
  | none => return ()

/-- Goes through all lines; `fuel` bounds their number. -/
def overLines : Nat → Bool → Editor Nat
  | 0, _ => return (← get).code
  | fuel + 1, keeps => do
    let there ← if keeps then pure true else readLine false
    if !there then
      closeInput
      return (← get).code
    match ← performFrom Prog.fuel 0 with
    | .done =>
      showSpace
      putLater
      overLines fuel false
    | .discarded =>
      putLater
      overLines fuel false
    | .again =>
      putLater
      overLines fuel true
    | .quit code quietly =>
      if !quietly then
        showSpace
        putLater
      giveBack
      closeInput
      let s ← get
      return if s.code = 0 then code else s.code

/-! ### Starting -/

/-- The files that a script writes. -/
def written (script : Script) : List Text :=
  (script.commands.toList.filterMap fun c => match c.action with
    | .write path => some path
    | .writeFirst path => some path
    | .substitute x => x.file
    | _ => none).eraseDups

def openSink (path : Text) : Run (Option Sink) := do
  if path = "/dev/stdout".toList then return none
  else if path = "/dev/stderr".toList then return some { path, descriptor := 2 }
  else
    match ← ask (.open (asName path) .truncate 0o666 3) with
    | .ok d => return some { path, descriptor := d }
    | .error e =>
      complain (because ("couldn't open file ".toList ++ path) e)
      quit 4

def spelling : Options :=
  .make "nrEsuzbi::l:e:f:\x01\x02\x03"
    [("quiet", 'n'), ("silent", 'n'), ("regexp-extended", 'E'), ("separate", 's'),
      ("unbuffered", 'u'), ("null-data", 'z'), ("zero-terminated", 'z'), ("binary", 'b'),
      ("in-place", 'i'), ("line-length", 'l'), ("expression", 'e'), ("file", 'f'),
      ("posix", '\x01'), ("debug", '\x02'), ("follow-symlinks", '\x03')]

def usage {α : Type} : Run α := do
  tell ("Usage: ".toList ++ (← get).call.name ++
    " [OPTION]... \x7bscript-only-if-no-other-script\x7d [input-file]...".toList)
  quit 1

/-- The parts of the script that options give. -/
def sources : List Given → Nat → Run (List Source)
  | [], _ => return []
  | (c, v) :: os, n => do
    if c = 'e' then
      return { text := v, expression := n + 1, file := none } :: (← sources os (n + 1))
    else if c = 'f' then
      match ← contents v with
      | .ok cs =>
        let text := if cs.getLast? = some '\n' then cs.dropLast else cs
        return { text, expression := n, file := some v } :: (← sources os n)
      | .error .isDirectory => sources os n
      | .error e =>
        complain (because ("couldn't open file ".toList ++ v) e)
        quit 4
    else sources os n

end Editing

open Editing in
/-- Edits lines as a script tells. -/
def edit : Tool := do
  let (os, operands) ← match Editing.spelling.read (← arguments) with
    | .ok r => pure r
    | .error m => do
      complain m.text
      usage
  let given ← sources os 0
  let (given, operands) ← match has "ef" os, operands with
    | true, _ => pure (given, operands)
    | false, script :: rest => pure ([({ text := script, expression := 1, file := none } : Source)], rest)
    | false, [] => usage
  match parse (has "rE" os) given with
  | .error f => do
    complain f.text
    return match f with
      | .noLabel _ => 4
      | _ => 1
  | .ok script => do
    let inPlace := valueOf? 'i' os
    let settings : Settings :=
      { silent := has "n" os || script.silent
        separate := has "s" os || inPlace.isSome
        inPlace
        width := ((valueOf? 'l' os).map fun v => Shell.Format.decimal (v.takeWhile Char.isDigit)).getD 70
        mark := if has "z" os then '\x00' else '\n'
        eager := has "u" os }
    let sinks := (← (written script).mapM openSink).filterMap id
    let state : Editing.State :=
      { settings, script, sinks, waiting := orInput operands
        spans := script.commands.map fun c =>
          if c.selection.first = some .zero then .open else .idle }
    let (code, _) ← (overLines Prog.fuel false).run state
    return code

end CellRunner.Tool
