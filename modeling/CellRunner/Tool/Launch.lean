import CellRunner.Machine.Signal
import CellRunner.Tool.Amount

/-!
# Starting other programs
-/

set_option autoImplicit false

namespace CellRunner.Tool

open Machine (Prog Bytes Status)
open Shell (Text toBytes ofBytes ofString asName)

namespace Launch

abbrev Environment := List (String × Bytes)

/-- Where programs are looked for when the environment does not tell. -/
def usualPath : String := "/bin:/usr/bin"

def searchPath (e : Environment) : List String :=
  (((e.lookup "PATH").map (Utf8.lossy ·)).getD usualPath).splitOn ":"

/-- Becomes another program, which is looked for in some directories; the reply tells why that
did not work. -/
def become (name : Text) (args : List Text) (e : Environment) :
    List String → Option SystemError → Prog SystemError
  | [], found => return found.getD .noEntry
  | dir :: dirs, found => do
    let path := if name.contains '/' then asName name
      else if dir.isEmpty then asName name else dir ++ "/" ++ asName name
    let again : SystemError ← Prog.ask (.exec path ((name :: args).map toBytes) e)
    match again with
    | .notExecutable =>
      -- a file without an interpreter is a script
      let e' : SystemError ←
        Prog.ask (.exec "/bin/sh" (("/bin/sh".toList :: path.toList :: args).map toBytes) e)
      return e'
    | why =>
      if name.contains '/' then return why
      else
        match why with
        | .accessDenied => become name args e dirs (some .accessDenied)
        | .noEntry => become name args e dirs found
        | .notDirectory => become name args e dirs found
        | other => return other

/-- The exit code that tells why a program could not be started. -/
def codeOf (e : SystemError) : Nat := if e = .noEntry then 127 else 126

/-- Becomes another program, or complains. -/
def exec (name : Text) (args : List Text) (e : Environment) (message : Text → Text) : Run Nat := do
  flush
  let dirs := if name.contains '/' then [""] else if name.isEmpty then [] else searchPath e
  let why ← run (become name args e dirs none)
  complain (because (message name) why)
  return codeOf why

/-- Starts another program while output is held back; the value is its number. -/
def startAside (name : Text) (args : List Text) (e : Environment) (message : Text → Text)
    (before : Run Unit) : Run Nat := do
  let d : Desk := { (← get) with held := [], size := 0 }
  run (Prog.fork (Prog.task do
    let (code, _) ← (do
      before
      exec name args e message).run d
    return code))

/-- Starts another program; the value is its number. -/
def start (name : Text) (args : List Text) (e : Environment) (message : Text → Text)
    (before : Run Unit) : Run Nat := do
  flush
  startAside name args e message before

def wait (number : Nat) : Run (Option Status) := do
  match ← ask (.wait (some number) false) with
  | .ok (_, status) => return some status
  | .error _ => return none

/-- Runs another program to its end. -/
def command (name : Text) (args : List Text) (e : Environment) (message : Text → Text)
    (before : Run Unit) : Run (Option Status) := do
  wait (← start name args e message before)

/-- Takes settings of the form `name=value` from the front. -/
def settings : Environment → List Text → Environment × List Text
  | env, a :: args =>
    if a.contains '=' then
      let name := asName (a.takeWhile (· != '='))
      let value := toBytes ((a.dropWhile (· != '=')).drop 1)
      let env := if env.any (·.1 == name) then
          env.map fun v => if v.1 == name then (name, value) else v
        else env ++ [(name, value)]
      settings env args
    else (env, a :: args)
  | env, [] => (env, [])

/-! ### Splitting one argument into several -/

inductive Splitting where
  | args (as : List Text)
  | openQuote
  | badEscape (c : Char)
  | badBackslash

/-- The arguments in a text, where quotes keep blanks together; `word` is the present one
backwards, if it has begun. `fuel` bounds the characters. -/
def splitFrom (e : Environment) :
    Nat → Option Char → Option Text → List Text → Text → Splitting
  | 0, _, _, done, _ => .args done.reverse
  | _ + 1, some _, _, _, [] => .openQuote
  | _ + 1, none, word, done, [] =>
    .args ((match word with
      | some w => w.reverse :: done
      | none => done).reverse)
  | fuel + 1, quote, word, done, c :: cs =>
    let add (d : Char) (cs : Text) : Splitting :=
      splitFrom e fuel quote (some (d :: word.getD [])) done cs
    let isBlank := c = ' ' || ('\t' ≤ c && c ≤ '\r')
    if quote = some c then splitFrom e fuel none word done cs
    else if quote.isNone && (c = '"' || c = '\'') then
      splitFrom e fuel (some c) (some (word.getD [])) done cs
    else if quote.isNone && isBlank then
      splitFrom e fuel none none (match word with
        | some w => w.reverse :: done
        | none => done) cs
    else if c = '#' && quote.isNone && word.isNone then
      .args done.reverse
    else if c = '\\' then
      match cs with
      | [] => .badBackslash
      | d :: rest =>
        if quote = some '\'' && d != '\\' && d != '\'' then add '\\' cs
        else if d = '_' then
          if quote.isSome then add ' ' rest
          else splitFrom e fuel none none (match word with
            | some w => w.reverse :: done
            | none => done) rest
        else if d = 'c' then
          if quote.isSome then .badEscape 'c'
          else
            .args ((match word with
              | some w => w.reverse :: done
              | none => done).reverse)
        else
          match "fnrtv".toList.idxOf? d with
          | some i => add ("\x0c\n\r\t\x0b".toList.getD i d) rest
          | none => if "\"#$'\\".toList.contains d then add d rest else .badEscape d
    else if c = '$' && quote != some '\'' && cs.head? = some (Char.ofNat 0x7b) then
      let name := (cs.drop 1).takeWhile (· != Char.ofNat 0x7d)
      let value := ((e.lookup (asName name)).map ofBytes).getD []
      splitFrom e fuel quote (some (value.reverse ++ word.getD [])) done (cs.drop (name.length + 2))
    else add c cs

def split (e : Environment) (cs : Text) : Splitting :=
  splitFrom e (cs.length + 1) none none [] cs

end Launch

namespace Launch

def envSpelling : Options :=
  .make "+iu:0C:S:vs\x01::" [("ignore-environment", 'i'), ("null", '0'), ("unset", 'u'),
    ("chdir", 'C'), ("split-string", 'S'), ("debug", 'v'), ("block-signal", '\x01'),
    ("default-signal", '\x01'), ("ignore-signal", '\x01')] true

/-- Puts the arguments in a text in place of it. -/
def splitArguments (e : Environment) : Nat → List Text → Run (List Text)
  | 0, args => return args
  | fuel + 1, args => do
    let insert (cs : Text) (rest : List Text) : Run (List Text) := do
      match split e cs with
      | .args as => splitArguments e fuel (as ++ rest)
      | .openQuote => fail "no terminating quote in -S string".toList
      | .badEscape c =>
        if c = 'c' then fail "'\\c' must not appear in double-quoted -S string".toList
        else fail ("invalid sequence '\\".toList ++ [c] ++ "' in -S".toList)
      | .badBackslash => fail "invalid backslash at end of string in -S".toList
    match args with
    | ('-' :: 'S' :: c :: cs) :: rest => insert (c :: cs) rest
    | ['-', 'S'] :: v :: rest => insert v rest
    | ('-' :: 'v' :: 'S' :: cs) :: rest => insert cs rest
    | ('-' :: '-' :: cs) :: rest =>
      let word := "split-string=".toList
      if word.isPrefixOf cs then insert (cs.drop word.length) rest
      else if cs.isEmpty then return args
      else return ('-' :: '-' :: cs) :: (← splitArguments e fuel rest)
    | ['-', c] :: v :: rest =>
      if c = 'u' || c = 'C' then
        return ['-', c] :: v :: (← splitArguments e fuel rest)
      else return ['-', c] :: (← splitArguments e fuel (v :: rest))
    | ('-' :: cs) :: rest => return ('-' :: cs) :: (← splitArguments e fuel rest)
    | _ => return args

end Launch

open Launch in
def env : Tool := do
  modify fun d => { d with failure := 125 }
  let given ← environment
  let args ← splitArguments given 1000 (← arguments)
  modify fun d => { d with call := { d.call with args } }
  let (os, operands) ← readOptions envSpelling
  let (bare, operands) := match operands with
    | ['-'] :: rest => (true, rest)
    | _ => (has "i" os, operands)
  let base := if bare then [] else given
  let unset := (os.filter (·.1 = 'u')).map fun g => g.2
  for name in unset do
    if name.isEmpty || name.contains '=' then
      fail ("cannot unset ".toList ++ because (quoted name) .invalid)
  let base := base.filter fun v => !unset.any fun n => asName n = v.1
  let (e, rest) := settings base operands
  if let some dir := valueOf? 'C' os then
    if rest.isEmpty then misuse "must specify command with --chdir (-C)".toList
    match ← ask (.enter (asName dir)) with
    | .ok () => pure ()
    | .error err => fail ("cannot change directory to ".toList ++ because (named dir) err)
  match rest with
  | [] =>
    let mark := if has "0" os then '\x00' else '\n'
    for (name, value) in e do out (ofString name ++ '=' :: ofBytes value ++ [mark])
    return 0
  | name :: args =>
    if has "0" os then misuse "cannot specify --null (-0) with command".toList
    let code ← exec name args e quoted
    if name.contains ' ' && code = 127 then
      complain "use -[v]S to pass options in shebang lines".toList
    return code

def printenv : Tool := do
  modify fun d => { d with failure := 2 }
  let (os, operands) ← readOptions <| .make "0" [("null", '0')] true
  let e ← environment
  let mark := if has "0" os then '\x00' else '\n'
  if operands.isEmpty then
    for (name, value) in e do out (ofString name ++ '=' :: ofBytes value ++ [mark])
    return 0
  else
    forEach operands fun name => do
      match e.lookup (asName name) with
      | some value =>
        out (ofBytes value ++ [mark])
        return 0
      | none => return 1

namespace Launch

/-! ### Arguments from the input -/

/-- The items in a text: words between blanks, where quotes and backslashes keep characters as
they are; `ends` tells whether a line ends after the item. -/
def itemsFrom : Nat → Text → Option Text → Except Char (List (Text × Bool))
  | 0, _, _ => .ok []
  | _ + 1, [], word => .ok (match word with
      | some w => [(w.reverse, true)]
      | none => [])
  | fuel + 1, c :: cs, word =>
    if c = '\n' then
      match word with
      | some w =>
        let joins := w.head? = some ' '
        (itemsFrom fuel cs none).map ((w.reverse, !joins) :: ·)
      | none => itemsFrom fuel cs none
    else if c = ' ' || c = '\t' then
      match word with
      | some w =>
        let ended := ((cs.dropWhile fun c => c = ' ' || c = '\t').head?).getD '\n' = '\n'
        (itemsFrom fuel cs none).map ((w.reverse, ended) :: ·)
      | none => itemsFrom fuel cs none
    else if c = '\\' then
      match cs with
      | d :: rest => itemsFrom fuel rest (some (d :: word.getD []))
      | [] => itemsFrom fuel [] (some (word.getD []))
    else if c = '\'' || c = '"' then
      let inner := cs.takeWhile fun d => d != c && d != '\n'
      match cs.drop inner.length with
      | d :: rest =>
        if d = c then itemsFrom fuel rest (some (inner.reverse ++ word.getD [])) else .error c
      | [] => .error c
    else itemsFrom fuel cs (some (c :: word.getD []))

structure Batch where
  /-- the most arguments of one command -/
  most : Option Nat
  /-- the most lines of one command -/
  lines : Option Nat
  /-- a text in whose place each item is put -/
  place : Option Text
  bytes : Nat

/-- The items of the next command, and those that are left. -/
def Batch.take (b : Batch) : Nat → Nat → Nat → List (Text × Bool) →
    List Text × List (Text × Bool)
  | _, _, _, [] => ([], [])
  | n, ls, size, (a, ended) :: rest =>
    let full := b.most.any (n ≥ ·) || b.lines.any (ls ≥ ·) || (size + a.length + 1 > b.bytes && n > 0)
    if full then ([], (a, ended) :: rest)
    else
      let (as, left) := b.take (n + 1) (if ended then ls + 1 else ls) (size + a.length + 1) rest
      (a :: as, left)

/-- Puts a text in place of each piece of another that is equal to a mark. -/
def substitute (mark with_ : Text) : Nat → Text → Text
  | 0, cs => cs
  | _ + 1, [] => []
  | fuel + 1, c :: cs =>
    if !mark.isEmpty && mark.isPrefixOf (c :: cs) then
      with_ ++ substitute mark with_ fuel ((c :: cs).drop mark.length)
    else c :: substitute mark with_ fuel cs

/-- A command as it is shown before it is run. -/
def shownCommand (words : List Text) : Text := List.intercalate [' '] (words.map spelled)

structure Feeding where
  program : Text
  initial : List Text
  batch : Batch
  tells : Bool
  quiet : Bool

/-- The exit code of all commands after one more status, and whether to stop. -/
def judge (f : Feeding) (code : Nat) (status : Option Status) : Run (Nat × Bool) := do
  match status with
  | some (.exited 0) => return (code, false)
  | some (.exited 255) =>
    complain (f.program ++ ": exited with status 255; aborting".toList)
    return (124, true)
  | some (.exited 126) => return (126, true)
  | some (.exited 127) => return (127, true)
  | some (.exited _) => return (123, false)
  | some (.signaled n) =>
    complain (f.program ++ ": terminated by signal ".toList ++ ofNat n)
    return (125, true)
  | none => return (code, false)

/-- Runs commands until no item is left; `fuel` bounds their number. -/
def feed (f : Feeding) : Nat → Bool → List (Text × Bool) → Nat → Run Nat
  | 0, _, _, code => return code
  | fuel + 1, isFirst, items, code => do
    if items.isEmpty && (!isFirst || f.quiet || f.batch.place.isSome) then return code
    let (args, rest, program) := match f.batch.place, items with
      | some mark, (a, _) :: rest =>
        let sub (cs : Text) : Text := substitute mark a (cs.length + 1) cs
        (f.initial.map sub, rest, sub f.program)
      | _, _ =>
        let base := (f.program :: f.initial).foldl (fun n (a : Text) => n + a.length + 1) 0
        let (as, rest) := f.batch.take 0 0 base items
        (f.initial ++ as, rest, f.program)
    if f.tells then tell (shownCommand (program :: args))
    let before : Run Unit := do
      match ← ask (.open "/dev/null" .read 0 0) with
      | .ok d =>
        let _ ← ask (.copy d 0)
      | .error _ => pure ()
    let status ← command program args (← environment) id before
    let (code, stops) ← judge f code status
    if stops || rest.isEmpty then return code
    feed f fuel false rest code

end Launch

open Launch in
def xargs : Tool := do
  let (os, operands) ← readOptions <| .make "+0a:d:E:I:i::L:l::n:P:prs:txe::"
    [("null", '0'), ("arg-file", 'a'), ("delimiter", 'd'), ("eof", 'e'), ("replace", 'i'),
      ("max-lines", 'l'), ("max-args", 'n'), ("max-procs", 'P'), ("interactive", 'p'),
      ("no-run-if-empty", 'r'), ("max-chars", 's'), ("verbose", 't'), ("exit", 'x')] true
  let number (c : Char) : Run (Option Nat) := do
    match valueOf? c os with
    | none => return none
    | some v =>
      match natural? v with
      | none =>
        complain ("invalid number \"".toList ++ v ++ "\" for -".toList ++ [c] ++ " option".toList)
        advise
        quit 1
      | some 0 =>
        complain ("value 0 for -".toList ++ [c] ++ " option should be >= 1".toList)
        advise
        quit 1
      | some n => return some n
  let place := match lastOf? "Ii" os with
    | some 'I' => valueOf? 'I' os
    | some _ => some (match valueOf? 'i' os with
      | some (c :: cs) => c :: cs
      | _ => [Char.ofNat 0x7b, Char.ofNat 0x7d])
    | none => none
  let lines ← if has "L" os then number 'L' else pure (if has "l" os then some 1 else none)
  let most ← number 'n'
  let bytes := (← number 's').getD 131072
  let cs ← match valueOf? 'a' os with
    | some path => do
      match ← contents path with
      | .ok cs => pure cs
      | .error e => fail ("Cannot open input file ".toList ++ because (quoted path) e)
    | none => do pure (((← slurp 0).toOption.map ofBytes).getD [])
  let delimiter : Option Char := if has "0" os then some '\x00' else
    (valueOf? 'd' os).map fun d => match d with
      | ['\\', 'n'] => '\n'
      | ['\\', 't'] => '\t'
      | ['\\', '0'] => '\x00'
      | d => d.headD '\n'
  let items ← match delimiter with
    | some d => pure ((linesBy d cs).map (·, true))
    | none =>
      match place with
      | some _ =>
        pure (((Tool.lines cs).map fun l => (l.dropWhile fun c => c = ' ' || c = '\t', true)).filter
          fun i => !i.1.isEmpty)
      | none => do
        match itemsFrom (cs.length + 2) cs none with
        | .ok items => pure items
        | .error c =>
          fail ("unmatched ".toList ++ (if c = '"' then "double" else "single").toList ++
            " quote; by default quotes are special to xargs unless you use the -0 option".toList)
  let items := match valueOf? 'E' os with
    | some e => if e.isEmpty then items else items.takeWhile fun i => i.1 != e
    | none => items
  let batch : Batch := { most := if place.isSome then none else most, lines, place, bytes }
  feed { program := operands.headD "echo".toList, initial := operands.drop 1, batch
         tells := has "t" os, quiet := has "r" os } Prog.fuel true items 0

namespace Launch

/-- A time in microseconds, with a fraction and a unit. -/
def duration? (cs : Text) : Option Nat :=
  let unitOf? : Text → Option Nat
    | [] => some 1
    | ['s'] => some 1
    | ['m'] => some 60
    | ['h'] => some 3600
    | ['d'] => some 86400
    | _ => none
  let cs := match cs with
    | '+' :: rest => rest
    | _ => cs
  match Shell.Format.decimalAt cs with
  | none => if cs.map Char.toLower = "infinity".toList || cs = "inf".toList then
      some (Nat.pow 10 15) else none
  | some (digits, places, rest) =>
    let (exponent, rest) := Shell.Format.exponentAt rest
    (unitOf? rest).map fun unit =>
      let e : Int := 6 + exponent - places
      if e ≥ 0 then unit * digits * Nat.pow 10 (min e.toNat 12)
      else unit * digits / Nat.pow 10 (-e).toNat

end Launch

open Launch in
def sleep : Tool := do
  let (_, operands) ← readOptions <| .make "" [] false
  if operands.isEmpty then misuse "missing operand".toList
  let bad := operands.filter fun a => (duration? a).isNone
  if !bad.isEmpty then
    for a in bad do complain ("invalid time interval ".toList ++ quoted a)
    advise
    return 1
  let present : Nat ← ask .clock
  ask (.sleepUntil ((operands.filterMap duration?).foldl (· + ·) present))
  return 0

namespace Launch

def signalNames : List String :=
  ["HUP", "INT", "QUIT", "ILL", "TRAP", "ABRT", "BUS", "FPE", "KILL", "USR1", "SEGV", "USR2",
    "PIPE", "ALRM", "TERM", "STKFLT", "CHLD", "CONT", "STOP", "TSTP", "TTIN", "TTOU"]

def signal? (cs : Text) : Option Nat :=
  match natural? cs with
  | some n => if n ≤ 64 then some n else none
  | none =>
    let name := cs.map Char.toUpper
    let name := if "SIG".toList.isPrefixOf name then name.drop 3 else name
    (signalNames.idxOf? (String.ofList name)).map (· + 1)

/-- Signals that a bounded program and its group get. -/
structure Bound where
  number : Nat
  program : Text
  /-- whether only the program itself gets the signals -/
  alone : Bool
  tells : Bool
  /-- how long the program may go on after the first signal, in microseconds -/
  grace : Option Nat

/-- Sends a signal to a bounded program; this process ignores what its group gets. -/
def Bound.signal (b : Bound) (n : Nat) : Run Unit := do
  if b.tells then
    let name := (signalNames[n - 1]?).getD (toString n)
    complain ("sending signal ".toList ++ ofString name ++ " to command ".toList ++
      quoted b.program)
  let _ ← ask (.kill b.number n)
  if !b.alone then
    let ignored : List Nat ← ask .ignored
    ask (.handle [] (n :: ignored))
    let _ ← ask (.killGroup none n)
    if n != Machine.Signal.kill && n != Machine.Signal.continue_ then
      ask (.handle [] (Machine.Signal.continue_ :: n :: ignored))
      let _ ← ask (.kill b.number Machine.Signal.continue_)
      let _ ← ask (.killGroup none Machine.Signal.continue_)

/-- Waits for a bounded program and passes signals on to it; the answer tells whether time ran
out as well. When it does the program gets a signal, and one that cannot be taken after some
more time. `fuel` bounds how often it is looked at. -/
def Bound.await (b : Bound) : Nat → Option Nat → Nat → Bool → Option Nat → Run (Option Status × Bool)
  | 0, _, _, late, _ => return (none, late)
  | fuel + 1, limit, signal, late, grace => do
    match ← ask (.ended b.number) with
    | some _ => return (← wait b.number, late)
    | none =>
      let present : Nat ← ask .clock
      let came : Option Nat ← ask .pending
      let isOver := limit.any (present ≥ ·)
      let sent := if isOver then some signal else came
      match sent with
      | none =>
        ask (.sleepUntil (min (limit.getD (present + 10000)) (present + 10000)))
        b.await fuel limit signal late grace
      | some n =>
        let late := late || isOver
        b.signal n
        match grace with
        | some g => b.await fuel (some (present + g)) Machine.Signal.kill late none
        | none => b.await fuel (if isOver then none else limit) signal late none

end Launch

open Launch in
def timeout : Tool := do
  modify fun d => { d with failure := 125 }
  let (os, operands) ← readOptions <| .make "+k:s:v\x01\x02"
    [("kill-after", 'k'), ("signal", 's'), ("verbose", 'v'), ("foreground", '\x01'),
      ("preserve-status", '\x02')] true
  let span (cs : Text) : Run Nat := do
    match duration? cs with
    | some n => return n
    | none => misuse ("invalid time interval ".toList ++ quoted cs)
  let mut grace : Option Nat := none
  let mut signal := Machine.Signal.terminate
  for o in os do
    match o with
    | ('k', v) => grace := some (← span v)
    | ('s', v) =>
      match signal? v with
      | some n => signal := n
      | none => misuse (quoted v ++ ": invalid signal".toList)
    | _ => pure ()
  match operands with
  | limit :: program :: args =>
    let limit ← span limit
    if !has "\x01" os then
      let self : Nat ← ask .self
      let _ ← ask (.join self none)
    let ignored : List Nat ← ask .ignored
    let taken := (signal :: [1, 2, 3, 15]).filter fun n =>
      n != 0 && n != Machine.Signal.kill && n != Machine.Signal.stop && !ignored.contains n
    ask (.handle taken ignored)
    let present : Nat ← ask .clock
    let number ← start program args (← environment)
      (fun n => "failed to run command ".toList ++ quoted n) (pure ())
    let bound : Bound :=
      { number, program, alone := has "\x01" os, tells := has "v" os
        grace := grace.filter (· != 0) }
    let (status, late) ← bound.await Prog.fuel (if limit = 0 then none else some (present + limit))
      signal false bound.grace
    match status with
    | some (.exited code) => return if late && !has "\x02" os then 124 else code
    | some (.signaled n) =>
      if !late then
        flush
        ask (.handle [] [])
        let self : Nat ← ask .self
        let _ ← ask (.kill self n)
      return if late && n != Machine.Signal.kill && !has "\x02" os then 124 else 128 + n
    | none => return 125
  | _ => misuse "missing operand".toList

open Launch in
def nohup : Tool := do
  modify fun d => { d with failure := 125 }
  let args ← arguments
  match if args.head? = some ['-', '-'] then args.drop 1 else args with
  | [] => misuse "missing operand".toList
  | program :: args =>
    ask (.handle [] [1])
    exec program args (← environment) fun n => "failed to run command ".toList ++ quoted n

open Launch in
/-- Runs a program whose streams would be buffered in another way; nothing depends on it. -/
def buffered : Tool := do
  modify fun d => { d with failure := 125 }
  let (os, operands) ← readOptions <| .make "+i:o:e:" [("input", 'i'), ("output", 'o'), ("error", 'e')]
    true
  for (c, v) in os do
    if v = ['L'] && c = 'i' then misuse "line buffering stdin is meaningless".toList
    if v != ['L'] && (sized? v).isNone then fail ("invalid mode ".toList ++ quoted v)
  match operands with
  | [] => misuse "missing operand".toList
  | program :: args =>
    if os.isEmpty then misuse "you must specify a buffering mode option".toList
    exec program args (← environment) fun n => "failed to run command ".toList ++ quoted n

open Launch in
def nice : Tool := do
  modify fun d => { d with failure := 125 }
  let (_, operands) ← readOptions <| .make "+n:" [("adjustment", 'n')] true
  match operands with
  | [] =>
    out ['0', '\n']
    return 0
  | program :: args => exec program args (← environment) quoted

/-- Runs a program as the leader of a group of its own. -/
def leader : Tool := do
  let (_, operands) ← readOptions <| .make "+cfw" [("wait", 'w'), ("fork", 'f'), ("ctty", 'c')] true
  match operands with
  | [] => misuse "no command specified".toList
  | program :: args =>
    Launch.exec program args (← environment) fun n => "failed to execute ".toList ++ n

end CellRunner.Tool
