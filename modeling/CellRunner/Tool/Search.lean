import CellRunner.Regex.Ordered.Parse
import CellRunner.Regex.Parse
import CellRunner.Shell.Pattern
import CellRunner.Tool.Columns
import CellRunner.Tool.Paths

/-!
# Searching for lines

A line is chosen if one of the patterns describes a part of it, or if none does. Lines around
the chosen ones may be shown as well.
-/

set_option autoImplicit false

namespace CellRunner.Tool

open Machine (Prog FileInfo)
open Shell (Text ofBytes ofString asName)

namespace Search

inductive Kind where
  | basic
  | extended
  | fixed
  /-- the first way to match counts, not the longest -/
  | ordered
  deriving DecidableEq, Repr

/-- The option that asks for a kind which is not the usual one. -/
def Kind.letter : Kind → Option Char
  | .basic => none
  | .extended => some 'E'
  | .fixed => some 'F'
  | .ordered => some 'P'

/-- What is shown. -/
inductive Report where
  | lines
  | parts
  | counts
  /-- names of files with chosen lines -/
  | names
  /-- names of files without chosen lines -/
  | missing
  | nothing
  deriving DecidableEq, Repr

/-- Finds where the first match from a place on begins and ends. -/
abbrev Finder := Text → Nat → Option (Nat × Nat)

structure Style where
  find? : Finder
  inverts : Bool
  report : Report
  named : Bool
  numbers : Bool
  offsets : Bool
  before : Nat
  after : Nat
  most : Option Nat
  quiet : Bool
  mark : Char
  nameMark : Char
  label : Text
  asText : Bool
  skipsDirectories : Bool
  byLine : Bool
  alignsTabs : Bool

def literal (cs : Text) : Regex :=
  cs.foldr (fun c r => Regex.andThen (.oneOf false [.range c c]) r) .empty

/-- Whether a pattern is a class that lacks its outer brackets. -/
def isBareClass (cs : Text) : Bool :=
  match cs with
  | '[' :: ':' :: rest => ":]".toList.isSuffixOf rest && !(rest.dropLast.dropLast).contains ']'
  | _ => false

/-- Where in a pattern a character stands. -/
inductive Spot where
  /-- where an expression begins -/
  | start
  | inside
  | escaped
  /-- right after an opening bracket -/
  | bracket
  | member
  deriving DecidableEq, Repr

/-- Operators at the start of an expression, which have nothing to repeat. -/
def strays : Spot → Text → List Char
  | _, [] => []
  | spot, c :: cs =>
    match spot with
    | .escaped => strays .inside cs
    | .bracket => strays (if c = '^' then .bracket else .member) cs
    | .member => strays (if c = ']' then .inside else .member) cs
    | _ =>
      if c = '\\' then strays .escaped cs
      else if c = '[' then strays .bracket cs
      else if c = '(' || c = '|' then strays .start cs
      else if spot = .start && (c = '*' || c = '+' || c = '?') then c :: strays .start cs
      else strays (if spot = .start && c = '^' then .start else .inside) cs

/-- The expression that some patterns are together. -/
def expression (kind : Kind) (patterns : List Text) : Except Text Regex := do
  let rs ← patterns.mapM fun p =>
    if kind = .fixed then .ok (literal p)
    else if isBareClass p then
      .error "character class syntax is [[:space:]], not [:space:]".toList
    else (Regex.parse { extended := kind = .extended } p).mapError fun f => f.text.toList
  match rs with
  | [] => return .oneOf false []
  | r :: rest => return rest.foldl .either r

/-- An expression that describes whole lines, or parts between other characters than those of
words. -/
def bounded (lines words : Bool) (r : Regex) : Regex :=
  if lines then .sequence (.anchor .textStart) (.sequence r (.anchor .textEnd))
  else if words then .sequence (.anchor .afterOther) (.sequence r (.anchor .beforeOther))
  else r

/-- What finds some patterns; lines, or words, may be wanted as a whole. -/
def finder (kind : Kind) (patterns : List Text) (folds lines words : Bool) : Except Text Finder := do
  if kind = .ordered then
    match patterns with
    | [p] =>
      let c ← (Ordered.parse folds p).mapError (·.text.toList)
      let c := if lines then c.wholeOnly else if words then c.wordsOnly else c
      return fun cs start => (c.find? cs start).map fun m => (m.start, m.stop)
    | _ => .error "the -P option only supports a single pattern".toList
  else
    let r := bounded lines words (← expression kind patterns)
    return fun cs start =>
      (Regex.find? { ignoresCase := folds } r cs start).map fun m => (m.start, m.stop)

/-! ### Searching one file -/

structure State where
  line : Nat := 0
  offset : Nat := 0
  chosen : Nat := 0
  /-- lines before the present one that were not shown, the last one first -/
  waiting : List (Nat × Nat × Text) := []
  /-- how many lines are still to be shown after a chosen one -/
  following : Nat := 0
  /-- the number of the line shown last -/
  shown : Option Nat := none

def front (s : Style) (path : Text) (mark : Char) (line offset : Nat) : Text :=
  let name := if s.named then path ++ [if s.nameMark = '\x00' then '\x00' else mark] else []
  let number := if s.numbers then ofNat line ++ [mark] else []
  let place := if s.offsets then ofNat offset ++ [mark] else []
  let all := name ++ number ++ place
  if s.alignsTabs && !all.isEmpty then all ++ ['\t'] else all

/-- The parts of a line that are described, with their places; `fuel` bounds their number. -/
def parts (s : Style) (cs : Text) : Nat → Nat → List (Nat × Text)
  | 0, _ => []
  | fuel + 1, start =>
    if start > cs.length then []
    else
      match s.find? cs start with
      | none => []
      | some (a, b) =>
        if b ≤ a then parts s cs fuel (max b start + 1)
        else (a, (cs.drop a).take (b - a)) :: parts s cs fuel b

def showLine (s : Style) (path : Text) (mark : Char) (line offset : Nat) (cs : Text) : Run Unit := do
  out (front s path mark line offset ++ cs ++ [s.mark])
  if s.byLine then flush

/-- Shows a line that was not chosen, or that stands around one. -/
def showAround (s : Style) (path : Text) (st : State) (line offset : Nat) (cs : Text) :
    Run State := do
  if s.report = .lines then showLine s path '-' line offset cs
  return { st with shown := some line }

/-- Shows a chosen line and the lines before it. -/
def showChosen (s : Style) (path : Text) (st : State) (cs : Text) : Run State := do
  let waiting := st.waiting.reverse
  let first := (waiting.head?.map (·.1)).getD st.line
  let gap := (s.before > 0 || s.after > 0) && st.shown.any fun n => n + 1 < first
  if gap && (s.report = .lines || s.report = .parts) then out "--\n".toList
  let st ← waiting.foldlM (fun st (n, o, l) => showAround s path st n o l) st
  match s.report with
  | .lines => showLine s path ':' st.line st.offset cs
  | .parts =>
    for (i, part) in parts s cs (cs.length + 2) 0 do
      if !s.inverts then showLine s path ':' st.line (st.offset + i) part
  | _ => pure ()
  return { st with waiting := [], shown := some st.line, following := s.after }

/-- Goes on with one more line; none if the search is over. -/
def step (s : Style) (path : Text) (st : State) (cs : Text) : Run (Option State) := do
  let st := { st with line := st.line + 1 }
  let next (st : State) : State := { st with offset := st.offset + cs.length + 1 }
  if s.most.any (st.chosen ≥ ·) then
    if st.following = 0 then return none
    else
      let st ← showAround s path st st.line st.offset cs
      return some (next { st with following := st.following - 1 })
  else if (s.find? cs 0).isSome != s.inverts then
    let st := { st with chosen := st.chosen + 1 }
    match s.report with
    | .lines => return some (next (← showChosen s path st cs))
    | .parts => return some (next (← showChosen s path st cs))
    | .counts => return some (next st)
    | _ => return some (next { st with following := 0, waiting := [] })
  else if st.following > 0 then
    let st ← showAround s path st st.line st.offset cs
    return some (next { st with following := st.following - 1 })
  else
    return some (next
      { st with waiting := ((st.line, st.offset, cs) :: st.waiting).take s.before })

/-- Whether the search needs to know of no further line. -/
def isSettled (s : Style) (st : State) : Bool :=
  (s.most.any (st.chosen ≥ ·) && st.following = 0) ||
    (st.chosen > 0 && (s.report = .names || s.report = .missing || s.report = .nothing))

def loop (s : Style) (path : Text) : Nat → State → Feed → Run (State × Feed)
  | 0, st, f => return (st, f)
  | fuel + 1, st, f => do
    if isSettled s st then
      f.giveBack
      return (st, f)
    match ← f.next s.mark with
    | (none, f) => return (st, f)
    | (some (line, _), f) =>
      match ← step s path st line with
      | none =>
        f.giveBack
        return (st, f)
      | some st => loop s path fuel st f

/-- What comes of a search: whether a line was chosen, and whether something went wrong. -/
structure Finding where
  chosen : Bool := false
  trouble : Bool := false

def Finding.join (a b : Finding) : Finding := ⟨a.chosen || b.chosen, a.trouble || b.trouble⟩

def complainAbout (s : Style) (path : Text) (e : SystemError) : Run Finding := do
  if !s.quiet then complain (because path e)
  return { trouble := true }

/-- Searches what comes from a descriptor. -/
def searchOpen (s : Style) (path : Text) (d : Nat) : Run Finding := do
  let shownPath := if path = ['-'] then s.label else path
  let probe ← ask (.read d 32768)
  match probe with
  | .error e => complainAbout s shownPath e
  | .ok bytes =>
    let cs := ofBytes bytes
    let binary := !s.asText && s.mark = '\n' && cs.contains '\x00'
    let s' := if binary && (s.report = .lines || s.report = .parts) then
        { s with report := .nothing } else s
    let feed : Feed := { descriptor := d, rest := cs, isOver := bytes.isEmpty }
    let (st, feed) ← loop s' shownPath Prog.fuel {} feed
    let found := st.chosen > 0
    if binary && found && (s.report = .lines || s.report = .parts) then
      flush
      complain (shownPath ++ ": binary file matches".toList)
    match s.report with
    | .counts =>
      out ((if s.named then shownPath ++ [if s.nameMark = '\x00' then '\x00' else ':'] else []) ++
        ofNat st.chosen ++ ['\n'])
    | .names => if found then out (shownPath ++ [s.nameMark])
    | .missing => if !found then out (shownPath ++ [s.nameMark])
    | _ => pure ()
    match feed.trouble with
    | some e => return (← complainAbout s shownPath e).join { chosen := found }
    | none => return { chosen := found }

/-! ### Searching trees -/

structure Choice where
  recursive : Bool
  follows : Bool
  included : List Text
  excluded : List Text
  excludedDirectories : List Text

def glyphs : Text → List (Char × Bool)
  | '\\' :: c :: cs => (c, true) :: glyphs cs
  | c :: cs => (c, false) :: glyphs cs
  | [] => []

def fits (cs pattern : Text) : Bool :=
  let gs := glyphs pattern
  Shell.Pattern.describes (Shell.Pattern.ofGlyphs false (gs.length + 1) gs) cs

def Choice.takes (c : Choice) (name : Text) : Bool :=
  (c.included.isEmpty || c.included.any (fits name)) && !c.excluded.any (fits name)

/-- Searches a path, and all files in a directory; `fuel` bounds the depth. -/
def search (s : Style) (c : Choice) : Nat → Bool → Text → Run Finding
  | 0, _, _ => return {}
  | fuel + 1, isOperand, path => do
    if path = ['-'] then searchOpen s path 0
    else
      match ← infoOf path with
      | .error e =>
        if !isOperand && e == .noEntry then return {}
        complainAbout s path e
      | .ok info =>
        if info.isDirectory then
          if c.recursive then
            if !isOperand && c.excludedDirectories.any (fits (Paths.lastName path)) then return {}
            match ← ask (.list (asName path)) with
            | .error e => complainAbout s path e
            | .ok names =>
              (names.map ofString).foldlM (fun found n => do
                let inner := within path n
                match ← ownInfoOf inner with
                | .ok i =>
                  if i.kind == .link && !c.follows then return found
                  if !i.isDirectory && !c.takes n then return found
                  if !(i.isDirectory || i.kind == .file || i.kind == .link) then return found
                  return found.join (← search s c fuel false inner)
                | .error e => return found.join (← complainAbout s inner e)) {}
          else if s.skipsDirectories then return {}
          else complainAbout s path .isDirectory
        else
          match ← ask (.open (asName path) .read 0 0) with
          | .error e => complainAbout s path e
          | .ok d =>
            let found ← searchOpen s path d
            close d
            return found

/-- Goes through the operands until nothing more can change the answer. -/
def searchAll (s : Style) (f : Text → Run Finding) : List Text → Finding → Run Finding
  | [], found => return found
  | path :: rest, found => do
    let found := found.join (← f path)
    if s.report = .nothing && found.chosen then return found
    searchAll s f rest found

def usage {α : Type} : Run α := do
  let name := (← get).call.name
  tell ("Usage: ".toList ++ name ++ " [OPTION]... PATTERNS [FILE]...".toList)
  advise
  quit 2

def spelling : Options :=
  .make "0123456789A:B:C:D:EFGHILPTUVX:abcd:e:f:hiLlm:noqrRsuvwxyzZ\x01\x02:\x03:\x04:\x05:\x06::\x07"
    [("after-context", 'A'), ("before-context", 'B'), ("context", 'C'), ("extended-regexp", 'E'),
      ("fixed-strings", 'F'), ("basic-regexp", 'G'), ("with-filename", 'H'),
      ("files-without-match", 'L'), ("perl-regexp", 'P'), ("initial-tab", 'T'), ("text", 'a'),
      ("byte-offset", 'b'), ("count", 'c'), ("directories", 'd'), ("regexp", 'e'), ("file", 'f'),
      ("no-filename", 'h'), ("ignore-case", 'i'), ("no-ignore-case", '\x07'),
      ("files-with-matches", 'l'), ("max-count", 'm'), ("line-number", 'n'), ("only-matching", 'o'),
      ("quiet", 'q'), ("silent", 'q'), ("recursive", 'r'), ("dereference-recursive", 'R'),
      ("no-messages", 's'), ("invert-match", 'v'), ("word-regexp", 'w'), ("line-regexp", 'x'),
      ("null-data", 'z'), ("null", 'Z'), ("line-buffered", '\x01'), ("label", '\x02'),
      ("include", '\x03'), ("exclude", '\x04'), ("exclude-dir", '\x05'), ("color", '\x06'),
      ("colour", '\x06')]

/-- The lines of context around chosen ones: of two options the later one counts for each side,
and digits stand for both. -/
def contextOf (os : List Given) (c : Char) : Run Nat := do
  let digits := (os.filter fun g => g.1.isDigit).map (·.1)
  let number (v : Text) : Run Nat := do
    match natural? v with
    | some n => return n
    | none => fail (v ++ ": invalid context length argument".toList)
  match valueOf? c os, valueOf? 'C' os with
  | some v, _ => number v
  | none, some v => number v
  | none, none => return if digits.isEmpty then 0 else Shell.Format.decimal digits

def valuesOf (c : Char) (os : List Given) : List Text := (os.filter (·.1 = c)).map (·.2)

/-- The lines of patterns that files hold. -/
def patternsIn (paths : List Text) : Run (List Text) := do
  let all ← paths.mapM fun path => do
    match ← contents path with
    | .ok cs => return lines cs
    | .error e => fail (because path e)
  return all.flatten

end Search

open Search in
/-- Searches for lines with patterns of some kind, unless the options name another one. -/
def search (usual : Search.Kind) : Tool := do
  modify fun d => { d with failure := 2, call := { d.call with name := "grep".toList } }
  let (os, operands) ← match Search.spelling.read (← arguments) with
    | .ok r => pure r
    | .error m => do
      complain m.text
      usage
  let letters := (os.map (·.1)).filter ("EFGP".toList.contains ·) ++ usual.letter.toList
  if letters.eraseDups.length > 1 then fail "conflicting matchers specified".toList
  let fromFiles ← patternsIn (valuesOf 'f' os)
  let explicit := has "ef" os
  let (patterns, operands) ← match explicit, operands with
    | true, _ =>
      pure ((valuesOf 'e' os).flatMap (fun p => Columns.split '\n' p) ++ fromFiles, operands)
    | false, p :: rest => pure (Columns.split '\n' p, rest)
    | false, [] => usage
  let kind := match lastOf? "EFGP" os with
    | some 'E' => .extended
    | some 'P' => .ordered
    | some 'F' => .fixed
    | some _ => .basic
    | none => usual
  if kind = .extended then
    for c in (patterns.flatMap (strays .start)) do
      complain ("warning: ".toList ++ c :: " at start of expression".toList)
  let folds := lastOf? "iy\x07" os |>.any (· != '\x07')
  let find? ← match finder kind patterns folds (has "x" os) (has "w" os) with
    | .ok f => pure f
    | .error m => fail m
  let most ← match valueOf? 'm' os with
    | none => pure none
    | some v =>
      match v with
      | '-' :: ds => if (natural? ds).isSome then pure none else fail "invalid max count".toList
      | _ =>
        match natural? v with
        | some n => pure (some n)
        | none => fail "invalid max count".toList
  let recursive := has "rR" os || valueOf? 'd' os = some "recurse".toList
  let after ← contextOf os 'A'
  let before ← contextOf os 'B'
  let paths := if !operands.isEmpty then operands else if recursive then [['.']] else [['-']]
  let anyDirectory ← if recursive then paths.anyM isDirectory else pure false
  let report : Report :=
    if has "q" os then .nothing
    else match lastOf? "lL" os with
      | some 'l' => .names
      | some _ => .missing
      | none => if has "c" os then .counts else if has "o" os then .parts else .lines
  let named := match lastOf? "hH" os with
    | some 'H' => true
    | some _ => false
    | none => operands.length > 1 || anyDirectory
  let s : Style :=
    { find?, inverts := has "v" os, report, named
      numbers := has "n" os, offsets := has "b" os
      before := if report = .lines then before else 0
      after := if report = .lines then after else 0, most
      quiet := has "sq" os && has "s" os, mark := if has "z" os then '\x00' else '\n'
      nameMark := if has "Z" os then '\x00' else '\n'
      label := (valueOf? '\x02' os).getD "(standard input)".toList
      asText := has "a" os, skipsDirectories := valueOf? 'd' os = some "skip".toList
      byLine := has "\x01" os, alignsTabs := has "T" os }
  let c : Choice :=
    { recursive, follows := has "R" os, included := valuesOf '\x03' os
      excluded := valuesOf '\x04' os, excludedDirectories := valuesOf '\x05' os }
  let takesAll := patterns.all (·.isEmpty) && has "v" os && !has "wx" os
  if (most = some 0 || takesAll) && report != .missing then return 1
  let bare := operands.isEmpty && recursive
  let found ← searchAll s (fun path =>
    if bare then do
      (← namesIn path).foldlM (fun found n => do
        match ← ownInfoOf n with
        | .ok i =>
          if i.kind == .link && !c.follows then return found
          if !i.isDirectory && !c.takes n then return found
          return found.join (← Search.search s c greatestDepth false n)
        | .error _ => return found) {}
    else Search.search s c greatestDepth true path) paths {}
  if report = .nothing && found.chosen then return 0
  return if found.trouble then 2 else if found.chosen then 0 else 1

end CellRunner.Tool
