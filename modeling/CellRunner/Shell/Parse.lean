import CellRunner.Shell.Show
import CellRunner.Shell.Word

/-!
# Reading commands

Commands are read a line at a time, so that what a line does is done before the next one is
read. Words of the grammar count only where a command may begin, or where the grammar asks
for them.
-/

set_option autoImplicit false

namespace CellRunner.Shell.Parse

open Parser

/-! ### Tokens -/

def reservedWords (d : Dialect) : List String :=
  (match d with
    | .plain => []
    | .extended => ["[[", "function", "select", "time"]) ++
    ["!", "case", "do", "done", "elif", "else", "esac", "fi", "for", "if", "in", "then", "until",
      "while", "\x7b", "\x7d"]

def operators : Dialect → List String
  | .plain => ["&&", "||", ";;", "&", "|", ";", "(", ")"]
  | .extended => [";;&", ";;", ";&", "&&", "||", "|&", "&", "|", ";", "(", ")"]

def redirections (d : Dialect) : List String :=
  (match d with
    | .plain => []
    | .extended => ["&>>", "&>", "<<<"]) ++
    [">>", ">|", ">&", ">", "<<-", "<<", "<&", "<>", "<"]

/-- The first of some spellings that a text begins with. -/
def spelledAt (spellings : List String) (cs : Text) : Option String :=
  spellings.find? fun s => s.toList.isPrefixOf cs

/-- A text without the blanks and the joined lines at its front, and the line it begins in. -/
def pastBlanks : Text → Nat → Text × Nat
  | ' ' :: cs, n => pastBlanks cs n
  | '\t' :: cs, n => pastBlanks cs n
  | '\\' :: '\n' :: cs, n => pastBlanks cs (n + 1)
  | cs, n => (cs, n)

/-- Goes past blanks and a comment. -/
def skipBlanks : Parser Unit :=
  modify fun s =>
    let (rest, line) := pastBlanks s.rest s.line
    match rest with
    | '#' :: _ => { s with rest := rest.dropWhile (· != '\n'), line }
    | _ => { s with rest, line }

/-- Goes past a number of characters. -/
def skipMany (n : Nat) : Parser Unit := modify fun s => { s with rest := s.rest.drop n }

/-- The number of a descriptor at the front, if a redirection follows. -/
def descriptorAt (d : Dialect) (cs : Text) : Text :=
  let digits := match d with
    | .plain => (cs.take 1).takeWhile Char.isDigit
    | .extended => cs.takeWhile Char.isDigit
  match cs.drop digits.length with
  | '<' :: _ => digits
  | '>' :: _ => digits
  | _ => []

/-- The name of a token in messages of the plain dialect. -/
def plainName : Token → Text
  | .word _ => "word".toList
  | .assignment _ => "word".toList
  | .reserved s => '"' :: s.toList ++ ['"']
  | .operator s => '"' :: s.toList ++ ['"']
  | .redirection _ _ _ => "redirection".toList
  | .newline => "newline".toList
  | .finish => "end of file".toList

/-- The line after the last one. -/
def lineAtEnd (s : Source) : Nat := if s.endsLine then s.line else s.line + 1

/-- A token that may not come here; one that may is named, unless there are several. -/
def unexpected {α : Type} (t : Token) (expected : Option String) : Parser α := do
  let s ← get
  match s.dialect, t with
  | .plain, _ =>
    let expecting := match expected with
      | some w => " (expecting ".toList ++ (if w = "word" then w.toList else '"' :: w.toList ++ ['"'])
          ++ [')']
      | none => []
    failAt s.line (plainName t ++ " unexpected".toList ++ expecting) [] (t matches .finish)
  | .extended, .finish =>
    failAt (lineAtEnd s) [] "syntax error: unexpected end of file".toList true
  | .extended, _ =>
    let isLine := t matches .newline
    let line := if isLine then s.line - 1 else s.line
    let spelling := if isLine then "newline".toList
      else s.start.take (s.start.length - s.rest.length)
    throw <| .fault
      { line
        messages :=
          ["syntax error near unexpected token ".toList ++ inMarks spelling,
            inMarks (lineText s line)] }

/-- Puts a token back. -/
def putBack (t : Token) : Parser Unit := modify fun s => { s with ahead := some t }

/-- The characters of a word without quotes. -/
def bare? : Word → Option Text
  | [] => some []
  | [.spelling _] => some []
  | .char c false :: ps => (bare? ps).map (c :: ·)
  | _ => none

/-- An assignment that a word spells. -/
def assignment? (d : Dialect) (ps : Word) : Option Assignment :=
  let isNamePart (p : Part) : Bool :=
    match p with
    | .char c false => isNameChar c
    | _ => false
  let name := Part.characters (ps.takeWhile isNamePart)
  if !isName name then none
  else
    match ps.drop name.length, d with
    | .char '=' false :: value, _ => some (.mk name none false (.word value) (Part.written ps))
    | .char '+' false :: .char '=' false :: value, .extended =>
      some (.mk name none true (.word value) (Part.written ps))
    | _, _ => none

/-- Commands whose arguments may be assignments. -/
def declares (d : Dialect) (name : Text) : Bool :=
  (match d with
    | .plain => ["alias", "export", "readonly", "local"]
    | .extended => ["declare", "export", "local", "readonly", "typeset"]).contains
    (String.ofList name)

/-! ### Documents -/

/-- A line, and what follows it. -/
def cutLine (cs : Text) : Text × Option Text :=
  let line := cs.takeWhile (· != '\n')
  match cs.drop line.length with
  | _ :: rest => (line, some rest)
  | [] => (line, none)

/-- Whether a line is joined to the next one. -/
def isJoined (line : Text) : Bool := (line.reverse.takeWhile (· = '\\')).length % 2 = 1

structure Document where
  /-- the lines, the last one first -/
  lines : List Text := []
  rest : Text
  /-- how many lines were taken -/
  taken : Nat := 0
  isComplete : Bool := true

/-- Takes lines up to the one that spells `delimiter`; `fuel` bounds their number. -/
def takeDocument (strips joins : Bool) (delimiter : Text) : Nat → Bool → Document → Document
  | 0, _, d => d
  | fuel + 1, joined, d =>
    let (line, rest) := cutLine d.rest
    let line := if strips then line.dropWhile (· = '\t') else line
    match rest with
    | none =>
      if line = delimiter && !joined then { d with rest := [], taken := d.taken + 1 }
      else
        { d with
          lines := if line.isEmpty then d.lines else line :: d.lines
          rest := [], isComplete := false
          taken := if line.isEmpty then d.taken else d.taken + 1 }
    | some rest =>
      if line = delimiter && !joined then { d with rest, taken := d.taken + 1 }
      else
        takeDocument strips joins delimiter fuel (joins && isJoined line)
          { d with lines := (line ++ ['\n']) :: d.lines, rest, taken := d.taken + 1 }

section

-- reads commands up to the end of the text, or up to a parenthesis that closes them
variable (commands : Bool → Parser Command)

/-- The text of a document, the lines of which begin after the present one. -/
def document (strips quoted : Bool) (delimiter : Text) : Parser Word := do
  let s ← get
  let (front, rest) := cutLine s.rest
  let d := match rest with
    | some rest => takeDocument strips (!quoted) delimiter Word.room false { rest }
    | none => { rest := [], isComplete := false }
  if !d.isComplete && !s.isWhole then throw .incomplete
  let last := s.line + s.taken + d.taken
  let warning := "warning: here-document at line ".toList ++ ofString (toString s.line) ++
    " delimited by end-of-file (wanted ".toList ++ inMarks delimiter ++ [')']
  let text := d.lines.reverse.flatten
  modify fun s =>
    { s with
      rest := front ++ (if rest.isSome then '\n' :: d.rest else [])
      taken := s.taken + d.taken
      warnings := if d.isComplete then s.warnings else (last, warning) :: s.warnings }
  let shown := if quoted then '\'' :: delimiter ++ ['\''] else delimiter
  let spelling := (if strips then ['-'] else []) ++ shown ++ '\n' :: text ++ delimiter
  let ps ← if quoted then pure (text.map (.char · true)) else Word.ofDocument commands text
  return ps ++ [.spelling spelling]

/-! ### Tokens of a script -/

/-- An index in brackets with an equals sign after it, and whether the value is appended. -/
def indexAhead : Parser (Option (Word × Bool)) := do
  let s ← get
  skip
  match StateT.run (Word.parts commands s.line Word.room { ender := .bracket 0 } []) (← get) with
  | .ok (index, t) =>
    match t.rest with
    | '=' :: rest =>
      set { t with rest }
      return some (index, false)
    | '+' :: '=' :: rest =>
      set { t with rest }
      return some (index, true)
    | _ =>
      set s
      return none
  | .error _ =>
    set s
    return none

/-- The items of a list up to the closing parenthesis; `out` has the last one first. -/
def listItems (start : Nat) :
    Nat → List (Option Word × Word) → Parser (List (Option Word × Word))
  | 0, out => return out.reverse
  | fuel + 1, out => do
    skipBlanks
    modify fun s => { s with start := s.rest }
    match ← look true with
    | none =>
      if !(← get).isWhole then throw .incomplete
      throw <| .fault
        { line := start, isEnd := true, status := 1
          messages := ["unexpected EOF while looking for matching ".toList ++ inMarks [')']] }
    | some '\n' =>
      skip
      listItems start fuel out
    | some ')' =>
      skip
      return out.reverse
    | some c =>
      let index ← if c = '[' then indexAhead commands else pure none
      match index with
      | some (index, _) =>
        let value ← Word.read commands
        listItems start fuel ((some index, value) :: out)
      | none =>
        if Word.isOperatorChar c then
          skip
          unexpected (.operator (String.singleton c)) none
        else
          let value ← Word.read commands
          listItems start fuel ((none, value) :: out)

/-- What an assignment gives after its equals sign. -/
def given : Parser Given := do
  match (← get).rest with
  | '(' :: _ =>
    skip
    return .items (← listItems commands (← get).line Word.room [])
  | _ => return .word (← Word.read commands)

/-- A command substitution as the extended dialect shows it. -/
def shownSubstitution (body : Command) : Text :=
  let cs := Show.commandText body
  '(' :: (if cs.head? = some '(' then ' ' :: cs else cs) ++ [')']

/-- A text in which command substitutions are shown in the usual layout; `size` tells how much
text was left before it. -/
def withSubstitutions (size : Nat) (cs : Text) : List (Nat × Nat × Command) → Text
  | [] => cs
  | (before, after, body) :: rest =>
    if before > size || after + cs.length < size then withSubstitutions size cs rest
    else
      cs.take (size - before) ++ shownSubstitution body ++
        withSubstitutions after (cs.drop (size - after)) rest

/-- What was read since the reader was in the state `s`. -/
def readSince (s : Source) : Parser Text := do
  let t ← get
  let size := s.rest.length
  let cs := s.rest.take (size - t.rest.length)
  if s.dialect == .plain then return cs
  let inner := t.substitutions.filter fun x => x.1 ≤ size && t.rest.length ≤ x.2.1
  return withSubstitutions size cs (inner.mergeSort fun a b => a.1 ≥ b.1)

/-- An assignment with an index or with a list, if one begins here. -/
def assignmentAhead : Parser (Option Assignment) := do
  let s ← get
  let name := s.rest.takeWhile isNameChar
  if s.dialect == .plain || !isName name then return none
  match s.rest.drop name.length with
  | '=' :: '(' :: _ =>
    skipMany (name.length + 1)
    let value ← given commands
    return some (.mk name none false value (← readSince s))
  | '+' :: '=' :: '(' :: _ =>
    skipMany (name.length + 2)
    let value ← given commands
    return some (.mk name none true value (← readSince s))
  | '[' :: _ =>
    skipMany name.length
    match ← indexAhead commands with
    | some (index, appends) =>
      let value ← given commands
      return some (.mk name (some index) appends value (← readSince s))
    | none =>
      set s
      return none
  | _ => return none

/-- Whether the name of a file that a command reads or writes comes next. -/
def isProcess (d : Dialect) : Text → Bool
  | c :: '(' :: _ => d == .extended && (c = '<' || c = '>')
  | _ => false

/-- A word, after which the extended dialect keeps how it was written. -/
def spelledWord : Parser Word := do
  let s ← get
  let ps ← Word.read commands
  if s.dialect == .plain then return ps else return ps ++ [.spelling (← readSince s)]

/-- The variable in braces at the front, if a redirection follows that may use it. -/
def holderAt (d : Dialect) (cs : Text) : Option Text :=
  match d, cs with
  | .extended, c :: rest =>
    let name := rest.takeWhile fun c => isNameChar c || c = '[' || c = ']'
    match rest.drop name.length with
    | e :: f :: _ =>
      if c = openBrace && e = closeBrace && (f = '<' || f = '>') &&
          isName (name.takeWhile isNameChar) then some name
      else none
    | _ => none
  | _, _ => none

/-- The next token that was not put back. -/
def readToken (assigns : Bool) : Parser Token := do
  skipBlanks
  let s ← get
  set { s with start := s.rest }
  match s.rest with
  | [] => if s.isWhole then return .finish else throw .incomplete
  | '\n' :: _ =>
    skip
    return .newline
  | cs =>
    let digits := descriptorAt s.dialect cs
    let holder := holderAt s.dialect cs
    let front := digits.length + (holder.map fun name => name.length + 2).getD 0
    let after := cs.drop front
    if isProcess s.dialect cs then return .word (← spelledWord commands)
    else
      match spelledAt (redirections s.dialect) after with
      | some spelling =>
        skipMany (front + spelling.length)
        return .redirection (if digits.isEmpty then none else some (Format.decimal digits)) holder
          spelling
      | none =>
        match spelledAt (operators s.dialect) cs with
        | some spelling =>
          skipMany spelling.length
          return .operator spelling
        | none =>
          if assigns then
            match ← assignmentAhead commands with
            | some a => return .assignment a
            | none => return .word (← spelledWord commands)
          else return .word (← spelledWord commands)

def token (assigns : Bool) : Parser Token := do
  match (← get).ahead with
  | some t =>
    modify fun s => { s with ahead := none }
    return t
  | none => readToken commands assigns

/-- What has a meaning of its own in some place. -/
structure Position where
  keywords : Bool := false
  aliases : Bool := false
  newlines : Bool := false
  assigns : Bool := false

/-- Where a command may begin. -/
def Position.command : Position := { keywords := true, aliases := true, assigns := true }

/-- Forgets the names that have been replaced; whether the word that comes next may be
replaced as well. -/
def leaveAliases : Parser Bool := do
  let s ← get
  if s.replaced.isEmpty then return false
  let n := s.rest.length
  let isOver (r : Text × Nat) : Bool := r.2 ≥ n
  set { s with replaced := s.replaced.filter (!isOver ·) }
  return (s.replaced.filter isOver).any fun r =>
    match ((s.aliases.lookup r.1).getD []).getLast? with
    | some c => c = ' ' || c = '\t'
    | none => false

def next (p : Position) : Nat → Parser Token
  | 0 => return .finish
  | fuel + 1 => do
    let more ← if (← get).ahead.isNone then leaveAliases else pure false
    let t ← token commands p.assigns
    match t with
    | .newline => if p.newlines then next p fuel else return t
    | .word parts =>
      match bare? parts with
      | none => return t
      | some cs =>
        let s ← get
        let name := String.ofList cs
        if p.keywords && (reservedWords s.dialect).contains name then return .reserved name
        else if (p.aliases || more) && (s.replaced.lookup cs).isNone then
          match s.aliases.lookup cs with
          | some value =>
            set { s with
              rest := value ++ s.rest, replaced := (cs, s.rest.length) :: s.replaced }
            next p fuel
          | none => return t
        else return t
    | _ => return t

/-! ### Redirections -/

/-- What a redirection does, and with which descriptor if none is named. -/
def kindOf (d : Dialect) (named : Bool) : String → RedirectKind × Nat
  | "<" => (.input, 0)
  | ">" => (.output, 1)
  | ">|" => (.clobber, 1)
  | ">>" => (.append, 1)
  | "<>" => (.both, 0)
  | "<&" => (.duplicate, 0)
  | ">&" => (if d == .extended && !named then .duplicateOutput else .duplicate, 1)
  | "&>" => (.outputs, 1)
  | "&>>" => (.appendOutputs, 1)
  | "<<<" => (.text, 0)
  | _ => (.document, 0)

/-- A redirection, the operator of which is behind. -/
def redirect (descriptor : Option Nat) (holder : Option Text) (spelling : String) :
    Parser Redirect := do
  let t ← token commands false
  match t with
  | .word parts =>
    let s ← get
    let (kind, usual) := kindOf s.dialect (descriptor.isSome || holder.isSome) spelling
    let d := descriptor.getD usual
    if kind = .document then
      let raw := s.start.take (s.start.length - s.rest.length)
      let isQuoted := raw.any fun c => c = '\'' || c = '"' || c = '\\'
      let delimiter := if isQuoted then Part.characters parts else raw
      let text ← document commands (spelling = "<<-") isQuoted delimiter
      return .mk d holder kind text
    else return .mk d holder kind parts
  | t => unexpected t none

/-- The redirections after a command; `out` has the last one first. -/
def redirects : Nat → List Redirect → Parser (List Redirect)
  | 0, out => return out.reverse
  | fuel + 1, out => do
    match ← next commands { keywords := true, aliases := true } fuel with
    | .redirection d holder spelling =>
      redirects fuel ((← redirect commands d holder spelling) :: out)
    | t =>
      putBack t
      return out.reverse

/-! ### Conditions in double brackets -/

def unaryTests : List String :=
  ["-a", "-b", "-c", "-d", "-e", "-f", "-g", "-h", "-k", "-p", "-r", "-s", "-t", "-u", "-w", "-x",
    "-G", "-L", "-N", "-O", "-S", "-z", "-n", "-o", "-v", "-R"]

def binaryTests : List String :=
  ["==", "=", "!=", "=~", "-eq", "-ne", "-lt", "-le", "-gt", "-ge", "-ef", "-nt", "-ot"]

/-- A fault in a condition, near the present token. -/
def badTest {α : Type} (t : Token) (message : Option Text) : Parser α := do
  let s ← get
  match t with
  | .finish =>
    throw <| .fault
      { line := lineAtEnd s, isEnd := true
        messages :=
          ["unexpected token ".toList ++ inMarks "EOF".toList ++ " in conditional command".toList,
            "syntax error: unexpected end of file".toList] }
  | _ =>
    let line := if t matches .newline then s.line - 1 else s.line
    let spelling := s.start.take (s.start.length - s.rest.length)
    throw <| .fault
      { line
        messages := message.toList ++
          ["syntax error near ".toList ++ inMarks spelling, inMarks (lineText s line)] }

/-- An operand of a condition, in which groups of patterns may stand. -/
def testOperand (kind unary : Bool) : Parser Word := do
  let groups := (← get).groups
  modify fun s => { s with groups := kind }
  let t ← token commands false
  modify fun s => { s with groups }
  let missing (what : Text) : Parser Word :=
    badTest t (some ("unexpected argument ".toList ++ inMarks what ++ " to conditional ".toList ++
      (if unary then "unary".toList else "binary".toList) ++ " operator".toList))
  match t with
  | .word ps => if bare? ps == some "]]".toList then missing "]]".toList else return ps
  | .newline => missing "newline".toList
  | t => badTest t none

/-- A regular expression, in which parentheses and bars have no meaning for the shell. -/
def regexOperand : Parser Word := do
  skipBlanks
  let s ← get
  set { s with start := s.rest }
  let ps ← Word.parts commands s.line Word.room { ender := .regex 0 } []
  return ps ++ [.spelling (← readSince s)]

mutual

def anyTest : Nat → Parser Test
  | 0 => return .word []
  | fuel + 1 => do
    let a ← allTests fuel
    match ← next commands { newlines := true } fuel with
    | .operator "||" => return .either a (← anyTest fuel)
    | t =>
      putBack t
      return a

def allTests : Nat → Parser Test
  | 0 => return .word []
  | fuel + 1 => do
    let a ← oneTest fuel
    match ← next commands { newlines := true } fuel with
    | .operator "&&" => return .both a (← allTests fuel)
    | t =>
      putBack t
      return a

def oneTest : Nat → Parser Test
  | 0 => return .word []
  | fuel + 1 => do
    let t ← next commands { newlines := true } fuel
    match t with
    | .operator "(" =>
      let inner ← anyTest fuel
      let close ← next commands { newlines := true } fuel
      match close with
      | .operator ")" => return .group inner
      | .finish => badTest close none
      | _ =>
        let s ← get
        let spelling := s.start.take (s.start.length - s.rest.length)
        badTest close (some ("unexpected token ".toList ++ inMarks spelling ++
          ", expected ".toList ++ inMarks [')']))
    | .word ps =>
      match (bare? ps).map String.ofList with
      | some "!" => return .negation (← oneTest fuel)
      | some "]]" => badTest t none
      | some w =>
        if unaryTests.contains w then return .unary w.toList (← testOperand commands false true)
        else afterWord ps
      | none => afterWord ps
    | t => badTest t none
where
  afterWord (left : Word) : Parser Test := do
    let t ← token commands false
    match t with
    | .redirection none none "<" => return .binary "<".toList left (← testOperand commands false false)
    | .redirection none none ">" => return .binary ">".toList left (← testOperand commands false false)
    | .word ps =>
      match (bare? ps).map String.ofList with
      | some "=~" => return .binary "=~".toList left (← regexOperand commands)
      | some w =>
        if binaryTests.contains w then
          return .binary w.toList left (← testOperand commands true false)
        else if w = "]]" then
          putBack t
          return .word left
        else badTest t (some "conditional binary operator expected".toList)
      | none => badTest t (some "conditional binary operator expected".toList)
    | .operator _ =>
      putBack t
      return .word left
    | .newline =>
      badTest t (some ("unexpected token ".toList ++ inMarks "newline".toList ++
        ", conditional binary operator expected".toList))
    | t => badTest t none

end

end

/-! ### Commands -/

/-- How a list of commands ends. -/
inductive Ending where
  /-- at the end of the line -/
  | line
  /-- before a word that ends lists, after at least one command -/
  | some
  /-- before a word that ends lists -/
  | any
  deriving DecidableEq, Repr

/-- Whether a token ends a list of commands. -/
def endsList : Token → Bool
  | .finish => true
  | .operator o => [")", ";;", ";&", ";;&"].contains o
  | .reserved w => ["do", "done", "elif", "else", "esac", "fi", "then", "\x7d"].contains w
  | _ => false

def inSequence : List Command → Command
  | [c] => c
  | cs => .sequence cs.reverse

/-- Names that no function of the plain dialect can have. -/
def specialNames : List String :=
  [".", ":", "break", "continue", "eval", "exec", "exit", "export", "local", "readonly", "return",
    "set", "shift", "times", "trap", "unset"]

/-- The parts of a loop that counts, between semicolons. -/
def splitParts (ps : Word) : List Word :=
  let isMark (p : Part) : Bool :=
    match p with
    | .char ';' _ => true
    | _ => false
  ps.foldr
    (fun p out =>
      if isMark p then [] :: out
      else
        match out with
        | w :: ws => (p :: w) :: ws
        | [] => [[p]])
    [[]]

/-- The parts with how they were written. -/
def spelledParts (spelling : Text) (ps : List Word) : List Word :=
  let texts := ((String.ofList spelling).splitOn ";").map String.toList
  if texts.length != ps.length then ps
  else (ps.zip texts).map fun (p, cs) => if p.isEmpty then p else p ++ [.spelling cs]

/-- The parts of a simple command that have been read, the last ones first. -/
structure Reading where
  line : Nat
  assignments : List Assignment := []
  items : List Item := []
  redirects : List Redirect := []
  /-- whether arguments may be assignments -/
  declares : Bool := false
  /-- the first word without its quotes -/
  name : Option Text := none

mutual

/-- Commands in a substitution. -/
def inside : Nat → Bool → Parser Command
  | 0, _ => return default
  | fuel + 1, closed => do
    let body ← list fuel .any []
    if closed then
      match ← next (inside fuel) {} fuel with
      | .operator ")" => return body
      | .finish =>
        let s ← get
        failAt (if s.dialect == .plain then s.line else lineAtEnd s)
          "end of file unexpected (expecting \")\")".toList
          ("unexpected EOF while looking for matching ".toList ++ inMarks [')']) true
      | t => unexpected t (some ")")
    else return body

/-- Commands up to what ends them; `out` has the last one first. -/
def list : Nat → Ending → List Command → Parser Command
  | 0, _, _ => return default
  | fuel + 1, ending, out => do
    let t ← next (inside fuel) { Position.command with newlines := ending != .line } fuel
    match t with
    | .newline => return inSequence out
    | .finish =>
      putBack t
      return inSequence out
    | _ =>
      putBack t
      if ending = .any && endsList t then return inSequence out
      let c ← andOr fuel
      let ending := if ending = .some then .any else ending
      let t ← next (inside fuel) {} fuel
      match t with
      | .operator "&" => list fuel ending (.background c :: out)
      | .operator ";" => list fuel ending (c :: out)
      | .newline =>
        if ending = .line then return inSequence (c :: out) else list fuel ending (c :: out)
      | .finish =>
        putBack t
        return inSequence (c :: out)
      | _ =>
        if ending = .line then unexpected t none
        else
          putBack t
          return inSequence (c :: out)

def andOr : Nat → Parser Command
  | 0 => return default
  | fuel + 1 => do
    let c ← pipeline fuel Position.command
    andOrFrom fuel c

def andOrFrom : Nat → Command → Parser Command
  | 0, c => return c
  | fuel + 1, left => do
    let t ← next (inside fuel) {} fuel
    match t with
    | .operator "&&" =>
      let right ← pipeline fuel { Position.command with newlines := true }
      andOrFrom fuel (.conjunction left right)
    | .operator "||" =>
      let right ← pipeline fuel { Position.command with newlines := true }
      andOrFrom fuel (.disjunction left right)
    | _ =>
      putBack t
      return left

def pipeline : Nat → Position → Parser Command
  | 0, _ => return default
  | fuel + 1, p => do
    let t ← next (inside fuel) p fuel
    match t with
    | .reserved "!" =>
      if ← isExtended then
        let u ← next (inside fuel) Position.command fuel
        putBack u
        let isNothing := match u with
          | .newline => true
          | .finish => true
          | .operator o => o = ";" || o = ")"
          | _ => false
        if isNothing then return .pipeline true [.sequence []]
        else return .pipeline true [← pipeline fuel Position.command]
      else
        let c ← command fuel Position.command
        return .pipeline true (← stages fuel [c])
    | .reserved "time" =>
      let u ← next (inside fuel) Position.command fuel
      putBack u
      let isNothing := match u with
        | .newline => true
        | .finish => true
        | .operator o => o = ";" || o = ")"
        | _ => false
      if isNothing then return .timed (.sequence []) else return .timed (← pipeline fuel p)
    | _ =>
      putBack t
      let c ← command fuel p
      match ← stages fuel [c] with
      | [c] => return c
      | cs => return .pipeline false cs

/-- The stages of a pipeline after the first; `out` has the last one first. -/
def stages : Nat → List Command → Parser (List Command)
  | 0, out => return out.reverse
  | fuel + 1, out => do
    let t ← next (inside fuel) {} fuel
    match t, out with
    | .operator "|", _ =>
      let c ← command fuel { Position.command with newlines := true }
      stages fuel (c :: out)
    | .operator "|&", left :: before =>
      let c ← command fuel { Position.command with newlines := true }
      let both := Command.redirected (← get).line left [.mk 2 none .duplicate [.char '1' false]]
      stages fuel (c :: both :: before)
    | _, _ =>
      putBack t
      return out.reverse

/-- A word of the grammar that has to come next. -/
def expect : Nat → String → Parser Unit
  | 0, _ => return ()
  | fuel + 1, w => do
    let t ← next (inside fuel) { keywords := true } fuel
    let isThere := match t with
      | .reserved s => s = w
      | .operator s => s = w
      | _ => false
    if !isThere then unexpected t (some w)

def command : Nat → Position → Parser Command
  | 0, _ => return default
  | fuel + 1, p => do
    let t ← next (inside fuel) p fuel
    let line := (← get).line
    let close (w : String) (c : Command) : Parser Command := do
      expect fuel w
      redirected fuel line c
    match t with
    | .reserved "if" => close "fi" (← conditional fuel)
    | .reserved "while" => loop fuel line false
    | .reserved "until" => loop fuel line true
    | .reserved "for" => redirected fuel line (← each fuel line)
    | .reserved "select" => redirected fuel line (← menu fuel line)
    | .reserved "case" => redirected fuel line (← choice fuel line)
    | .reserved "\x7b" => close "\x7d" (.group (← list fuel .some []))
    | .reserved "[[" =>
      let test ← anyTest (inside fuel) fuel
      let t ← next (inside fuel) { newlines := true } fuel
      match t with
      | .word ps =>
        if bare? ps == some "]]".toList then redirected fuel line (.test line test)
        else badTest t none
      | t => badTest t none
    | .reserved "function" => function fuel line
    | .operator "(" =>
      let s ← get
      match s.dialect, s.rest with
      | .extended, '(' :: rest =>
        set { s with rest }
        match StateT.run (Word.sums (inside fuel)) (← get) with
        | .ok (source, s) =>
          set s
          let spelling := ← readSince { s with rest }
          redirected fuel line
            (.arithmetic line (source ++ [.spelling (spelling.take (spelling.length - 2))]))
        | .error (.fault { isEnd := false, .. }) =>
          set s
          close ")" (.subshell line (← list fuel .some []))
        | .error e => throw e
      | _, _ => close ")" (.subshell line (← list fuel .some []))
    | .word _ =>
      putBack t
      simple fuel { line }
    | .assignment _ =>
      putBack t
      simple fuel { line }
    | .redirection _ _ _ =>
      putBack t
      simple fuel { line }
    | t => unexpected t none

/-- A command with the redirections after it. -/
def redirected : Nat → Nat → Command → Parser Command
  | 0, _, c => return c
  | fuel + 1, line, c => do
    match ← redirects (inside fuel) fuel [] with
    | [] => return c
    | rs => return .redirected line c rs

def conditional : Nat → Parser Command
  | 0 => return default
  | fuel + 1 => do
    let test ← list fuel .some []
    expect fuel "then"
    let body ← list fuel .some []
    let t ← next (inside fuel) {} fuel
    match t with
    | .reserved "elif" => return .conditional test body (← conditional fuel)
    | .reserved "else" => return .conditional test body (← list fuel .some [])
    | _ =>
      putBack t
      return .conditional test body (.sequence [])

def loop : Nat → Nat → Bool → Parser Command
  | 0, _, _ => return default
  | fuel + 1, line, until_ => do
    let test ← list fuel .some []
    expect fuel "do"
    let body ← list fuel .some []
    expect fuel "done"
    redirected fuel line (.loop until_ test body)

/-- The body of a loop. -/
def loopBody : Nat → Parser Command
  | 0 => return default
  | fuel + 1 => do
    let t ← next (inside fuel) { Position.command with newlines := true } fuel
    match t, ← isExtended with
    | .reserved "do", _ =>
      let body ← list fuel .some []
      expect fuel "done"
      return body
    | .reserved "\x7b", true =>
      let body ← list fuel .some []
      expect fuel "\x7d"
      return body
    | t, _ => unexpected t (some "do")

/-- The words that a loop goes through; none when the arguments are meant. -/
def loopWords : Nat → Parser (Option (List Word))
  | 0 => return none
  | fuel + 1 => do
    let t ← next (inside fuel) { Position.command with newlines := true } fuel
    match t with
    | .reserved "in" =>
      let (words, t) ← wordsUntil fuel []
      match t with
      | .newline => return some words
      | .operator ";" => return some words
      | t => unexpected t none
    | .operator ";" => return none
    | t =>
      putBack t
      return none

/-- Words up to another token. -/
def wordsUntil : Nat → List Word → Parser (List Word × Token)
  | 0, out => return (out.reverse, .finish)
  | fuel + 1, out => do
    let t ← next (inside fuel) {} fuel
    match t with
    | .word ps => wordsUntil fuel (ps :: out)
    | t => return (out.reverse, t)

/-- The variable of a loop. -/
def loopName : Nat → Parser Text
  | 0 => return []
  | fuel + 1 => do
    let t ← next (inside fuel) {} fuel
    let isPlain := !(← isExtended)
    match t with
    | .word ps =>
      if isPlain && !((bare? ps).any isName) then
        failAt (← get).line "Bad for loop variable".toList [] false
      else return Part.characters ps
    | t =>
      if isPlain then failAt (← get).line "Bad for loop variable".toList [] false
      else unexpected t none

def each : Nat → Nat → Parser Command
  | 0, _ => return default
  | fuel + 1, line => do
    skipBlanks
    let s ← get
    match s.dialect, s.rest with
    | .extended, '(' :: '(' :: rest =>
      set { s with rest, start := s.rest }
      let begin_ ← get
      let source ← Word.sums (inside fuel)
      let after ← get
      let spelling ← readSince begin_
      match spelledParts (spelling.take (spelling.length - 2)) (splitParts source) with
      | [a, b, c] =>
        let t ← next (inside fuel) { newlines := true } fuel
        match t with
        | .operator ";" => pure ()
        | t => putBack t
        return .count line a b c (← loopBody fuel)
      | _ =>
        let spelling := s.rest.take (s.rest.length - after.rest.length)
        throw <| .fault
          { line := s.line
            messages :=
              ["syntax error: arithmetic expression required".toList,
                "syntax error: ".toList ++ inMarks spelling] }
    | _, _ =>
      let name ← loopName fuel
      let words ← loopWords fuel
      return .each line name words (← loopBody fuel)

def menu : Nat → Nat → Parser Command
  | 0, _ => return default
  | fuel + 1, line => do
    let name ← loopName fuel
    let words ← loopWords fuel
    return .menu line name words (← loopBody fuel)

def choice : Nat → Nat → Parser Command
  | 0, _ => return default
  | fuel + 1, line => do
    let t ← next (inside fuel) {} fuel
    match t with
    | .word ps =>
      let t ← next (inside fuel) { keywords := true, aliases := true, newlines := true } fuel
      match t with
      | .reserved "in" => return .select line ps (← clauses fuel [])
      | t => unexpected t (some "in")
    | t => unexpected t (some "word")

/-- The clauses up to the word that ends them; `out` has the last one first. -/
def clauses : Nat → List Clause → Parser (List Clause)
  | 0, out => return out.reverse
  | fuel + 1, out => do
    let t ← next (inside fuel) { keywords := true, newlines := true } fuel
    match t with
    | .reserved "esac" => return out.reverse
    | _ =>
      let first ← match t with
        | .operator "(" => next (inside fuel) {} fuel
        | t => pure t
      let patterns ← patterns fuel first []
      let body ← list fuel .any []
      let t ← next (inside fuel) { keywords := true, newlines := true } fuel
      let clause (after : ClauseEnd) : Clause := .mk patterns body after
      match t with
      | .reserved "esac" => return (clause .leave :: out).reverse
      | .operator ";;" => clauses fuel (clause .leave :: out)
      | .operator ";&" => clauses fuel (clause .fall :: out)
      | .operator ";;&" => clauses fuel (clause .resume :: out)
      | t => unexpected t (some ";;")

/-- Patterns up to the parenthesis, the first of which has been read. -/
def patterns : Nat → Token → List Word → Parser (List Word)
  | 0, _, out => return out.reverse
  | fuel + 1, t, out => do
    let pattern? : Option Word := match t with
      | .word ps => some ps
      | .reserved w => some (w.toList.map (.char · false))
      | _ => none
    if pattern?.isNone && (← isExtended) then unexpected t none
    let out := pattern?.getD [] :: out
    let t ← next (inside fuel) {} fuel
    match t with
    | .operator "|" => patterns fuel (← next (inside fuel) {} fuel) out
    | .operator ")" => return out.reverse
    | t => unexpected t (some ")")

/-- The body of a function, which is a compound command in the extended dialect. -/
def functionBody : Nat → Parser Command
  | 0 => return default
  | fuel + 1 => do
    let p : Position := { Position.command with newlines := true }
    if ← isExtended then
      let t ← next (inside fuel) p fuel
      let isCompound := match t with
        | .reserved w =>
          ["if", "while", "until", "for", "select", "case", "\x7b", "[["].contains w
        | .operator "(" => true
        | _ => false
      if !isCompound then unexpected t none
      putBack t
    command fuel p

/-- A function after the word `function`. -/
def function : Nat → Nat → Parser Command
  | 0, _ => return default
  | fuel + 1, line => do
    let t ← next (inside fuel) {} fuel
    match t with
    | .word ps =>
      let t ← next (inside fuel) { newlines := true, keywords := true } fuel
      match t with
      | .operator "(" =>
        match (← get).rest with
        | ')' :: _ => skip
        | _ => putBack t
      | t => putBack t
      return .define line (Part.characters ps) (← functionBody fuel)
    | t => unexpected t none

/-- A simple command, or a function if a pair of parentheses follows the only word. -/
def simple : Nat → Reading → Parser Command
  | 0, _ => return default
  | fuel + 1, r => do
    let atStart := r.items.isEmpty
    let p : Position := { aliases := atStart, assigns := atStart || r.declares }
    let t ← next (inside fuel) p fuel
    let d := (← get).dialect
    match t with
    | .word ps =>
      match if atStart || r.declares then assignment? d ps else none with
      | some a =>
        if atStart then simple fuel { r with assignments := a :: r.assignments }
        else simple fuel { r with items := .assignment a :: r.items }
      | none =>
        let literal := (Part.literal? ps).getD []
        let isCommand := literal = "command".toList || literal = "builtin".toList
        let declares := if r.items.isEmpty || r.name == some [] then declares d literal
          else r.declares
        let name := match r.name with
          | some (c :: cs) => some (c :: cs)
          | _ => if isCommand then some [] else some literal
        simple fuel { r with items := .word ps :: r.items, declares, name }
    | .assignment a =>
      if atStart then simple fuel { r with assignments := a :: r.assignments }
      else simple fuel { r with items := .assignment a :: r.items }
    | .redirection n holder spelling =>
      let redirect ← redirect (inside fuel) n holder spelling
      simple fuel { r with redirects := redirect :: r.redirects }
    | .operator "(" =>
      match r.items, r.assignments, r.redirects with
      | [.word ps], [], [] =>
        let close ← next (inside fuel) {} fuel
        let isClosed := match close with
          | .operator ")" => true
          | _ => false
        if !isClosed then unexpected close (some ")")
        let name := Part.characters ps
        let line := (← get).line
        if d == .plain &&
            (!((bare? ps).any isName) || specialNames.contains (String.ofList name)) then
          failAt line "Bad function name".toList [] false
        else return .define r.line name (← functionBody fuel)
      | _, _, _ =>
        putBack t
        finish r
    | t =>
      putBack t
      finish r
where
  finish (r : Reading) : Parser Command :=
    return .simple r.line r.assignments.reverse r.items.reverse r.redirects.reverse

end

/-- A text that stands for itself but for the values in it. -/
def document? (d : Dialect) (cs : Text) : Option Word :=
  match StateT.run (Word.ofDocument (inside Word.room) cs) { rest := cs, dialect := d } with
  | .ok (w, _) => some w
  | .error _ => none

/-- The words of a text in which operators have no meaning, between which characters without
quotes stand that `separates` holds for. -/
def words? (d : Dialect) (separates : Char → Bool) (cs : Text) : Option (List Word) :=
  let reader := Word.parts (inside Word.room) 0 Word.room { ender := .text } []
  let step (p : Part) (out : List Word) : List Word :=
    match p, out with
    | .char c false, out => if separates c then [] :: out else joined (.char c false) out
    | p, out => joined p out
  match StateT.run reader { rest := cs, dialect := d } with
  | .ok (w, _) => some ((w.foldr step [[]]).filter (!·.isEmpty))
  | .error _ => none
where
  joined (p : Part) : List Word → List Word
    | w :: ws => (p :: w) :: ws
    | [] => [[p]]

/-- A line of commands. -/
structure Line where
  /-- nothing is left when there is none -/
  command : Option Command
  /-- whether the text ended with the line -/
  isLast : Bool

/-- Reads the next line of commands that holds one. -/
def line (s : Source) : Except Stop (Line × Source) := do
  let s := { s with ahead := none, warnings := [] }
  let (c, s) ← StateT.run (list Word.room .line []) s
  let isLast := match s.ahead with
    | some .finish => true
    | _ => false
  let isEmpty := match c with
    | .sequence [] => true
    | _ => false
  return ({ command := if isEmpty && isLast then none else some c, isLast }, s)

end CellRunner.Shell.Parse
