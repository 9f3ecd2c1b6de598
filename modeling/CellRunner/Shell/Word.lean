import CellRunner.Shell.Format
import CellRunner.Shell.Source

/-!
# Reading words

A word is read up to what ends it: a blank or an operator, a quote or a bracket that was
opened before it, or the end of the text. Commands inside a word are read by a parser that is
given.
-/

set_option autoImplicit false

namespace CellRunner.Shell.Word

open Parser

/-- What ends a piece of text, and how deep in brackets of its own kind the reader is. -/
inductive Ender where
  /-- a blank or an operator -/
  | blank
  /-- a double quote -/
  | quote
  /-- the brace that closes a parameter -/
  | brace
  /-- the end of the text -/
  | text
  /-- two parentheses that close an arithmetic expression -/
  | sums (depth : Nat)
  /-- the bracket that closes an index -/
  | bracket (depth : Nat)
  /-- a colon or the brace -/
  | colon (depth : Nat)
  /-- a slash or the brace -/
  | slash
  /-- the parenthesis that closes a group of patterns -/
  | group (depth : Nat)
  /-- a blank outside all parentheses -/
  | regex (depth : Nat)
  deriving DecidableEq, Repr

structure Context where
  ender : Ender := .blank
  /-- whether the text stands between double quotes -/
  quoted : Bool := false
  /-- whether the text is part of a parameter in braces -/
  inBraces : Bool := false
  /-- between double quotes inside a parameter that is itself between double quotes -/
  unquoted : Bool := false
  deriving DecidableEq, Repr

/-- Whether characters read here stand for themselves. -/
def Context.protects (x : Context) : Bool := x.quoted && !x.unquoted

def isOperatorChar (c : Char) : Bool := [';', '&', '|', '(', ')', '<', '>'].contains c

def isBlank (c : Char) : Bool := c = ' ' || c = '\t' || c = '\n'

def endsWord (c : Char) : Bool := isBlank c || isOperatorChar c

/-- A bound on the characters of one word. -/
def room : Nat := 1000000000

def specials : List Char := ['@', '*', '#', '?', '-', '$', '!']

def isSpecial (c : Char) : Bool := specials.contains c || c.isDigit

/-- The fault of a text that ends inside this context; the context began in `start`. -/
def unfinished {α : Type} (x : Context) (start : Nat) : Parser α := do
  let line := (← get).line
  let missing (c : Char) : Text :=
    "unexpected EOF while looking for matching ".toList ++ inMarks [c]
  match x.ender with
  | .sums _ => do
    let line := if ← isExtended then start else line
    runOut line "Missing '))'".toList (missing ')')
  | .quote => do
    let line := if ← isExtended then start else line
    runOut line "Unterminated quoted string".toList (missing '"')
  | _ => do
    let line := if ← isExtended then start else line
    runOut line ("Missing '".toList ++ [closeBrace, '\'']) (missing closeBrace)

/-- What stands between single quotes; the opening one is behind. -/
def singleQuoted (start : Nat) : Nat → Text → Parser Text
  | 0, out => return out.reverse
  | fuel + 1, out => do
    match ← look false with
    | none =>
      let line := (← get).line
      let line := if ← isExtended then start else line
      runOut line "Unterminated quoted string".toList
        ("unexpected EOF while looking for matching ".toList ++ inMarks ['\''])
    | some c =>
      skip
      if c = '\'' then return out.reverse else singleQuoted start fuel (c :: out)

/-- What stands between a dollar sign with a single quote and the closing quote, with its
escapes. -/
def escapeQuoted (start : Nat) : Nat → Text → Parser Text
  | 0, out => return out.reverse
  | fuel + 1, out => do
    match ← look false with
    | none =>
      runOut start [] ("unexpected EOF while looking for matching ".toList ++ inMarks ['\''])
    | some '\\' =>
      skip
      match ← look false with
      | some d =>
        skip
        escapeQuoted start fuel (d :: '\\' :: out)
      | none => escapeQuoted start fuel out
    | some c =>
      skip
      if c = '\'' then return out.reverse else escapeQuoted start fuel (c :: out)

/-- The text up to a backquote; backslashes protect some characters, which depends on whether
it stands between double quotes. -/
def backquoted (quoted : Bool) (start : Nat) : Nat → Text → Parser Text
  | 0, out => return out.reverse
  | fuel + 1, out => do
    match ← look false with
    | none =>
      let line := (← get).line
      let line := if ← isExtended then start else line
      runOut line "EOF in backquote substitution".toList
        ("unexpected EOF while looking for matching ".toList ++ inMarks [backquote])
    | some '\\' =>
      skip
      match ← look false with
      | some '\n' =>
        skip
        backquoted quoted start fuel out
      | some d =>
        skip
        let freed := d = '\\' || d = '$' || d = backquote || (quoted && d = '"')
        backquoted quoted start fuel (if freed then d :: out else d :: '\\' :: out)
      | none => backquoted quoted start fuel ('\\' :: out)
    | some c =>
      skip
      if c = backquote then return out.reverse else backquoted quoted start fuel (c :: out)

/-- How an operation on a parameter begins, for those that both dialects know. -/
def choice? : Char → Option Choice
  | '-' => some .default
  | '=' => some .assign
  | '?' => some .demand
  | '+' => some .alternative
  | _ => none

/-- The context of a word inside the braces of a parameter that stands in `x`. -/
def operandContext (x : Context) (ender : Ender) : Context :=
  { ender, quoted := x.quoted, inBraces := true }

/-- The context of a pattern inside the braces of a parameter. -/
def patternContext (ender : Ender) : Context := { ender, inBraces := true }

section

-- reads commands up to the end of the text, or up to a parenthesis that closes them
variable (commands : Bool → Parser Command)

/-- A command in parentheses; the opening one is behind. -/
def substitution : Parser Command := do
  modify fun s => { s with ahead := none }
  let s ← get
  match StateT.run (commands true) s with
  | .ok (body, t) =>
    set { t with ahead := none, start := s.start }
    return body
  | .error (.fault f) =>
    throw (.fault (if s.dialect == .extended && !f.isEnd then { f with status := 127 } else f))
  | .error e => throw e

/-- The command between backquotes; the opening one is behind. -/
def backquotedCommand (quoted : Bool) : Parser Command := do
  let s ← get
  let source ← backquoted quoted s.line room []
  if s.dialect == .extended then return .source s.line source
  else
    within source do
      modify fun t => { t with line := s.line }
      commands false

mutual

/-- The parts of a text up to what ends it; `out` has the last part first. -/
def parts (start : Nat) : Nat → Context → List Part → Parser (List Part)
  | 0, _, out => return out.reverse
  | fuel + 1, x, out => do
    let char (c : Char) : Part := .char c x.protects
    let go (p : Part) : Parser (List Part) := parts start fuel x (p :: out)
    match ← look true with
    | none =>
      match x.ender with
      | .blank => if (← get).isWhole then return out.reverse else throw .incomplete
      | .regex _ => if (← get).isWhole then return out.reverse else throw .incomplete
      | .text => return out.reverse
      | _ => unfinished x start
    | some c =>
      if x.ender = .blank && endsWord c && !((c = '<' || c = '>') && (← processAhead)) then
        return out.reverse
      else if x.ender = .regex 0 && (isBlank c || c = ')') then return out.reverse
      else if x.ender = .quote && c = '"' then
        skip
        return out.reverse
      else if x.inBraces && c = closeBrace && !x.unquoted && x.ender = .brace then
        skip
        return out.reverse
      else if x.inBraces && c = closeBrace && !x.unquoted then return out.reverse
      else if x.ender = .slash && c = '/' && !x.unquoted then return out.reverse
      else if x.ender = .colon 0 && c = ':' then return out.reverse
      else if c = '\\' then
        skip
        match ← look false with
        | none => parts start fuel x (.char '\\' true :: out)
        | some '\n' =>
          skip
          parts start fuel x out
        | some d =>
          let freed := d = '$' || d = '\\' || d = backquote ||
            (d = '"' && (x.ender != .text || x.inBraces)) || (d = closeBrace && x.inBraces)
          if !x.protects || freed then
            skip
            go (.char d true)
          else go (char '\\')
      else if c = '\'' && !x.quoted && !isSums x.ender then
        skip
        let s ← get
        let inner ← singleQuoted s.line room []
        let added : List Part := if inner.isEmpty then [.empty] else inner.map (.char · true)
        parts start fuel x (added.reverse ++ out)
      else if c = '"' && x.quoted && x.inBraces then
        skip
        parts start fuel { x with unquoted := !x.unquoted } out
      else if c = '"' && !x.quoted then
        skip
        let line := (← get).line
        let inner ← parts line fuel { ender := .quote, quoted := true } []
        parts start fuel x (if inner.isEmpty then .empty :: out else inner.reverse ++ out)
      else if c = '$' then
        skip
        let ps ← expansion start fuel x
        parts start fuel x (ps.reverse ++ out)
      else if c = backquote then
        skip
        let body ← backquotedCommand commands x.protects
        go (.command body x.protects)
      else
        match x.ender, c with
        | .sums depth, '(' =>
          skip
          parts start fuel { x with ender := .sums (depth + 1) } (char c :: out)
        | .sums 0, ')' =>
          skip
          match ← look true with
          | some ')' =>
            skip
            return out.reverse
          | _ => if ← isExtended then failAt 0 [] [] false else go (char ')')
        | .sums depth, ')' =>
          skip
          parts start fuel { x with ender := .sums (depth - 1) } (char c :: out)
        | .bracket depth, '[' =>
          skip
          parts start fuel { x with ender := .bracket (depth + 1) } (char c :: out)
        | .bracket 0, ']' =>
          skip
          return out.reverse
        | .bracket depth, ']' =>
          skip
          parts start fuel { x with ender := .bracket (depth - 1) } (char c :: out)
        | .colon depth, '(' =>
          skip
          parts start fuel { x with ender := .colon (depth + 1) } (char c :: out)
        | .colon depth, ')' =>
          skip
          parts start fuel { x with ender := .colon (depth - 1) } (char c :: out)
        | .colon depth, '?' =>
          skip
          parts start fuel { x with ender := .colon (depth + 1) } (char c :: out)
        | .colon depth, ':' =>
          skip
          parts start fuel { x with ender := .colon (depth - 1) } (char c :: out)
        | .regex depth, '(' =>
          skip
          parts start fuel { x with ender := .regex (depth + 1) } (char c :: out)
        | .regex depth, ')' =>
          skip
          parts start fuel { x with ender := .regex (depth - 1) } (char c :: out)
        | .group depth, '(' =>
          skip
          parts start fuel { x with ender := .group (depth + 1) } (char c :: out)
        | .group 0, ')' =>
          skip
          return (char c :: out).reverse
        | .group depth, ')' =>
          skip
          parts start fuel { x with ender := .group (depth - 1) } (char c :: out)
        | _, _ =>
          skip
          if (c = '<' || c = '>') && x.ender = .blank then
            skip
            let body ← substitution commands
            go (.process (c = '<') body)
          else if (← get).groups && !x.quoted && "?*+@!".contains c &&
              (← look true) == some '(' then
            skip
            let inner ← parts start fuel { x with ender := .group 0 } []
            parts start fuel x (inner.reverse ++ char '(' :: char c :: out)
          else go (char c)
where
  isSums : Ender → Bool
    | .sums _ => true
    | _ => false
  /-- Whether a command whose output is a file comes next. -/
  processAhead : Parser Bool := do
    let s ← get
    match s.rest with
    | _ :: '(' :: _ => return s.dialect == .extended
    | _ => return false

/-- What a dollar sign begins. -/
def expansion (start : Nat) : Nat → Context → Parser (List Part)
  | 0, _ => return []
  | fuel + 1, x => do
    let q := x.protects
    match ← look true with
    | some '(' =>
      let size := (← get).rest.length
      let noted : Parser Command := do
        let body ← substitution commands
        modify fun s => { s with substitutions := (size, s.rest.length, body) :: s.substitutions }
        return body
      skip
      if (← look true) == some '(' then
        let before ← get
        skip
        let sums : Parser (List Part) :=
          parts before.line fuel { ender := .sums 0, quoted := true } []
        if before.dialect == .plain then return [.arithmetic (← sums) q]
        else
          match StateT.run sums (← get) with
          | .ok (source, s) =>
            set s
            return [.arithmetic source q]
          | .error (.fault { isEnd := false, .. }) =>
            set before
            return [.command (← noted) q]
          | .error e => throw e
      else return [.command (← noted) q]
    | some c =>
      if c = openBrace then
        skip
        if ← isExtended then return [← bracedExtended start fuel x] else return [← braced start fuel x]
      else if isNameStart c then return [.parameter (← run isNameChar) false none .value q]
      else if isSpecial c then
        skip
        return [.parameter [c] false none .value q]
      else if c = '\'' && !x.quoted && (← isExtended) then
        skip
        let s ← get
        let inner ← escapeQuoted s.line room []
        let inner := Format.escapes inner
        return if inner.isEmpty then [.empty] else inner.map (.char · true)
      else if c = '"' && !x.quoted && (← isExtended) then return []
      else return [.char '$' q]
    | none => return [.char '$' q]

/-- A parameter in braces, the opening one of which is behind. -/
def braced (start : Nat) : Nat → Context → Parser Part
  | 0, _ => return .empty
  | fuel + 1, x => do
    let q := x.protects
    let bad : Parser Part := do
      let rest ← parts start fuel (operandContext x .brace) []
      return .parameter [] false none (.bad (Part.characters rest)) q
    match ← look true with
    | none => unfinished { x with ender := .brace } start
    | some c =>
      if isNameStart c then
        let name ← run isNameChar
        operation start fuel x name
      else if c.isDigit then
        let name ← run Char.isDigit
        operation start fuel x name
      else if c = '#' then
        skip
        match ← look true with
        | some d =>
          if d.isAlphanum || d = '_' then
            let name ← if d.isDigit then run Char.isDigit else run isNameChar
            if ← accept closeBrace then return .parameter name false none .length q else bad
          else
            let s ← get
            skip
            if d != closeBrace && (← look true) == some closeBrace && isSpecial d then
              skip
              return .parameter [d] false none .length q
            else
              set s
              operation start fuel x ['#']
        | none => unfinished { x with ender := .brace } start
      else if isSpecial c then
        skip
        operation start fuel x [c]
      else bad

/-- What is done with a parameter in braces. -/
def operation (start : Nat) : Nat → Context → Text → Parser Part
  | 0, _, _ => return .empty
  | fuel + 1, x, name => do
    let q := x.protects
    let part (o : Operation) : Part := .parameter name false none o q
    let operand : Parser (List Part) := parts start fuel (operandContext x .brace) []
    let bad : Parser Part := do
      let rest ← operand
      return part (.bad (Part.characters rest))
    match ← look true with
    | none => unfinished { x with ender := .brace } start
    | some c =>
      if c = closeBrace then
        skip
        return part .value
      else if c = ':' then
        skip
        match (← look true).bind choice? with
        | some choice =>
          skip
          return part (.choose choice true (← operand))
        | none => bad
      else if c = '%' || c = '#' then
        skip
        let longest ← accept c
        let operand ← parts start fuel (patternContext .brace) []
        return part (.trim (c = '#') longest operand)
      else
        match choice? c with
        | some choice =>
          skip
          return part (.choose choice false (← operand))
        | none => bad

/-- A parameter in braces of the extended dialect. -/
def bracedExtended (start : Nat) : Nat → Context → Parser Part
  | 0, _ => return .empty
  | fuel + 1, x => do
    let q := x.protects
    let s ← get
    let spelled : Parser Text := do
      let after ← get
      return s.rest.take (s.rest.length - after.rest.length)
    let bad (name : Text) : Parser Part := do
      let _ ← parts start fuel (operandContext x .brace) []
      return .parameter name false none (.bad ((← spelled).dropLast)) q
    let counts ← countsAhead
    if counts then skip
    let indirect ← if counts then pure false else indirectAhead
    if indirect then skip
    match ← look true with
    | none => unfinished { x with ender := .brace } start
    | some c =>
      let name ←
        if isNameStart c then run isNameChar
        else if c.isDigit then run Char.isDigit
        else if isSpecial c then
          skip
          pure [c]
        else pure []
      if name.isEmpty then bad []
      else
        let index ← if isName name && (← accept '[') then
            some <$> parts start fuel { ender := .bracket 0 } []
          else pure none
        let part (o : Operation) : Part := .parameter name indirect index o q
        let operand : Parser (List Part) := parts start fuel (operandContext x .brace) []
        let isAll := match index with
          | some [.char '@' _] => true
          | some [.char '*' _] => true
          | _ => false
        match ← look true with
        | none => unfinished { x with ender := .brace } start
        | some c =>
          if counts then
            if ← accept closeBrace then return part .length else bad name
          else if c = closeBrace then
            skip
            return if indirect && isAll then .parameter name false index .keys q else part .value
          else if indirect && (c = '*' || c = '@') && s.rest.getD (name.length + 2) ' ' = closeBrace
          then
            skip
            skip
            return .parameter name false (some [.char c false]) .names q
          else if c = ':' then
            skip
            match (← look true).bind choice? with
            | some choice =>
              skip
              return part (.choose choice true (← operand))
            | none =>
              let offset ← parts start fuel { ender := .colon 0, quoted := true, inBraces := true } []
              let size ← if ← accept ':' then
                  some <$> parts start fuel { ender := .colon 1, quoted := true, inBraces := true } []
                else pure none
              if ← accept closeBrace then return part (.slice offset size) else bad name
          else if c = '%' || c = '#' then
            skip
            let longest ← accept c
            let operand ← parts start fuel (patternContext .brace) []
            return part (.trim (c = '#') longest operand)
          else if c = '/' then
            skip
            let place ←
              match ← look true with
              | some '/' => do
                skip
                pure Place.all
              | some '#' => do
                skip
                pure Place.front
              | some '%' => do
                skip
                pure Place.back
              | _ => pure Place.first
            let pattern ← slashed start fuel
            let replacement ← if ← accept '/' then
                parts start fuel (patternContext .brace) []
              else do
                let _ ← accept closeBrace
                pure []
            return part (.substitute place pattern replacement)
          else if c = '^' || c = ',' || c = '~' then
            skip
            let all ← accept c
            let how := if c = '^' then Recasing.upper else if c = ',' then .lower else .toggle
            let pattern ← parts start fuel (patternContext .brace) []
            return part (.recase how all pattern)
          else if c = '@' then
            skip
            let rest ← parts start fuel (operandContext x .brace) []
            return part (.transform (Part.characters rest))
          else
            match choice? c with
            | some choice =>
              skip
              return part (.choose choice false (← operand))
            | none => bad name
where
  /-- Whether a number sign asks for a length here. -/
  countsAhead : Parser Bool := do
    match (← get).rest with
    | '#' :: c :: d :: _ =>
      return isNameStart c || c.isDigit || (isSpecial c && d = closeBrace && c != closeBrace)
    | _ => return false
  /-- Whether an exclamation mark asks for the parameter that another one names. -/
  indirectAhead : Parser Bool := do
    match (← get).rest with
    | '!' :: c :: d :: _ =>
      return isNameStart c || c.isDigit ||
        ((c = '@' || c = '*' || c = '#' || c = '?') && d = closeBrace)
    | _ => return false

/-- A pattern up to a slash or the closing brace; its first character may be a slash. -/
def slashed (start : Nat) : Nat → Parser (List Part)
  | 0 => return []
  | fuel + 1 => parts start fuel (patternContext .slash) []

end

/-- The parts of a word, up to a blank or an operator. -/
def read : Parser (List Part) := do
  let s ← get
  parts commands s.line room {} []

/-- A text in which only dollar signs, backquotes and backslashes have a meaning. -/
def ofDocument (cs : Text) : Parser (List Part) :=
  within cs (parts commands 0 room { ender := .text, quoted := true } [])

/-- An arithmetic expression up to the two parentheses that close it. -/
def sums : Parser (List Part) := do
  let s ← get
  parts commands s.line room { ender := .sums 0, quoted := true } []

end

end CellRunner.Shell.Word
