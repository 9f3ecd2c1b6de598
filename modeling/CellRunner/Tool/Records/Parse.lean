import CellRunner.Tool.Records.Token

/-!
# Reading programs for records
-/

set_option autoImplicit false

namespace CellRunner.Tool.Records

open Shell (Text)

structure Reader where
  rest : Text
  line : Nat := 1
  token : Token := .newline
  /-- the line of the token -/
  place : Nat := 1
  /-- how many parentheses and braces are open -/
  parens : Nat := 0
  braces : Nat := 0
  loops : Nat := 0
  /-- the function that is read, if there is one -/
  function : Option String := none
  params : List String := []
  /-- parameters that stand for arrays -/
  arrays : List String := []
  /-- whether the rule is one for records -/
  hasRecords : Bool := false
  /-- names outside of functions, and whether they stand for arrays -/
  kinds : List (String × Bool) := []
  /-- calls: the function, the number of arguments and the line -/
  calls : List (String × Nat × Nat) := []
  /-- parameters that are handed on: the function and the parameter, and where to -/
  handed : List (String × String × String × Nat) := []
  rules : List Rule := []
  functions : List Function := []

abbrev Reading := StateT Reader (Except Complaint)

def complainAt {α : Type} (line : Nat) (m : Text) : Reading α := throw (atLine line m)

def token : Reading Token := return (← get).token

/-- Goes on to the next token. -/
def advance : Reading Unit := do
  let r ← get
  let (cs, n) := afterBlanks (r.rest.length + 1) r.rest 0
  let line := r.line + n
  match tokenIn line cs with
  | .error e => throw e
  | .ok (t, rest, n) => set { r with rest, line := line + n, token := t, place := line }

/-- Complains of the present token. -/
def wrong {α : Type} : Reading α := do
  let r ← get
  let ends := r.token.isNewline || r.token.isSymbol ";" || r.token.isSymbol "\x7d"
  let near := r.token.spelling
  if ends && r.parens > 0 then
    complainAt r.place ("missing ) near ".toList ++ near)
  else if r.token.isOver && r.braces > 0 then
    complainAt r.place ("missing \x7d near ".toList ++ near)
  else if r.token.isSymbol ")" && r.parens = 0 then complainAt r.place "extra ')'".toList
  else complainAt r.place ("syntax error at or near ".toList ++ near)

def isAt (s : String) : Reading Bool := return (← token).isSymbol s

def isAtWord (w : String) : Reading Bool := return (← token).isWord w

/-- Skips a symbol that has to stand here. -/
def expect (s : String) : Reading Unit := do
  if ← isAt s then advance else wrong

def skipNewlines : Nat → Reading Unit
  | 0 => return ()
  | fuel + 1 => do
    if (← token).isNewline then
      advance
      skipNewlines fuel

def newlines : Reading Unit := skipNewlines 100000

def openParen : Reading Unit := do
  modify fun r => { r with parens := r.parens + 1 }
  advance

def closeParen : Reading Unit := do
  if ← isAt ")" then
    modify fun r => { r with parens := r.parens - 1 }
    advance
  else wrong

/-! ### Names -/

/-- Notes that a name stands for an array or for something else. -/
def note (name : String) (isArray : Bool) : Reading Unit := do
  let r ← get
  if r.params.contains name then
    if isArray && !r.arrays.contains name then set { r with arrays := name :: r.arrays }
  else
    match r.kinds.lookup name with
    | some known =>
      if known && !isArray then
        complainAt r.place ("illegal reference to array ".toList ++ name.toList)
      else if !known && isArray then
        complainAt r.place ("illegal reference to variable ".toList ++ name.toList)
    | none => set { r with kinds := (name, isArray) :: r.kinds }

def arrayName : Reading String := do
  match ← token with
  | .name cs =>
    let name := String.ofList cs
    note name true
    advance
    return name
  | _ => wrong

/-! ### Expressions -/

def regexFault (source : Text) (f : Regex.Fault) : Text :=
  let why := match f with
    | .openBracket => "bad class -- [], [^] or ["
    | .openGroup => "missing ')'"
    | .nothingToRepeat => "missing operand"
    | .badInterval => "bad interval"
    | _ => "syntax error"
  "regular expression compile failed (".toList ++ why.toList ++ ")\n".toList ++ source

def patternStyle : Regex.Style := { extended := true, letters := true, plain := true }

def compile (source : Text) : Except Text Regex :=
  (Regex.parse patternStyle source).mapError (regexFault source)

/-- Reads an expression after its opening slash. -/
def regexLiteral (begun : Text) : Reading Expr := do
  let r ← get
  match regexIn (r.rest.length + 1) false begun.reverse r.rest with
  | none => throw (runaway "regular expression" r.place '/' (begun ++ r.rest))
  | some (source, rest) =>
    match compile source with
    | .ok x =>
      set { r with rest }
      advance
      return .regex x
    | .error m => complainAt r.place m

/-- A text that stands for an expression to look for is checked at once. -/
def checkPattern (e : Expr) : Reading Unit := do
  match e with
  | .text cs =>
    match compile cs with
    | .ok _ => return ()
    | .error m => complainAt (← get).place m
  | _ => return ()

def isTarget : Expr → Bool
  | .name _ => true
  | .field _ => true
  | .item _ _ => true
  | _ => false

def isList : Expr → Bool
  | .list _ => true
  | _ => false

def assignment? (t : Token) : Option (Option Arithmetic) :=
  match t with
  | .symbol "=" => some none
  | .symbol "+=" => some (some .add)
  | .symbol "-=" => some (some .subtract)
  | .symbol "*=" => some (some .multiply)
  | .symbol "/=" => some (some .divide)
  | .symbol "%=" => some (some .remainder)
  | .symbol "^=" => some (some .power)
  | _ => none

def relation? (isOutput : Bool) (t : Token) : Option Relation :=
  match t with
  | .symbol "<" => some .less
  | .symbol "<=" => some .lessEqual
  | .symbol "==" => some .equal
  | .symbol "!=" => some .different
  | .symbol ">=" => some .greaterEqual
  | .symbol ">" => if isOutput then none else some .greater
  | _ => none

/-- Whether an operand can begin with a token, so that two texts are joined. -/
def beginsOperand : Token → Bool
  | .number _ _ => true
  | .text _ => true
  | .name _ => true
  | .call _ => true
  | .builtin _ _ => true
  | .symbol s => ["$", "!", "(", "-", "+", "++", "--"].contains s
  | _ => false

/-- Whether the input is read from what was named last. -/
def feedsGetline : Reading Bool := do
  let r ← get
  if !r.token.isSymbol "|" then return false
  let (cs, _) := afterBlanks (r.rest.length + 1) r.rest 0
  return "getline".toList.isPrefixOf cs && !(cs.drop 7).head?.any isNamePart

/-- How many arguments a function of the language may have. -/
def arity : Builtin → Nat × Nat
  | .length => (0, 1)
  | .substr => (2, 3)
  | .index => (2, 2)
  | .split => (2, 3)
  | .sub => (2, 3)
  | .gsub => (2, 3)
  | .matchPlace => (2, 2)
  | .sprintf => (1, 1000)
  | .atan2 => (2, 2)
  | .rand => (0, 0)
  | .srand => (0, 1)
  | .close => (1, 1)
  | .flush => (0, 1)
  | .systime => (0, 0)
  | .formatTime => (0, 3)
  | _ => (1, 1)

/-- Checks the arguments of a function of the language. -/
def checked (b : Builtin) (name : Text) (args : List Expr) : Reading Expr := do
  let (least, most) := arity b
  if args.length < least || args.length > most then
    complainAt (← get).place ("wrong number of arguments in call to ".toList ++ name)
  match b, args with
  | .split, [_, .name _, sep] => checkPattern sep
  | .split, [_, .name _] => pure ()
  | .split, _ => wrong
  | .sub, p :: _ => checkPattern p
  | .gsub, p :: _ => checkPattern p
  | .matchPlace, [_, p] => checkPattern p
  | _, _ => pure ()
  match b, args with
  | .sub, [_, _, t] => if !isTarget t then wrong
  | .gsub, [_, _, t] => if !isTarget t then wrong
  | _, _ => pure ()
  return .builtin b args

mutual

/-- An expression; `isOutput` tells that a greater sign starts the name of a file. -/
def expr : Nat → Bool → Reading Expr
  | 0, _ => wrong
  | fuel + 1, isOutput => do
    let test ← eithers fuel isOutput
    if ← isAt "?" then
      advance
      let yes ← expr fuel isOutput
      expect ":"
      let no ← expr fuel isOutput
      return .choice test yes no
    else return test

def eithers : Nat → Bool → Reading Expr
  | 0, _ => wrong
  | fuel + 1, isOutput => do
    let a ← boths fuel isOutput
    eithersAfter fuel isOutput a

def eithersAfter : Nat → Bool → Expr → Reading Expr
  | 0, _, a => return a
  | fuel + 1, isOutput, a => do
    if ← isAt "||" then
      advance
      newlines
      let b ← boths fuel isOutput
      eithersAfter fuel isOutput (.either a b)
    else return a

def boths : Nat → Bool → Reading Expr
  | 0, _ => wrong
  | fuel + 1, isOutput => do
    let a ← members fuel isOutput
    bothsAfter fuel isOutput a

def bothsAfter : Nat → Bool → Expr → Reading Expr
  | 0, _, a => return a
  | fuel + 1, isOutput, a => do
    if ← isAt "&&" then
      advance
      newlines
      let b ← members fuel isOutput
      bothsAfter fuel isOutput (.both a b)
    else return a

def members : Nat → Bool → Reading Expr
  | 0, _ => wrong
  | fuel + 1, isOutput => do
    let a ← descriptions fuel isOutput
    membersAfter fuel a

def membersAfter : Nat → Expr → Reading Expr
  | 0, a => return a
  | fuel + 1, a => do
    if ← isAtWord "in" then
      advance
      let array ← arrayName
      let index := match a with
        | .list es => es
        | e => [e]
      membersAfter fuel (.isIn index array)
    else return a

def descriptions : Nat → Bool → Reading Expr
  | 0, _ => wrong
  | fuel + 1, isOutput => do
    let a ← relations fuel isOutput
    descriptionsAfter fuel isOutput a

def descriptionsAfter : Nat → Bool → Expr → Reading Expr
  | 0, _, a => return a
  | fuel + 1, isOutput, a => do
    let negated ← isAt "!~"
    if negated || (← isAt "~") then
      advance
      let b ← relations fuel isOutput
      checkPattern b
      let e : Expr := .describes a b
      descriptionsAfter fuel isOutput (if negated then .not_ e else e)
    else return a

def relations : Nat → Bool → Reading Expr
  | 0, _ => wrong
  | fuel + 1, isOutput => do
    let a ← joins fuel isOutput
    relationsAfter fuel isOutput a

def relationsAfter : Nat → Bool → Expr → Reading Expr
  | 0, _, a => return a
  | fuel + 1, isOutput, a => do
    match relation? isOutput (← token) with
    | some op =>
      advance
      let b ← joins fuel isOutput
      relationsAfter fuel isOutput (.relation op a b)
    | none => return a

/-- Operands that are joined, or an assignment. -/
def joins : Nat → Bool → Reading Expr
  | 0, _ => wrong
  | fuel + 1, isOutput => do
    let a ← sums fuel
    let t ← token
    match if isTarget a then assignment? t else none with
    | some op =>
      advance
      let v ← expr fuel isOutput
      return match op with
        | none => .assign a v
        | some op => .update op a v
    | none => joinsAfter fuel a

def joinsAfter : Nat → Expr → Reading Expr
  | 0, a => return a
  | fuel + 1, a => do
    if isList a then return a
    if beginsOperand (← token) then
      let b ← sums fuel
      joinsAfter fuel (.join a b)
    else return a

def sums : Nat → Reading Expr
  | 0 => wrong
  | fuel + 1 => do
    let a ← products fuel
    sumsAfter fuel a

def sumsAfter : Nat → Expr → Reading Expr
  | 0, a => return a
  | fuel + 1, a => do
    if isList a then return a
    match ← token with
    | .symbol "+" =>
      advance
      let b ← products fuel
      sumsAfter fuel (.arithmetic .add a b)
    | .symbol "-" =>
      advance
      let b ← products fuel
      sumsAfter fuel (.arithmetic .subtract a b)
    | _ => return a

def products : Nat → Reading Expr
  | 0 => wrong
  | fuel + 1 => do
    let a ← signed fuel
    productsAfter fuel a

def productsAfter : Nat → Expr → Reading Expr
  | 0, a => return a
  | fuel + 1, a => do
    let op : Option Arithmetic := match ← token with
      | .symbol "*" => some .multiply
      | .symbol "/" => some .divide
      | .symbol "%" => some .remainder
      | _ => none
    match op with
    | some op =>
      advance
      let b ← signed fuel
      productsAfter fuel (.arithmetic op a b)
    | none => return a

def signed : Nat → Reading Expr
  | 0 => wrong
  | fuel + 1 => do
    match ← token with
    | .symbol "!" =>
      advance
      return .not_ (← signed fuel)
    | .symbol "-" =>
      advance
      return .minus (← signed fuel)
    | .symbol "+" =>
      advance
      return .plus (← signed fuel)
    | _ =>
      let a ← powers fuel
      piped fuel a

def piped : Nat → Expr → Reading Expr
  | 0, a => return a
  | fuel + 1, a => do
    if isList a then return a
    if ← feedsGetline then
      advance
      advance
      let t ← target? fuel
      piped fuel (.readCommand a t)
    else return a

def powers : Nat → Reading Expr
  | 0 => wrong
  | fuel + 1 => do
    let a ← stepped fuel
    if ← isAt "^" then
      advance
      let t ← token
      let b ← if t.isSymbol "-" || t.isSymbol "+" || t.isSymbol "!" then signed fuel
        else powers fuel
      return .arithmetic .power a b
    else return a

/-- An operand with steps before or after it. -/
def stepped : Nat → Reading Expr
  | 0 => wrong
  | fuel + 1 => do
    match ← token with
    | .symbol "++" =>
      advance
      let e ← primary fuel
      if isTarget e then return .step 1 false e else wrong
    | .symbol "--" =>
      advance
      let e ← primary fuel
      if isTarget e then return .step (-1) false e else wrong
    | _ =>
      let e ← primary fuel
      if isTarget e then
        match ← token with
        | .symbol "++" =>
          advance
          return .step 1 true e
        | .symbol "--" =>
          advance
          return .step (-1) true e
        | _ => return e
      else return e

/-- What an input is read into, if that is told. -/
def target? : Nat → Reading (Option Expr)
  | 0 => return none
  | fuel + 1 => do
    match ← token with
    | .name _ => return some (← primary fuel)
    | .symbol "$" => return some (← primary fuel)
    | _ => return none

def primary : Nat → Reading Expr
  | 0 => wrong
  | fuel + 1 => do
    match ← token with
    | .number x _ =>
      advance
      return .number x
    | .text cs =>
      advance
      return .text cs
    | .symbol "/" => regexLiteral []
    | .symbol "/=" => regexLiteral ['=']
    | .symbol "$" => do
      advance
      match ← token with
      | .symbol "++" => return .field (← stepped fuel)
      | .symbol "--" => return .field (← stepped fuel)
      | .symbol "-" =>
        advance
        return .field (.minus (← primary fuel))
      | .symbol "+" =>
        advance
        return .field (.plus (← primary fuel))
      | .symbol "!" =>
        advance
        return .field (.not_ (← primary fuel))
      | _ => return .field (← primary fuel)
    | .symbol "(" => do
      openParen
      let es ← exprs fuel ")" false
      closeParen
      match es with
      | [] => wrong
      | [e] => return e
      | es => return .list es
    | .name cs => do
      let name := String.ofList cs
      advance
      if ← isAt "[" then
        note name true
        advance
        let index ← exprs fuel "]" false
        if index.isEmpty then wrong
        expect "]"
        return .item name index
      else
        -- as an argument of a call it may still be an array
        if !(← isAt ",") && !(← isAt ")") then note name false
        return .name name
    | .call cs => do
      let line := (← get).place
      let name := String.ofList cs
      advance
      openParen
      let args ← exprs fuel ")" false
      closeParen
      modify fun r => { r with calls := (name, args.length, line) :: r.calls }
      for (e, i) in args.zipIdx do
        match e with
        | .name v =>
          modify fun r => if r.params.contains v then
            { r with handed := (r.function.getD "", v, name, i) :: r.handed } else r
        | _ => pure ()
      return .call name args
    | .builtin b cs => do
      advance
      if ← isAt "(" then
        openParen
        if b matches .split then
          let text ← expr fuel false
          expect ","
          newlines
          let array ← arrayName
          let more ← if ← isAt "," then do
              advance
              newlines
              exprs fuel ")" false
            else pure []
          closeParen
          checked b cs (text :: .name array :: more)
        else
          let args ← exprs fuel ")" false
          closeParen
          checked b cs args
      else if b matches .length then return .builtin .length []
      else wrong
    | .word "getline" => do
      advance
      let t ← target? fuel
      if ← isAt "<" then
        advance
        let path ← powers fuel
        return .readFile path t
      else return .readMain t
    | _ => wrong

/-- Expressions with commas between them, up to a closing symbol. -/
def exprs : Nat → String → Bool → Reading (List Expr)
  | 0, _, _ => wrong
  | fuel + 1, close, isOutput => do
    if ← isAt close then return []
    let e ← expr fuel isOutput
    if ← isAt "," then
      advance
      newlines
      if ← isAt close then wrong
      return e :: (← exprs fuel close isOutput)
    else return [e]

end

/-! ### Statements -/

def enough : Nat := 100000

/-- An expression that has one value. -/
def value (isOutput : Bool) : Reading Expr := do
  let e ← expr enough isOutput
  if isList e then wrong
  return e

/-- Whether a statement can end here. -/
def endsStatement : Reading Bool := do
  let t ← token
  return t.isSymbol ";" || t.isNewline || t.isSymbol "\x7d" || t.isOver

/-- The end of a statement and the newlines after it. -/
def finish : Reading Unit := do
  let t ← token
  if t.isSymbol ";" || t.isNewline then
    advance
    newlines
  else if !t.isSymbol "\x7d" then wrong

def optionalValue : Reading (Option Expr) := do
  if ← endsStatement then return none else return some (← value false)

/-- What is printed, up to the name of a file or the end. -/
def printed : Nat → Reading (List Expr)
  | 0 => wrong
  | fuel + 1 => do
    if (← endsStatement) || (← isAt ">") || (← isAt ">>") || (← isAt "|") then return []
    let e ← expr enough true
    if ← isAt "," then
      advance
      newlines
      if ← endsStatement then wrong
      return e :: (← printed fuel)
    else return [e]

def redirect : Reading Redirect := do
  match ← token with
  | .symbol ">" =>
    advance
    return .file (← value true)
  | .symbol ">>" =>
    advance
    return .append (← value true)
  | .symbol "|" =>
    advance
    return .command (← value true)
  | _ => return .main

def printedAll : Reading (List Expr) := do
  match ← printed enough with
  | [.list es] => return es
  | es => if es.any isList then wrong else return es

/-- Statements without others inside them. -/
def simple : Reading Stmt := do
  let r ← get
  match r.token with
  | .word "print" =>
    advance
    let args ← printedAll
    return .print args (← redirect)
  | .word "printf" =>
    advance
    let args ← printedAll
    if args.isEmpty then complainAt r.place "no arguments in call to printf".toList
    return .printf args (← redirect)
  | .word "next" =>
    if !r.hasRecords then complainAt r.place "improper use of next".toList
    advance
    return .next
  | .word "nextfile" =>
    if !r.hasRecords then complainAt r.place "improper use of nextfile".toList
    advance
    return .nextFile
  | .word "break" =>
    if r.loops = 0 then complainAt r.place "break statement outside of loop".toList
    advance
    return .leaveLoop
  | .word "continue" =>
    if r.loops = 0 then complainAt r.place "continue statement outside of loop".toList
    advance
    return .nextRound
  | .word "exit" =>
    advance
    return .exit (← optionalValue)
  | .word "return" =>
    if r.function.isNone then complainAt r.place "return outside function body".toList
    advance
    return .result (← optionalValue)
  | .word "delete" =>
    advance
    let array ← arrayName
    if ← isAt "[" then
      advance
      let index ← exprs enough "]" false
      if index.isEmpty then wrong
      expect "]"
      return .delete array index
    else return .clear array
  | _ => return .expr (← value false)

/-- The names of a loop through the keys of an array, if that is what stands in parentheses. -/
def keysOf? : Reading (Option (String × String)) := do
  let r ← get
  match r.token with
  | .name v =>
    let blanks (cs : Text) : Text := (afterBlanks (cs.length + 1) cs 0).1
    let cs := blanks r.rest
    let after := blanks (cs.drop 2)
    let (array, rest) := after.span isNamePart
    let closes := (blanks rest).head? = some ')'
    if "in".toList.isPrefixOf cs && !(cs.drop 2).head?.any isNamePart && !array.isEmpty && closes
    then return some (String.ofList v, String.ofList array)
    else return none
  | _ => return none

/-- Reads the body of a loop. -/
def inLoop {α : Type} (body : Reading α) : Reading α := do
  modify fun r => { r with loops := r.loops + 1 }
  let a ← body
  modify fun r => { r with loops := r.loops - 1 }
  return a

def openBrace : Reading Unit := do
  if ← isAt "\x7b" then
    modify fun r => { r with braces := r.braces + 1 }
    advance
    newlines
  else wrong

def closeBrace : Reading Unit := do
  if ← isAt "\x7d" then
    modify fun r => { r with braces := r.braces - 1 }
    advance
  else wrong

mutual

def stmt : Nat → Reading Stmt
  | 0 => wrong
  | fuel + 1 => do
    match ← token with
    | .symbol "\x7b" => do
      let body ← block fuel
      if ← isAt ";" then advance
      newlines
      return body
    | .symbol ";" =>
      advance
      newlines
      return .block []
    | .word "if" => do
      advance
      if !(← isAt "(") then wrong
      openParen
      let test ← value false
      closeParen
      newlines
      let yes ← stmt fuel
      if ← isAtWord "else" then
        advance
        newlines
        return .choice test yes (← stmt fuel)
      else return .choice test yes (.block [])
    | .word "while" => do
      advance
      if !(← isAt "(") then wrong
      openParen
      let test ← value false
      closeParen
      if ← isAt ";" then
        advance
        newlines
        return .loop test (.block []) (.block [])
      newlines
      let body ← inLoop (stmt fuel)
      return .loop test (.block []) body
    | .word "do" => do
      advance
      newlines
      let body ← inLoop (stmt fuel)
      if !(← isAtWord "while") then wrong
      advance
      if !(← isAt "(") then wrong
      openParen
      let test ← value false
      closeParen
      finish
      return .loopOnce body test
    | .word "for" => do
      advance
      if !(← isAt "(") then wrong
      openParen
      match ← keysOf? with
      | some (v, array) =>
        note v false
        advance
        advance
        let _ ← arrayName
        closeParen
        newlines
        return .forKeys v array (← inLoop (stmt fuel))
      | none =>
        let first ← if ← isAt ";" then pure (Stmt.block []) else simple
        expect ";"
        newlines
        let test ← if ← isAt ";" then pure (Expr.number 1) else value false
        expect ";"
        newlines
        let after ← if ← isAt ")" then pure (Stmt.block []) else simple
        closeParen
        if ← isAt ";" then
          advance
          newlines
          return .block [first, .loop test after (.block [])]
        newlines
        let body ← inLoop (stmt fuel)
        return .block [first, .loop test after body]
    | _ => do
      let s ← simple
      finish
      return s

/-- Statements in braces. -/
def block : Nat → Reading Stmt
  | 0 => wrong
  | fuel + 1 => do
    openBrace
    let body ← stmts fuel
    closeBrace
    return .block body

def stmts : Nat → Reading (List Stmt)
  | 0 => wrong
  | fuel + 1 => do
    if (← isAt "\x7d") || (← token).isOver then return []
    let s ← stmt fuel
    return s :: (← stmts fuel)

end

/-! ### Rules -/

/-- The names of parameters up to the closing parenthesis. -/
def paramNames (function : String) : Nat → List String → Reading (List String)
  | 0, _ => wrong
  | fuel + 1, names => do
    match ← token with
    | .name cs =>
      let name := String.ofList cs
      if name = function then
        complainAt (← get).place "function parameter cannot be the function".toList
      if names.contains name then
        complainAt (← get).place (cs ++ " is duplicated in argument list".toList)
      advance
      let names := name :: names
      if ← isAt "," then
        advance
        newlines
        paramNames function fuel names
      else return names.reverse
    | _ => if names.isEmpty && (← isAt ")") then return [] else wrong

def functionRule : Reading Unit := do
  advance
  let name ← match ← token with
    | .name cs => pure (String.ofList cs)
    | .call cs => pure (String.ofList cs)
    | _ => wrong
  let r ← get
  if r.functions.any (·.name == name) then
    complainAt r.place ("redefinition of ".toList ++ name.toList)
  advance
  if !(← isAt "(") then wrong
  openParen
  let params ← paramNames name 1000 []
  closeParen
  newlines
  modify fun r => { r with function := some name, params, arrays := [], hasRecords := false }
  -- the function is known in its own body
  let body ← block enough
  let arrays := (← get).arrays
  modify fun r => { r with
    function := none
    params := []
    functions := { name, params, arrays, body } :: r.functions }

/-- The rule after its pattern. -/
def body (pattern : Pattern) (hasRecords : Bool) : Reading Unit := do
  modify fun r => { r with hasRecords }
  let b ← block enough
  modify fun r => { r with rules := { pattern, body := b } :: r.rules }

def rule : Reading Unit := do
  match ← token with
  | .word "BEGIN" =>
    advance
    body .begin_ false
  | .word "END" =>
    advance
    body .end_ false
  | .word "function" => functionRule
  | .symbol "\x7b" => body .always true
  | .symbol "\x7d" =>
    let line := (← get).place
    throw (atLine line "extra '\x7d'".toList ++
      atLine line "syntax error at or near end of line".toList)
  | _ => do
    let e ← value false
    let pattern ← if ← isAt "," then do
        advance
        newlines
        pure (Pattern.between e (← value false))
      else pure (Pattern.when_ e)
    if ← isAt "\x7b" then body pattern true
    else
      let t ← token
      if !(t.isNewline || t.isSymbol ";" || t.isOver) then wrong
      modify fun r => { r with
        rules := { pattern, body := .print [] .main } :: r.rules }

def program : Nat → Reading Unit
  | 0 => return ()
  | fuel + 1 => do
    newlines
    if (← token).isOver then return ()
    rule
    if ← isAt ";" then advance
    program fuel

/-- Parameters that are handed on in place of arrays stand for arrays themselves; `fuel` bounds
the length of such chains. -/
def closeArrays (handed : List (String × String × String × Nat)) : Nat → List Function → List Function
  | 0, fs => fs
  | fuel + 1, fs =>
    let isArray (f : String) (i : Nat) : Bool := fs.any fun g =>
      g.name == f && (g.params[i]?.any g.arrays.contains)
    let more (f : Function) : List String :=
      handed.filterMap fun (h, p, g, i) =>
        if h = f.name && isArray g i && !f.arrays.contains p then some p else none
    if fs.all fun f => (more f).isEmpty then fs
    else closeArrays handed fuel (fs.map fun f => { f with arrays := more f ++ f.arrays })

/-- The program that a text spells. -/
def parse (cs : Text) : Except Complaint Program := do
  let ((), r) ← (do
    advance
    program enough : Reading Unit).run { rest := cs ++ ['\n'] }
  for (name, count, line) in r.calls.reverse do
    match r.functions.find? (·.name == name) with
    | none => throw (atLine r.place ("function ".toList ++ name.toList ++ " never defined".toList))
    | some f =>
      if count > f.params.length then
        throw (atLine line ("too many arguments in call to ".toList ++ name.toList))
  let functions := closeArrays r.handed (r.functions.length + 1) r.functions
  return { rules := r.rules.reverse, functions }

end CellRunner.Tool.Records
