import CellRunner.Toml.Quotation

/-!
# Statements of a document

A document is a list of statements, one to a line: a table header, a header of one more
table of an array, or an assignment of a value to a path of keys.
-/

set_option autoImplicit false

namespace CellRunner.Toml

structure Key where
  text : String
  span : Span
  deriving DecidableEq, Repr

abbrev Path := List Key

inductive Expression where
  | scalar (span : Span) (value : Scalar)
  | array (span : Span) (items : List Expression)
  | inline (span : Span) (entries : List (Path × Expression))
  deriving Repr

inductive Statement where
  | header (span : Span) (path : Path)
  | arrayHeader (span : Span) (path : Path)
  | assignment (path : Path) (value : Expression)
  deriving Repr

namespace Statement

open Reader

def isBare (c : Char) : Bool := c.isAlphanum || c = '_' || c = '-'

def isQuote (c : Char) : Bool := c = '"' || c = '\''

/-- One key, bare or quoted. -/
def key : Reader Key := do
  let start ← offset
  match ← peek with
  | none => refuse
  | some c =>
    let text ← if isQuote c then Quotation.short else (do return String.ofList (← run isBare))
    if text.isEmpty && !isQuote c then refuse
    return ⟨text, ⟨start, ← offset⟩⟩

/-- How many keys a path may have, and how deep values may stand in one another. -/
def depthLimit : Nat := 80

/-- At most `room` keys joined by dots, with spaces around the dots. -/
def keys : Nat → Reader Path
  | 0 => refuse
  | room + 1 => do
    let k ← key
    spaces
    if ← accept ['.'] then
      spaces
      return k :: (← keys room)
    else return [k]

def path : Reader Path := keys depthLimit

/-- A character of a number, a truth value or a date. -/
def isRun (c : Char) : Bool := c.isAlphanum || c = '_' || c = '+' || c = '-' || c = '.' || c = ':'

/-- What follows a date after a space, when it begins with a digit. -/
def afterSpace : Reader (List Char) := do
  match (← get).rest with
  | ' ' :: d :: _ =>
    if d.isDigit then
      skip 1
      return ' ' :: (← run isRun)
    else return []
  | _ => return []

/-- A scalar without quotes; a date and a time may be parted by a space. -/
def unquoted : Reader Scalar := do
  let front ← run isRun
  let isDate := front.length = 10 && (Scalar.afterDate? front).isSome
  let back ← if isDate then afterSpace else pure []
  match Scalar.ofRun? (front ++ back) with
  | some s => return s
  | none => refuse

/-- Blanks, line breaks and comments. -/
def gap : Nat → Reader Unit
  | 0 => refuse
  | fuel + 1 => do
    spaces
    comment
    if ← lineBreak then gap fuel

def gaps : Reader Unit := do gap ((← get).rest.length + 1)

mutual

/-- A value; `room` bounds its nesting, and `fuel` the number of its items as well. -/
def expression (room : Nat) : Nat → Reader Expression
  | 0 => refuse
  | fuel + 1 => do
    let start ← offset
    match ← peek with
    | none => refuse
    | some c =>
      if c = '[' then
        if room = 0 then refuse
        skip 1
        let items ← items (room - 1) fuel
        return .array ⟨start, ← offset⟩ items
      else if c.toNat = 0x7B then
        if room = 0 then refuse
        skip 1
        let entries ← entries (room - 1) fuel
        return .inline ⟨start, ← offset⟩ entries
      else if isQuote c then
        let s ← Quotation.string
        return .scalar ⟨start, ← offset⟩ (.string s)
      else
        let s ← unquoted
        return .scalar ⟨start, ← offset⟩ s

/-- The items of an array up to its closing bracket. -/
def items (room : Nat) : Nat → Reader (List Expression)
  | 0 => refuse
  | fuel + 1 => do
    gaps
    if ← accept [']'] then return []
    let e ← expression room fuel
    gaps
    if ← accept [','] then return e :: (← items room fuel)
    else
      expect ']'
      return [e]

/-- The entries of an inline table up to its closing brace. -/
def entries (room : Nat) : Nat → Reader (List (Path × Expression))
  | 0 => refuse
  | fuel + 1 => do
    gaps
    if ← accept [Char.ofNat 0x7D] then return []
    let p ← path
    gaps
    expect '='
    gaps
    let e ← expression room fuel
    gaps
    if ← accept [','] then return (p, e) :: (← entries room fuel)
    else
      expect (Char.ofNat 0x7D)
      return [(p, e)]

end

/-- One line; `none` for a line without a statement. -/
def statement : Reader (Option Statement) := do
  spaces
  let fuel := (← get).rest.length + 2
  let start ← offset
  if ← accept ['[', '['] then
    spaces
    let p ← path
    if !(← accept [']', ']']) then refuse
    let s := Statement.arrayHeader ⟨start, ← offset⟩ p
    lineEnd
    return some s
  else if ← accept ['['] then
    spaces
    let p ← path
    expect ']'
    let s := Statement.header ⟨start, ← offset⟩ p
    lineEnd
    return some s
  else
    match ← peek with
    | none => return none
    | some c =>
      if c = '#' || c = '\r' || c = '\n' then
        lineEnd
        return none
      else
        let p ← path
        expect '='
        spaces
        let e ← expression depthLimit fuel
        lineEnd
        return some (.assignment p e)

/-- All lines of a document. -/
def statements : Nat → Reader (List Statement)
  | 0 => refuse
  | fuel + 1 => do
    if (← get).rest.isEmpty then return []
    match ← statement with
    | some s => return s :: (← statements fuel)
    | none => statements fuel

/-- The statements of a document, which a byte-order mark may precede. -/
def readAll (text : String) : Option (List Statement) :=
  let cs := text.toList
  let start : Cursor := match cs with
    | '\uFEFF' :: cs => ⟨3, cs⟩
    | _ => ⟨0, cs⟩
  (StateT.run (statements (cs.length + 1)) start).map (·.1)

end Statement

end CellRunner.Toml
