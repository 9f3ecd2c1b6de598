import CellRunner.Regex.Parse
import CellRunner.Tool.Basic
import CellRunner.Tool.Records.Number
import CellRunner.Tool.Records.Syntax

/-!
# Tokens of programs for records
-/

set_option autoImplicit false

namespace CellRunner.Tool.Records

open Shell (Text)

inductive Token where
  | number (x : Float) (spelling : Text)
  | text (cs : Text)
  | name (cs : Text)
  /-- a name right before an opening parenthesis -/
  | call (cs : Text)
  | builtin (b : Builtin) (cs : Text)
  | word (w : String)
  | symbol (s : String)
  | newline
  | over

namespace Token

instance : Inhabited Token := ⟨.over⟩

/-- How a token is called in messages. -/
def spelling : Token → Text
  | .number _ cs => cs
  | .text cs => cs
  | .name cs => cs
  | .call cs => cs
  | .builtin _ cs => cs
  | .word w => w.toList
  | .symbol s => s.toList
  | .newline => "end of line".toList
  | .over => "end of file".toList

def isSymbol (t : Token) (s : String) : Bool :=
  match t with
  | .symbol x => x == s
  | _ => false

def isWord (t : Token) (w : String) : Bool :=
  match t with
  | .word x => x == w
  | _ => false

def isNewline : Token → Bool
  | .newline => true
  | _ => false

def isOver : Token → Bool
  | .over => true
  | _ => false

def words : List String :=
  ["BEGIN", "END", "function", "getline", "if", "else", "while", "for", "do", "break",
    "continue", "next", "nextfile", "exit", "return", "delete", "in", "print", "printf"]

def builtins : List (String × Builtin) :=
  [("length", .length), ("substr", .substr), ("index", .index), ("split", .split),
    ("sub", .sub), ("gsub", .gsub), ("match", .matchPlace), ("sprintf", .sprintf),
    ("sin", .sin), ("cos", .cos), ("atan2", .atan2), ("exp", .exp), ("log", .log),
    ("sqrt", .sqrt), ("int", .int), ("rand", .rand), ("srand", .srand),
    ("tolower", .toLower), ("toupper", .toUpper), ("system", .system), ("close", .close),
    ("fflush", .flush), ("systime", .systime), ("strftime", .formatTime)]

/-- Longer symbols come first. -/
def symbols : List String :=
  ["&&", "||", "++", "--", "+=", "-=", "*=", "/=", "%=", "^=", "==", "<=", ">=", "!=", "!~",
    ">>", "\x7b", "\x7d", "(", ")", "[", "]", ";", ",", "+", "-", "*", "/", "%", "^", "!", ">",
    "<", "|", "?", ":", "~", "$", "="]

end Token

/-- What is wrong with a program, line by line. -/
abbrev Complaint := List Text

def atLine (line : Nat) (m : Text) : Complaint := ["line ".toList ++ ofNat line ++ ": ".toList ++ m]

def isNameStart (c : Char) : Bool := c.isAlpha || c = '_'

def isNamePart (c : Char) : Bool := c.isAlphanum || c = '_'

/-- Digits with a point and an exponent at the front, and the rest. -/
def numberIn (cs : Text) : Float × Text × Text :=
  match Shell.Format.decimalAt cs with
  | none => (0, [], cs)
  | some (digits, places, rest) =>
    let (e, rest) := Shell.Format.exponentAt rest
    let x := ofFraction (Decimal.Fraction.ofDecimal digits (e - places))
    (x, cs.take (cs.length - rest.length), rest)

/-- A string up to its closing quote, with its escapes carried out, and the rest; none if the
quote is missing. -/
def stringIn : Nat → Text → Text → Option (Text × Text)
  | 0, _, _ => none
  | fuel + 1, out, cs =>
    match cs with
    | [] => none
    | '\n' :: _ => none
    | '"' :: rest => some (out.reverse, rest)
    | '\\' :: c :: rest =>
      let put (d : Char) : Option (Text × Text) := stringIn fuel (d :: out) rest
      match c with
      | '"' => put '"'
      | '\\' => put '\\'
      | 'n' => put '\n'
      | 't' => put '\t'
      | 'r' => put '\r'
      | 'a' => put '\x07'
      | 'b' => put '\x08'
      | 'f' => put '\x0c'
      | 'v' => put '\x0b'
      | '\n' => stringIn fuel out rest
      | 'x' =>
        let ds := (rest.take 2).takeWhile Shell.Format.isHexadecimal
        if ds.isEmpty then stringIn fuel ('x' :: '\\' :: out) rest
        else stringIn fuel (Shell.Format.byte (Shell.Format.hexadecimalValue ds) :: out)
          (rest.drop ds.length)
      | _ =>
        if Shell.Format.isOctal c then
          let ds := ((c :: rest).take 3).takeWhile Shell.Format.isOctal
          stringIn fuel (Shell.Format.byte (Shell.Format.octalValue ds) :: out)
            ((c :: rest).drop ds.length)
        else stringIn fuel (c :: '\\' :: out) rest
    | c :: rest => stringIn fuel (c :: out) rest

/-- An expression up to its closing slash, and the rest. -/
def regexIn : Nat → Bool → Text → Text → Option (Text × Text)
  | 0, _, _, _ => none
  | fuel + 1, inBrackets, out, cs =>
    match cs with
    | [] => none
    | '\n' :: _ => none
    | '/' :: rest => if inBrackets then regexIn fuel true ('/' :: out) rest
      else some (out.reverse, rest)
    | '\\' :: '/' :: rest => regexIn fuel inBrackets ('/' :: out) rest
    | '\\' :: c :: rest => regexIn fuel inBrackets (c :: '\\' :: out) rest
    | '[' :: rest =>
      if inBrackets then
        match rest with
        | ':' :: more =>
          let (name, after) := more.span Char.isAlpha
          match after with
          | ':' :: ']' :: after =>
            regexIn fuel true (("[:".toList ++ name ++ ":]".toList).reverse ++ out) after
          | _ => regexIn fuel true ('[' :: out) rest
        | _ => regexIn fuel true ('[' :: out) rest
      else
        match rest with
        | '^' :: ']' :: more => regexIn fuel true (']' :: '^' :: '[' :: out) more
        | ']' :: more => regexIn fuel true (']' :: '[' :: out) more
        | _ => regexIn fuel true ('[' :: out) rest
    | ']' :: rest => regexIn fuel false (']' :: out) rest
    | c :: rest => regexIn fuel inBrackets (c :: out) rest

/-- The line of a string or an expression that has no end. -/
def runaway (what : String) (line : Nat) (mark : Char) (cs : Text) : Complaint :=
  atLine line ("runaway ".toList ++ what.toList ++ ' ' :: mark :: cs.takeWhile (· != '\n') ++
    " ...".toList)

/-- A token, what follows it and how many lines it spans. -/
def tokenIn (line : Nat) (cs : Text) : Except Complaint (Token × Text × Nat) :=
  match cs with
  | [] => .ok (.over, [], 0)
  | '\n' :: rest => .ok (.newline, rest, 1)
  | '"' :: rest =>
    match stringIn (rest.length + 1) [] rest with
    | some (s, after) =>
      let used := rest.take (rest.length - after.length)
      .ok (.text s, after, used.count '\n')
    | none => .error (runaway "string constant" line '"' rest)
  | c :: rest =>
    if c.isDigit || (c = '.' && (rest.head?.any Char.isDigit)) then
      let (x, spelling, after) := numberIn cs
      .ok (.number x spelling, after, 0)
    else if isNameStart c then
      let (name, after) := cs.span isNamePart
      let w := String.ofList name
      if Token.words.contains w then .ok (.word w, after, 0)
      else
        match Token.builtins.lookup w with
        | some b => .ok (.builtin b name, after, 0)
        | none => .ok (if after.head? = some '(' then .call name else .name name, after, 0)
    else
      match Token.symbols.find? fun s => s.toList.isPrefixOf cs with
      | some s => .ok (.symbol s, cs.drop s.length, 0)
      | none =>
        let shown := if ' ' < c && c < '\x7f' then ['\'', c, '\''] else
          "0x".toList ++ Nat.toDigits 16 c.toNat
        .error [ofNat line ++ ": unexpected character ".toList ++ shown]

/-- What follows blanks, comments and joined lines, and how many lines these span. -/
def afterBlanks : Nat → Text → Nat → Text × Nat
  | 0, cs, n => (cs, n)
  | fuel + 1, cs, n =>
    match cs with
    | '\\' :: '\n' :: rest => afterBlanks fuel rest (n + 1)
    | '\\' :: '\r' :: '\n' :: rest => afterBlanks fuel rest (n + 1)
    | '#' :: rest => (rest.dropWhile (· != '\n'), n)
    | c :: rest =>
      if c = ' ' || c = '\t' || c = '\r' || c = '\x0b' || c = '\x0c' then afterBlanks fuel rest n
      else (cs, n)
    | [] => ([], n)

end CellRunner.Tool.Records
