import CellRunner.Text.Blank

/-!
# Argument lists

Blanks and commas separate arguments. A quote opens a segment, in which they are ordinary
characters. The segment closes at the first quote that no backslash escapes, backslashes
being paired off from the left; when every later quote is escaped it closes at the last one;
and when no quote follows, the opening quote ends its argument and belongs to none. Quotes
at the ends of an argument are dropped, and all else is kept as written.
-/

set_option autoImplicit false

namespace CellRunner.Directive.Arguments

def isSeparator (c : Char) : Bool := Text.isBlank c || c == ','

/-- Whether a quote that no backslash escapes comes up. -/
def closes : List Char → Bool
  | [] => false
  | '"' :: _ => true
  | '\\' :: _ :: cs => closes cs
  | _ :: cs => closes cs

/-- Where in an argument list a character stands. -/
inductive Place where
  | bare
  /-- in a segment that an unescaped quote closes -/
  | segment
  /-- in a segment that the last quote closes -/
  | lastSegment
  deriving DecidableEq, Repr

/-- The place after a quote that stands outside all segments. -/
def opened (cs : List Char) : Option Place :=
  if closes cs then some .segment else if cs.contains '"' then some .lastSegment else none

/-- Puts a token, last character first, before others; the empty one is no token. -/
def endToken (token : List Char) (others : List (List Char)) : List (List Char) :=
  if token.isEmpty then others else token.reverse :: others

/-- The tokens with their quotes; `token` is the one being read, last character first. -/
def tokens : Place → List Char → List Char → List (List Char)
  | _, token, [] => endToken token []
  | .bare, token, c :: cs =>
    if isSeparator c then endToken token (tokens .bare [] cs)
    else if c = '"' then
      match opened cs with
      | some place => tokens place (c :: token) cs
      | none => endToken token (tokens .bare [] cs)
    else tokens .bare (c :: token) cs
  | .segment, token, '\\' :: c :: cs => tokens .segment (c :: '\\' :: token) cs
  | .segment, token, c :: cs =>
    tokens (if c = '"' then .bare else .segment) (c :: token) cs
  | .lastSegment, token, c :: cs =>
    tokens (if c = '"' && !cs.contains '"' then .bare else .lastSegment) (c :: token) cs

/-- The arguments of a value. -/
def split (value : List Char) : List (List Char) :=
  (tokens .bare [] value).map (Text.strip (· == '"'))

end CellRunner.Directive.Arguments
