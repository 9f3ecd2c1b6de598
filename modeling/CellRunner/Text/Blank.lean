/-!
# Blank characters, words and lines

The blank characters are those with the Unicode property White_Space. Trimming, cutting
into words and cutting into lines are functions on lists of characters.
-/

set_option autoImplicit false

namespace CellRunner.Text

/-- White_Space of Unicode. -/
def isBlank (c : Char) : Bool :=
  let n := c.toNat
  (9 ≤ n && n ≤ 13) || n == 0x20 || n == 0x85 || n == 0xA0 || n == 0x1680 ||
    (0x2000 ≤ n && n ≤ 0x200A) || n == 0x2028 || n == 0x2029 || n == 0x202F ||
    n == 0x205F || n == 0x3000

/-- Drops the characters satisfying `p` at both ends. -/
def strip (p : Char → Bool) (cs : List Char) : List Char :=
  ((cs.dropWhile p).reverse.dropWhile p).reverse

def trim (cs : List Char) : List Char := strip isBlank cs

/-- The maximal runs of characters that are not blank; `word` is the run being read, last
character first. -/
def wordsFrom (word : List Char) : List Char → List (List Char)
  | [] => if word.isEmpty then [] else [word.reverse]
  | c :: cs =>
    if isBlank c then
      if word.isEmpty then wordsFrom [] cs else word.reverse :: wordsFrom [] cs
    else wordsFrom (c :: word) cs

def words (cs : List Char) : List (List Char) := wordsFrom [] cs

/-- A line, last character first, without the carriage return that its newline may follow. -/
def endedLine : List Char → List Char
  | '\r' :: cs => cs.reverse
  | cs => cs.reverse

/-- The lines of a text after the beginning `line` (last character first) of the first one. -/
def linesFrom (line : List Char) : List Char → List (List Char)
  | [] => if line.isEmpty then [] else [line.reverse]
  | c :: cs => if c = '\n' then endedLine line :: linesFrom [] cs else linesFrom (c :: line) cs

/-- Lines end in a newline, alone or after one carriage return; what follows the last
newline is a line when it is not empty. -/
def lines (cs : List Char) : List (List Char) := linesFrom [] cs

/-- A string of blank characters only, or no character. -/
def isBlankText (s : String) : Bool := s.toList.all isBlank

def trimmed (s : String) : String := String.ofList (trim s.toList)

end CellRunner.Text
