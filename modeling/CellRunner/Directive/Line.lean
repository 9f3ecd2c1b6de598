import CellRunner.Text.Case

/-!
# Directive lines

A directive is a line that starts with the marker, has exactly one colon after it, and
names a key before the colon. The value is everything after the colon, blanks included.
-/

set_option autoImplicit false

namespace CellRunner.Directive

/-- What a directive line may set. -/
inductive Key where
  | cflags
  | ldflags
  | stdin
  | stdout
  | testScript
  | memTotalNoTerm
  | memTotal
  | memAux
  | memExpect
  | args
  deriving DecidableEq, Repr

namespace Key

def all : List Key :=
  [.cflags, .ldflags, .stdin, .stdout, .testScript, .memTotalNoTerm, .memTotal, .memAux,
    .memExpect, .args]

/-- The spelling in lower case. -/
def name : Key → String
  | .cflags => "cflags"
  | .ldflags => "ldflags"
  | .stdin => "stdin"
  | .stdout => "stdout"
  | .testScript => "test_script"
  | .memTotalNoTerm => "memtotalnoterm"
  | .memTotal => "memtotal"
  | .memAux => "memaux"
  | .memExpect => "memexpect"
  | .args => "args"

def ofName? (cs : List Char) : Option Key := all.find? (fun k => k.name.toList == cs)

end Key

def marker : List Char := ['/', '/', '%']

/-- What a line of a source text means. -/
inductive Line where
  /-- without the marker -/
  | plain
  /-- with the marker, but without exactly one colon -/
  | malformed (text : List Char)
  | unknown (key : List Char)
  | directive (key : Key) (value : List Char)
  deriving DecidableEq, Repr

/-- The texts before and after the only colon. -/
def splitAtColon (cs : List Char) : Option (List Char × List Char) :=
  match cs.dropWhile (· != ':') with
  | [] => none
  | _ :: value => if value.contains ':' then none else some (cs.takeWhile (· != ':'), value)

/-- The text after the marker. -/
def afterMarker (line : List Char) : Option (List Char) :=
  if marker.isPrefixOf line then some (line.drop marker.length) else none

def Line.read (line : List Char) : Line :=
  match afterMarker line with
  | none => .plain
  | some rest =>
    match splitAtColon rest with
    | none => .malformed line
    | some (key, value) =>
      let key := Text.lowercase (Text.trim key)
      match Key.ofName? key with
      | some k => .directive k value
      | none => .unknown key

end CellRunner.Directive

/-!
## Quoted lines

The quotes of a value are paired off from the left. The text of each pair is a line of its
own; what stands outside the pairs is dropped. A backslash has no meaning here.
-/

namespace CellRunner.Directive.QuotedLines

/-- The texts between paired quotes; `inside` is the text read since an opening quote,
last character first. -/
def textsFrom (inside : Option (List Char)) : List Char → List (List Char)
  | [] => []
  | c :: cs =>
    match inside with
    | none => textsFrom (if c = '"' then some [] else none) cs
    | some text =>
      if c = '"' then text.reverse :: textsFrom none cs else textsFrom (some (c :: text)) cs

def texts (value : List Char) : List (List Char) := textsFrom none value

/-- Each text followed by a newline. -/
def joined (value : List Char) : List Char := (texts value).flatMap (· ++ ['\n'])

end CellRunner.Directive.QuotedLines
