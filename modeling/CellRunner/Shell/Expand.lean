import CellRunner.Machine.Account
import CellRunner.Shell.Braces
import CellRunner.Shell.Copy
import CellRunner.Shell.FileNames
import CellRunner.Shell.Prompt
import CellRunner.Shell.Variables

/-!
# Expansion of words

A word becomes pieces, the pieces are cut into fields, and a field with pattern characters
becomes the names of the files that it describes.
-/

set_option autoImplicit false

namespace CellRunner.Shell.Expand

inductive Piece where
  /-- a character; a split one may separate fields -/
  | glyph (c : Char) (quoted split : Bool)
  /-- the field is there even if it is empty -/
  | mark
  /-- the end of a field -/
  | cut
  deriving DecidableEq, Repr

def glyphs (quoted : Bool) (cs : Text) : List Piece :=
  (if quoted then [.mark] else []) ++ cs.map (.glyph · quoted !quoted)

def separators : Script Text := do return ((← Script.lookup "IFS".toList).getD [' ', '\t', '\n'])

/-- The characters of pieces with their quoting; fields are joined by blanks. -/
def flat (ps : List Piece) : List Glyph :=
  ps.filterMap fun
    | .glyph c q _ => some (c, q)
    | .cut => some (' ', false)
    | .mark => none

def textOf (ps : List Piece) : Text := (flat ps).map (·.1)

def patternOf (groups : Bool) (ps : List Piece) : Pattern :=
  Pattern.ofGlyphs groups ((flat ps).length + 1) (flat ps)

/-! ### Spelling -/

/-! ### Tildes -/

/-- The home of the user. -/
def usualHome : Text := Machine.Account.user.home.toList

/-- The home of a user of the system. -/
def homeOf (name : Text) : Option Text :=
  (Machine.Account.named? (asName name)).map (·.home.toList)

/-- What a tilde with a name stands for. -/
def tilde (name : Text) : Script (Option Text) := do
  let isExtended ← Script.isExtended
  match name with
  | [] =>
    let home ← Script.lookup "HOME".toList
    return if isExtended then some (home.getD usualHome) else home
  | ['+'] => if isExtended then Script.lookup "PWD".toList else return none
  | ['-'] => if isExtended then Script.lookup "OLDPWD".toList else return none
  | _ => return homeOf name

/-- Replaces the tildes at the front of a word, and after colons in an assignment. -/
def withTildes (assigns : Bool) : Nat → Word → Script Word
  | 0, w => return w
  | fuel + 1, w => do
    let isEnd (p : Part) : Bool := p.isChar '/' || (assigns && p.isChar ':')
    let after (ps : Word) : Script Word := do
      if !assigns then return ps
      let front := ps.takeWhile (!·.isChar ':')
      match ps.drop front.length with
      | colon :: rest => return front ++ colon :: (← withTildes assigns fuel rest)
      | [] => return ps
    match w with
    | .char '~' false :: rest =>
      let front := rest.takeWhile (!isEnd ·)
      match Parse.bare? front with
      | some name =>
        match ← tilde name with
        | some home => return home.map (.char · true) ++ (← after (rest.drop front.length))
        | none => after w
      | none => after w
    | _ => after w

/-! ### Values of parameters -/

/-- What a parameter holds; several texts are joined when they were asked for as one. -/
inductive Found where
  | missing
  | text (cs : Text)
  | texts (joined : Bool) (items : List Text)
  deriving DecidableEq, Repr

/-- The letters of the options that are on. -/
def optionLetters : List (Char × String) :=
  [('a', "allexport"), ('e', "errexit"), ('f', "noglob"), ('i', "interactive"), ('n', "noexec"),
    ('u', "nounset"), ('v', "verbose"), ('x', "xtrace"), ('m', "monitor"), ('C', "noclobber"),
    ('b', "notify"), ('I', "ignoreeof"), ('V', "vi"), ('E', "emacs"), ('s', "stdin"),
    ('h', "hashall"), ('B', "braceexpand")]

/-- The letters of the options that are on, in the order in which they are shown. -/
def shownLetters (s : State) : Text :=
  let order := match s.dialect with
    | .plain => "efIimnsxvVECabu".toList
    | .extended => "abefhimnuvxBCETcs".toList
  order.filter fun c =>
    (optionLetters.lookup c).any s.options.contains ||
      (c = 'c' && s.isArgument && s.dialect == .extended)

/-- The value of a special parameter or of a variable. -/
def scalar (name : Text) : Script (Option Text) := do
  let s ← get
  match name with
  | ['#'] => return some (Script.decimal s.arguments.length)
  | ['?'] => return some (Script.decimal s.status)
  | ['$'] => return some (Script.decimal s.number)
  | ['!'] => return s.lastBackground.map Script.decimal
  | ['-'] => return some (shownLetters s)
  | ['0'] => return some s.name
  | c :: _ =>
    if c.isDigit then return s.arguments[Format.decimal name - 1]? else Script.value? name
  | [] => return none

/-- The items of a list by their places. -/
def listOf (name : Text) : Script (Option (List (Nat × Text))) := do
  return match ← Script.content? name with
    | some (.list items) => some items
    | some (.text cs) => some [(0, cs)]
    | _ => none

/-- The items of a variable, in order, with the texts that name them. -/
def entries (name : Text) : Script (List (Text × Text)) := do
  match ← Script.content? name with
  | some (.table items) => return Script.entriesInOrder items
  | _ => return ((← listOf name).getD []).map fun (n, cs) => (Script.decimal n, cs)

/-- Whether an index asks for all items; if so, whether they are joined. -/
def allItems? : Option Word → Option Bool
  | some [.char '@' _] => some false
  | some [.char '*' _] => some true
  | _ => none

def itemsOf : Found → List Text
  | .missing => []
  | .text cs => [cs]
  | .texts _ items => items

def hasGroups : Script Bool := Script.hasFeature "extglob"

/-- What replaces a text that was found: each ampersand without quotes stands for it. -/
def withFound (found : Text) : List Glyph → Text
  | ('\\', false) :: ('&', false) :: rest => '&' :: withFound found rest
  | ('\\', false) :: ('\\', false) :: rest => '\\' :: withFound found rest
  | ('&', false) :: rest => found ++ withFound found rest
  | (c, _) :: rest => c :: withFound found rest
  | [] => []

/-- Text changed where a pattern describes it; the longest match is taken. -/
def substituted (place : Place) (p : Pattern) (replacement : Text → Text) (cs : Text) : Text :=
  match place with
  | .front =>
    match (p.fronts cs).getLast? with
    | some n => replacement (cs.take n) ++ cs.drop n
    | none => cs
  | .back =>
    let places := List.range (cs.length + 1)
    match places.find? fun i => p.describes (cs.drop i) with
    | some i => cs.take i ++ replacement (cs.drop i)
    | none => cs
  | .first => go false (cs.length + 1) cs
  | .all => go true (cs.length + 1) cs
where
  go (all : Bool) : Nat → Text → Text
    | 0, cs => cs
    | _ + 1, [] => []
    | fuel + 1, c :: rest =>
      match (p.fronts (c :: rest)).getLast? with
      | some (n + 1) =>
        let after := (c :: rest).drop (n + 1)
        replacement ((c :: rest).take (n + 1)) ++ (if all then go all fuel after else after)
      | _ => c :: go all fuel rest

def recased (how : Recasing) (all : Bool) (p : Option Pattern) (cs : Text) : Text :=
  let one (c : Char) : Char :=
    if (p.map (·.describes [c])).getD true then (Script.recase how [c]).headD c else c
  match cs with
  | [] => []
  | c :: rest => one c :: if all then rest.map one else rest

/-- A text in quotes, which can be read again. -/
def reusable (cs : Text) : Text :=
  if cs.any fun c => c < ' ' || c.toNat ≥ 127 then Format.escapeQuoted cs
  else Format.singleQuoted cs

/-- A text as a word, with backslashes where they are needed. -/
def asWord (cs : Text) : Text :=
  if cs.isEmpty then "''".toList
  else if cs.any fun c => c < ' ' || c.toNat ≥ 127 then Format.escapeQuoted cs
  else
    let special : List Char :=
      " !\"#$&'()*,;<>?[\\]^|~\x60\x7b\x7d".toList
    let inner (c : Char) : Text :=
      if special.contains c && c != '#' && c != '~' then ['\\', c] else [c]
    match cs with
    | [] => []
    | c :: rest => (if special.contains c then ['\\', c] else [c]) ++ rest.flatMap inner

/-- What prompts tell of the shell. -/
def promptFacts (s : State) : Script Prompt.Facts := do
  let home ← Script.lookup "HOME".toList
  let now : Nat ← Script.ask .clock
  return {
    shell := (s.name.reverse.takeWhile (· != '/')).reverse
    place := s.cwd, home := home.getD usualHome
    user := Machine.Account.user.name.toList, host := ((← Script.lookup "HOSTNAME".toList).getD "localhost".toList)
    jobs := s.jobs.length, seconds := (Machine.epoch.toNat + now) / 1000000 }

/-- Whether a pipe or a file of another process has to be told apart. -/
def missingText (emptyCounts : Bool) : Found → Bool
  | .missing => true
  | .text cs => emptyCounts && cs.isEmpty
  | .texts _ items =>
    items.isEmpty || (emptyCounts && items.all (·.isEmpty) && items.length ≤ 1)

/-! ### Expansion -/

/-- The characters at the front of a word as pieces, and what follows them; `out` has the last
one first. -/
def charsOf : Word → List Piece → List Piece × Word
  | .char c quoted :: ps, out => charsOf ps (.glyph c quoted false :: out)
  | ps, out => (out.reverse, ps)

structure Context where
  /-- whether fields are cut -/
  cuts : Bool := true

section

variable (run : Runner)

mutual

def word : Nat → Context → Word → Script (List Piece)
  | 0, _, _ => return []
  | _ + 1, _, [] => return []
  | fuel + 1, x, p :: ps => do
    let front ← part fuel x p
    let (chars, rest) := charsOf ps []
    if rest.isEmpty then return front ++ chars
    let back ← word fuel x rest
    return front ++ chars ++ back

def part : Nat → Context → Part → Script (List Piece)
  | 0, _, _ => return []
  | fuel + 1, x, p => do
    match p with
    | .char c quoted => return [.glyph c quoted false]
    | .empty => return [.mark]
    | .spelling _ => return []
    | .command body quoted => return glyphs quoted (← Copy.capture run body)
    | .arithmetic source quoted =>
      let inner ← word fuel { cuts := false } source
      return glyphs quoted (← Variables.integerText (textOf inner))
    | .process reads body =>
      return (← Copy.processFile run reads body).map (.glyph · true false)
    | .parameter name indirect index operation quoted =>
      parameter fuel x name indirect index operation quoted

/-- The text of a word that is not cut. -/
def plainText : Nat → Word → Script Text
  | 0, _ => return []
  | fuel + 1, w => do return textOf (← word fuel { cuts := false } w)

/-- What a parameter holds, and how messages call it. -/
def resolve : Nat → Text → Option Word → Script (Found × Text)
  | 0, name, _ => return (.missing, name)
  | fuel + 1, name, index => do
    let s ← get
    if name = ['@'] || name = ['*'] then
      return (.texts (name = ['*']) s.arguments, name)
    match index with
    | none =>
      match ← scalar name with
      | some cs => return (.text cs, name)
      | none => return (.missing, name)
    | some w =>
      match allItems? index with
      | some joined =>
        let items ← entries name
        return (if items.isEmpty then .missing else .texts joined (items.map (·.2)), name)
      | none =>
        let cs ← plainText fuel w
        let shown := name ++ '[' :: cs ++ [']']
        match ← Script.content? name with
        | some (.table items) =>
          match items.lookup cs with
          | some v => return (.text v, shown)
          | none => return (.missing, shown)
        | _ =>
          let n ← Script.escalating (RichArithmetic.evaluate cs)
          match (← listOf name).bind fun items =>
              (Script.placeIn items n).bind fun n => items.lookup n with
          | some v => return (.text v, shown)
          | none => return (.missing, shown)

/-- A text as a prompt shows it. -/
def prompt : Nat → Text → Script Text
  | 0, cs => return cs
  | fuel + 1, cs => do
    let s ← get
    let shown := Prompt.decode (← promptFacts s) cs
    match Parse.document? s.dialect shown with
    | some w => plainText fuel w
    | none => return shown

def parameter : Nat → Context → Text → Bool → Option Word → Operation → Bool →
    Script (List Piece)
  | 0, _, _, _, _, _, _ => return []
  | fuel + 1, x, name, indirect, index, operation, quoted => do
    let s ← get
    let isExtended := s.dialect == .extended
    let (name, index) ← if !indirect then pure (name, index) else do
      let (found, _) ← resolve fuel name index
      let cs := (itemsOf found).headD []
      let base := cs.takeWhile (· != '[')
      let inner := ((cs.drop base.length).drop 1).dropLast
      pure (base, if base.length = cs.length then none else some (inner.map (.char · false)))
    let (found, shown) ← match operation with
      | .bad _ => pure (.missing, name)
      | .names => pure (.missing, name)
      | _ => resolve fuel name index
    let joint : Script Text := do
      return match ← Script.lookup "IFS".toList with
        | none => [' ']
        | some cs => cs.take 1
    let show_ (f : Found) : Script (List Piece) := do
      match f with
      | .missing => return glyphs quoted []
      | .text cs => return glyphs quoted cs
      | .texts joined items =>
        let joined := joined || (!isExtended && !x.cuts)
        if joined && (quoted || !x.cuts) then
          return glyphs quoted (List.intercalate (← joint) items)
        else if !x.cuts then return glyphs quoted (List.intercalate [' '] items)
        else return List.intercalate [.cut] (items.map (glyphs quoted))
    let onEach (f : Text → Text) : Found :=
      match found with
      | .missing => .text (f [])
      | .text cs => .text (f cs)
      | .texts joined items => .texts joined (items.map f)
    let other (w : Word) : Script (List Piece) := do
      let w ← withTildes false 2 w
      let ps ← word fuel x w
      return (if quoted then [.mark] else []) ++ ps.map fun
        | .glyph c q b => .glyph c (q || quoted) ((b || !q) && !quoted)
        | p => p
    let unset : Script Unit := do
      if found == .missing && s.options.contains "nounset" && name != ['@'] && name != ['*'] then
        if isExtended then
          let isPlace := name.all Char.isDigit
          Script.complain ((if isPlace then '$' :: name else shown) ++ ": unbound variable".toList)
          Script.escape (.exit (if s.isArgument then 127 else 1))
        else if name.all Parser.isNameChar || name = ['!'] then
          Script.abort (name ++ ": parameter not set".toList)
    match operation with
    | .value =>
      unset
      show_ found
    | .length =>
      unset
      let n := match found with
        | .missing => 0
        | .text cs => cs.length
        | .texts _ items =>
          if isExtended then items.length else (List.intercalate [' '] items).length
      return glyphs quoted (Script.decimal n)
    | .choose .default e w => if missingText e found then other w else show_ found
    | .choose .alternative e w =>
      if missingText e found then return (if quoted then [.mark] else []) else other w
    | .choose .assign e w =>
      if missingText e found then
        let ps ← other w
        if Parser.isName name then
          let index ← match index with
            | some w => some <$> plainText fuel w
            | none => pure none
          let _ ← Variables.give name index false (textOf ps)
          return ps
        else if isExtended then
          Script.dropLine ('$' :: name ++ ": cannot assign in this way".toList)
        else Script.abort (name ++ ": bad variable name".toList)
      else show_ found
    | .choose .demand e w =>
      if missingText e found then
        let message ← plainText fuel w
        if isExtended then
          let message := if !w.isEmpty then message
            else if e then "parameter null or not set".toList else "parameter not set".toList
          Script.complain (shown ++ ": ".toList ++ message)
          Script.escape (.exit (if s.isArgument then 127 else 1))
        else
          let message := if !w.isEmpty then message
            else "parameter not set".toList ++ if e then " or null".toList else []
          Script.abort (name ++ ": ".toList ++ message)
      else show_ found
    | .trim front longest w =>
      unset
      let ps ← word fuel { cuts := false } w
      let p := patternOf (← hasGroups) ps
      show_ (onEach (if front then Pattern.dropFront longest p else Pattern.dropBack longest p))
    | .slice offset size =>
      unset
      let start ← RichArithmetic.evaluate (← plainText fuel offset)
      let count ← match size with
        | some w => some <$> (do RichArithmetic.evaluate (← plainText fuel w))
        | none => pure none
      slice name index found start count show_
    | .substitute place pattern replacement =>
      unset
      let ps ← word fuel { cuts := false } pattern
      let p := patternOf (← hasGroups) ps
      let r := flat (← word fuel { cuts := false } (← withTildes false 2 replacement))
      let isRich ← Script.hasFeature "patsub_replacement"
      let replaced := if isRich then fun found => withFound found r else fun _ => r.map (·.1)
      show_ (onEach (substituted place p replaced))
    | .recase how all pattern =>
      unset
      let ps ← word fuel { cuts := false } pattern
      let groups ← hasGroups
      let p := if pattern.isEmpty then none else some (patternOf groups ps)
      show_ (onEach (recased how all p))
    | .transform operator =>
      let v ← if Parser.isName name then Script.find? (← Script.target name Script.chain)
        else pure none
      match operator with
      | ['Q'] => show_ (if found == .missing then .missing else onEach reusable)
      | ['U'] => show_ (onEach (Script.recase .upper))
      | ['L'] => show_ (onEach (Script.recase .lower))
      | ['u'] => show_ (onEach (recased .upper false none))
      | ['E'] => show_ (onEach Format.escapes)
      | ['a'] =>
        let letters := (v.map Script.attributes).getD []
        show_ (match found with
          | .missing => .text letters
          | .text _ => .text letters
          | .texts joined items => .texts joined (items.map fun _ => letters))
      | ['A'] =>
        let all := (allItems? index).isSome
        show_ (← asDeclaration name v all found)
      | ['K'] =>
        show_ (match found, (v.bind (·.value)), (allItems? index).isSome with
          | .missing, _, _ => .missing
          | f, some value, true =>
            let items := Script.shownItems value
            let (joined, size) : Bool × Nat := match f with
              | .texts joined items => (joined, items.length)
              | _ => (true, 1)
            if size = 0 then .texts joined [] else .texts joined [items]
          | _, _, _ => onEach reusable)
      | ['k'] =>
        match found, (allItems? index).isSome with
        | .texts joined _, true =>
          let items ← entries name
          show_ (.texts joined (items.flatMap fun (k, cs) => [k, cs]))
        | .missing, _ => show_ .missing
        | _, _ => show_ (onEach reusable)
      | ['P'] =>
        match found with
        | .missing => show_ .missing
        | .text cs => do show_ (.text (← prompt fuel cs))
        | .texts joined items => do
          let mut out : List Text := []
          for cs in items do out := (← prompt fuel cs) :: out
          show_ (.texts joined out.reverse)
      | cs =>
        if found == .missing then show_ .missing
        else
          let place := match index with
            | some w => '[' :: Part.characters w ++ [']']
            | none => []
          Script.dropLine ('$' :: Parser.openBrace :: name ++ place ++ '@' :: cs ++
            Parser.closeBrace :: ": bad substitution".toList)
    | .keys =>
      let items ← entries name
      let joined := (allItems? index).getD false
      show_ (.texts joined (items.map (·.1)))
    | .names =>
      let joined := (allItems? index).getD false
      let names := (s.variables_.map (·.name)).filter (name.isPrefixOf ·)
      show_ (.texts joined (names.mergeSort fun a b => String.ofList a ≤ String.ofList b))
    | .bad cs =>
      if isExtended then
        Script.dropLine ('$' :: Parser.openBrace :: cs ++ Parser.closeBrace ::
          ": bad substitution".toList)
      else Script.abort "Bad substitution".toList
where
  /-- A variable as the declaration that makes it what it is. -/
  asDeclaration (name : Text) (v : Option Variable) (all : Bool) (found : Found) :
      Script Found := do
    if name = ['@'] || name = ['*'] then
      return match found with
        | .texts joined items => .texts joined ("set".toList :: "--".toList :: items.map reusable)
        | f => f
    match v with
    | none =>
      return match found with
        | .text cs => .text (name ++ '=' :: reusable cs)
        | f => f
    | some v =>
      let letters := Script.attributes v
      let front := if letters.isEmpty then [] else ["declare".toList, '-' :: letters]
      let whole (words : List Text) (joined : Bool) : Found :=
        if all then .texts joined words else .text (List.intercalate [' '] words)
      let joined : Bool := match found with
        | .texts joined _ => joined
        | _ => true
      match found, v.value, all with
      | .missing, _, _ => return if letters.isEmpty then .missing else whole (front ++ [name]) true
      | _, some value, true =>
        if v.pending then return whole (front ++ [name]) joined
        return whole (front ++ [name ++ '=' :: '(' :: Script.shownList value ++ [')']]) joined
      | .text cs, _, _ => return whole (front ++ [name ++ '=' :: reusable cs]) true
      | f, _, _ => return f
  /-- A part of a text, or some of several texts. -/
  slice (name : Text) (index : Option Word) (found : Found) (start : Int) (count : Option Int)
      (show_ : Found → Script (List Piece)) : Script (List Piece) := do
    match found with
    | .missing => show_ .missing
    | .text cs =>
      let n : Int := cs.length
      let first := if start < 0 then start + n else start
      if first < 0 || first > n then show_ (.text [])
      else
        let last := match count with
          | none => n
          | some c => if c < 0 then n + c else min n (first + c)
        if last < first then
          Script.dropLine (ofString (toString (count.getD 0)) ++
            ": substring expression < 0".toList)
        else show_ (.text ((cs.drop first.toNat).take (last - first).toNat))
    | .texts joined items =>
      let isArguments := name = ['@'] || name = ['*']
      let numbered ← if isArguments then do
          pure (((← get).name :: items).zipIdx.map fun (cs, n) => (n, cs))
        else if index.isSome then do pure ((← listOf name).getD [])
        else pure []
      let size : Int := Script.sizeOf numbered
      let first := if start < 0 then start + size else start
      let numbered := if isArguments && start > 0 then numbered.drop 1 else numbered
      let rest := if first < 0 then [] else (numbered.filter fun i => (i.1 : Int) ≥ first).map (·.2)
      show_ (.texts joined (match count with
        | none => rest
        | some c => rest.take c.toNat))

end

/-- A bound on the depth of words. -/
def depth : Nat := 1000000

def pieces (cuts assigns : Bool) (w : Word) : Script (List Piece) := do
  word run depth { cuts } (← withTildes assigns depth w)

/-! ### Fields -/

open FileNames (Field)

def isBlank (c : Char) : Bool := c = ' ' || c = '\t' || c = '\n'

/-- Cuts pieces into fields; `field` is the present one, last character first, and `ended`
tells that blanks have just ended one. -/
def cutFields (isSeparator : Char → Bool) : Option Field → Bool → List Piece → List Field
  | none, _, [] => []
  | some f, _, [] => [f.reverse]
  | field, ended, .glyph c quoted split :: ps =>
    if split && isSeparator c then
      match field with
      | some f => f.reverse :: cutFields isSeparator none (isBlank c) ps
      | none =>
        if isBlank c then cutFields isSeparator none ended ps
        else if ended then cutFields isSeparator none false ps
        else [] :: cutFields isSeparator none false ps
    else cutFields isSeparator (some ((c, quoted) :: field.getD [])) false ps
  | field, _, .mark :: ps => cutFields isSeparator (some (field.getD [])) false ps
  | field, _, .cut :: ps =>
    match field with
    | some f => f.reverse :: cutFields isSeparator none false ps
    | none => cutFields isSeparator none false ps

/-- The fields of a word. -/
def fieldsOf (w : Word) : Script (List Text) := do
  let s ← get
  let words := if s.dialect == .extended && s.options.contains "braceexpand" then Braces.expand w
    else [w]
  let ifs ← separators
  let mut out : List (List Text) := []
  for w in words do
    for f in cutFields (ifs.contains ·) none false (← pieces run true false w) do
      out := (← FileNames.describedBy f) :: out
  return out.reverse.flatten

/-- The fields of a word in which no file names are looked for. -/
def bareFields (w : Word) : Script (List Text) := do
  let ifs ← separators
  let fs := cutFields (ifs.contains ·) none false (← pieces run true false w)
  return fs.map fun f => f.map (·.1)

def fields (ws : List Word) : Script (List Text) := do
  let mut out : List (List Text) := []
  for w in ws do out := (← fieldsOf run w) :: out
  return out.reverse.flatten

/-- A word that is not cut into fields. -/
def single (w : Word) : Script Text := do return textOf (← pieces run false false w)

/-- The value of an assignment. -/
def assigned (w : Word) : Script Text := do return textOf (← pieces run false true w)

def pattern (groups : Bool) (w : Word) : Script Pattern := do
  return patternOf groups (← pieces run false false w)

end

end CellRunner.Shell.Expand
