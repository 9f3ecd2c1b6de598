import CellRunner.Shell.Builtin.Basic

/-!
# Reading lines into variables

A line is read byte by byte, so that what follows it is left for other programs.
-/

set_option autoImplicit false

namespace CellRunner.Shell.Builtin

open Machine (Prog)

/-- A character, and whether a backslash stood before it. -/
abbrev Marked := Char × Bool

structure LineForm where
  descriptor : Nat := 0
  /-- whether backslashes have no meaning -/
  raw : Bool := false
  stop : Char := '\n'
  /-- how many characters are read at most -/
  limit : Option Nat := none

/-- The line that is read next, last character first, and whether the input ended; `count` is
the number of characters so far. -/
def readLine (f : LineForm) : Nat → Nat → List Marked → Prog (List Marked × Bool)
  | 0, _, out => pure (out, true)
  | fuel + 1, count, out => do
    if f.limit = some count then return (out, false)
    match ← Prog.ask (.read f.descriptor 1) with
    | .ok [b] =>
      let c := Char.ofNat b.toNat
      if c = f.stop then pure (out, false)
      else if c = '\\' && !f.raw then
        match ← Prog.ask (.read f.descriptor 1) with
        | .ok [d] =>
          let d := Char.ofNat d.toNat
          if d = '\n' then readLine f fuel count out
          else readLine f fuel (count + 1) ((d, true) :: out)
        | _ => pure (out, true)
      else if b = 0 then readLine f fuel count out
      else readLine f fuel (count + 1) ((c, false) :: out)
    | _ => pure (out, true)

/-- How lines are cut into fields. -/
structure Cutter where
  /-- blanks that count once, however many -/
  isBlank : Marked → Bool
  isOther : Marked → Bool
  /-- what the last field cannot end with -/
  isLast : Marked → Bool

def Cutter.ends (x : Cutter) (c : Marked) : Bool := x.isBlank c || x.isOther c

def cutter (d : Dialect) (ifs : Text) : Cutter :=
  let blank (c : Char) : Bool := c = ' ' || c = '\t' || c = '\n'
  { isBlank := fun (c, q) => !q && ifs.contains c && blank c
    isOther := fun (c, q) => !q && ifs.contains c && !blank c
    isLast := fun (c, q) => (!q || d == .extended) && ifs.contains c && blank c }

/-- What follows a field: blanks and one other separator go with it. -/
def Cutter.after (x : Cutter) (cs : List Marked) : List Marked :=
  match (cs.dropWhile (!x.ends ·)).dropWhile x.isBlank with
  | c :: rest => if x.isOther c then rest.dropWhile x.isBlank else c :: rest
  | [] => []

def Cutter.field (x : Cutter) (cs : List Marked) : Text :=
  (cs.takeWhile (!x.ends ·)).map (·.1)

/-- All that is left of a line; the separator after a single field goes, and so do blanks at
the end. -/
def Cutter.rest (x : Cutter) (cs : List Marked) : Text :=
  if (x.after cs).isEmpty then x.field cs
  else ((cs.reverse.dropWhile x.isLast).reverse).map (·.1)

/-- All fields of a line; `fuel` bounds their number. -/
def Cutter.fields (x : Cutter) : Nat → List Marked → List Text
  | 0, _ => []
  | _ + 1, [] => []
  | fuel + 1, cs => x.field cs :: x.fields fuel (x.after cs)

/-- Gives the fields of a line to variables, the last of which gets all that remains; whether
all of them could be changed. -/
def giveFields (x : Cutter) : List Text → List Marked → Script Bool
  | [], _ => return true
  | [name], cs => Script.assign? name (x.rest cs)
  | name :: names, cs => do
    if ← Script.assign? name (x.field cs) then giveFields x names (x.after cs) else return false

def readUsage : String :=
  "read: usage: read [-ers] [-a array] [-d delim] [-i text] [-n nchars] [-N nchars] [-p prompt] " ++
    "[-t timeout] [-u fd] [name ...]"

def read (args : List Text) : Script Nat := do
  let isExtended ← Script.isExtended
  let letters := if isExtended then "ers" else "r"
  let valued := if isExtended then "adinNptu" else "p"
  withOptions letters valued readUsage args fun options names => do
    let number (c : Char) : Option Nat := (valueOf c options).map Format.decimal
    if names.isEmpty && !isExtended then Script.abort "arg count".toList
    for name in names do
      if isExtended && !Parser.isName (name.takeWhile (· != '[')) then
        Script.refuse (Parser.inMarks name ++ ": not a valid identifier".toList)
        return 1
    let stop := match valueOf 'd' options with
      | some cs => cs.headD (Char.ofNat 0)
      | none => '\n'
    let exact := number 'N'
    let form : LineForm :=
      { descriptor := (number 'u').getD 0, raw := has 'r' options, limit := exact <|> number 'n'
        stop := if exact.isSome then Char.ofNat 256 else stop }
    let (reversed, ended) ← Script.run (readLine form Prog.fuel 0 [])
    let line := reversed.reverse
    let ifs ← Expand.separators
    let x := cutter (← get).dialect (if exact.isSome then [] else ifs)
    let trimmed := line.dropWhile x.isBlank
    let done ← match valueOf 'a' options with
      | some name =>
        let items := x.fields (trimmed.length + 1) trimmed
        Variables.giveList name false (items.map fun cs => (none, cs))
      | none =>
        if names.isEmpty then Script.assign? "REPLY".toList (line.map (·.1))
        else giveFields x names trimmed
    return if ended || !done then 1 else 0

/-- The lines that are read up to the end, last one first; each keeps its end. -/
def readLines (f : LineForm) : Nat → List Text → Prog (List Text)
  | 0, out => pure out
  | fuel + 1, out => do
    if f.limit = some out.length then return out
    let (reversed, ended) ← readLine { f with limit := none } Prog.fuel 0 []
    let line := (reversed.map (·.1)).reverse
    if ended then return if line.isEmpty then out else line :: out
    else readLines f fuel ((line ++ [f.stop]) :: out)

def mapfile (args : List Text) : Script Nat := do
  withOptions "t" "dnOscCu"
    "mapfile: usage: mapfile [-d delim] [-n count] [-O origin] [-s count] [-t] [-u fd] [-C callback] [-c quantum] [array]"
    args fun options names => do
      let number (c : Char) : Nat := ((valueOf c options).map Format.decimal).getD 0
      let name := names.headD "MAPFILE".toList
      if !Parser.isName name then
        Script.refuse (Parser.inMarks name ++ ": not a valid identifier".toList)
        return 1
      let stop := match valueOf 'd' options with
        | some cs => cs.headD (Char.ofNat 0)
        | none => '\n'
      let skipped := number 's'
      let limit := if number 'n' = 0 then none else some (number 'n' + skipped)
      let lines ← Script.run (readLines
        { descriptor := number 'u', raw := true, stop, limit } Prog.fuel [])
      let strip (cs : Text) : Text :=
        if (has 't' options || stop.toNat = 0) && cs.getLast? = some stop then cs.dropLast else cs
      let items := (lines.reverse.drop skipped).map strip
      let origin := number 'O'
      let keeps := (valueOf 'O' options).isSome
      let indexed := items.zipIdx.map fun (cs, n) =>
        (if keeps then some (Script.decimal (origin + n)) else none, cs)
      let done ← Variables.giveList name keeps indexed
      return if done then 0 else 1

end CellRunner.Shell.Builtin
