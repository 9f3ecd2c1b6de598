import CellRunner.Shell.Pattern
import CellRunner.Shell.State

/-!
# Names of files that patterns describe

A pattern is matched a name at a time, from left to right. Two stars that are all of a name stand
for any number of directories inside one another where that is asked for.
-/

set_option autoImplicit false

namespace CellRunner.Shell.FileNames

/-- What a word gives, with its quoting. -/
abbrev Field := List Glyph

def hasPattern (groups : Bool) (f : Field) : Bool :=
  f.any (fun (c, q) => !q && (c = '*' || c = '?' || c = '[')) ||
    (groups && (f.zip (f.drop 1)).any fun (a, b) =>
      !a.2 && (Pattern.often? a.1).isSome && b = ('(', false))

/-- A name in a path pattern. -/
structure Component where
  field : Field
  /-- how many slashes follow -/
  slashes : Nat
  deriving DecidableEq, Repr

/-- The characters up to the next slash that is not inside a group, the last one first, and the
rest; `depth` counts the groups that are open. -/
def upToSlash (groups : Bool) : Nat → Field → Field → Field × Field
  | _, name, [] => (name, [])
  | depth, name, g :: rest =>
    if g.1 = '/' && depth = 0 then (name, g :: rest)
    else
      let opens := groups && g = ('(', false) &&
        (depth > 0 || (name.head?.any fun b => !b.2 && (Pattern.often? b.1).isSome))
      let depth := if opens then depth + 1 else if g = (')', false) then depth - 1 else depth
      upToSlash groups depth (g :: name) rest

/-- The names in a path pattern, from left to right; `fuel` bounds their number. -/
def components (groups : Bool) : Nat → Field → List Component
  | 0, _ => []
  | _ + 1, [] => []
  | fuel + 1, f =>
    let (name, rest) := upToSlash groups 0 [] f
    let slashes := (rest.takeWhile (·.1 = '/')).length
    ⟨name.reverse, slashes⟩ :: components groups fuel (rest.drop slashes)

def isThere (path : Text) : Script Bool := do
  return (← Script.ask (.stat (asName path) false)).toOption.isSome

def isDirectory (path : Text) : Script Bool := do
  match ← Script.ask (.stat (asName path) true) with
  | .ok info => return info.isDirectory
  | .error _ => return false

/-- What patterns mean to a shell. -/
structure Manner where
  groups : Bool := false
  /-- whether names that begin with a dot are hidden -/
  hidesDots : Bool := true
  /-- whether the directory itself and the one above it count as names -/
  listsSelf : Bool := true
  ignoresCase : Bool := false
  /-- whether two stars lead into directories -/
  isDeep : Bool := false
  /-- patterns of names that are left out -/
  hidden : List Text := []

/-- The manner that the options of a shell ask for. -/
def manner : Script Manner := do
  let s ← get
  let hidden := (← Script.lookup "GLOBIGNORE".toList).getD []
  if s.dialect == .plain then return {}
  return {
    groups := s.features.contains "extglob"
    hidesDots := !s.features.contains "dotglob" && hidden.isEmpty
    listsSelf := !s.features.contains "globskipdots" && hidden.isEmpty
    ignoresCase := s.features.contains "nocaseglob"
    isDeep := s.features.contains "globstar"
    hidden := if hidden.isEmpty then [] else (String.ofList hidden).splitOn ":" |>.map String.toList }

/-- Whether a pattern asks for names that begin with a dot. -/
def asksForDot (groups : Bool) (f : Field) : Bool :=
  let startsWithDot (f : Field) : Bool := f.head?.any (·.1 = '.')
  startsWithDot f ||
    match groups, f with
    | true, (c, false) :: ('(', false) :: inner =>
      match Pattern.often? c, Pattern.alternatives 0 inner [] with
      | some .never, _ => false
      | some _, some (as, _) => as.any startsWithDot
      | _, _ => false
    | _, _ => false

/-- The names in a directory that a pattern describes. -/
def namesLike (m : Manner) (dir : Text) (f : Field) : Script (List Text) := do
  match ← Script.ask (.list (asName (if dir.isEmpty then ['.'] else dir))) with
  | .error _ => return []
  | .ok names =>
    let lower (cs : Text) : Text := if m.ignoresCase then cs.map Char.toLower else cs
    let f := if m.ignoresCase then f.map fun x => (x.1.toLower, x.2) else f
    let p := Pattern.ofGlyphs m.groups (f.length + 1) f
    let dotted := asksForDot m.groups f
    let names := (if m.listsSelf then [".", ".."] else []) ++ names
    return (names.map ofString).filter fun n =>
      (n.head? != some '.' || dotted || (!m.hidesDots && n != ['.'] && n != "..".toList)) &&
        p.describes (lower n)

/-- The paths below a directory, each with whether it is a directory itself; links are not
followed. `fuel` bounds the depth. -/
def below (m : Manner) : Nat → Text → Script (List (Text × Bool))
  | 0, _ => return []
  | fuel + 1, front => do
    let mut out : List (List (Text × Bool)) := []
    for n in ← namesLike m front [('*', false)] do
      let path := front ++ n
      match ← Script.ask (.stat (asName path) false) with
      | .error _ => pure ()
      | .ok info =>
        out := [(path, info.isDirectory)] :: out
        if info.isDirectory then out := (← below m fuel (path ++ ['/'])) :: out
    return out.reverse.flatten

/-- A bound on the depth of directories. -/
def greatestDepth : Nat := 4096

def isStars (c : Component) : Bool := c.field = [('*', false), ('*', false)]

/-- Names of two stars in a row are one. -/
def merged : List Component → List Component
  | a :: b :: rest => if isStars a && isStars b then merged (b :: rest) else a :: merged (b :: rest)
  | cs => cs

/-- The paths that a pattern describes, each beginning with `front`; `isPlain` tells whether the
front itself is no pattern. -/
def pathsLike (m : Manner) (isPlain : Bool) (front : Text) : List Component → Script (List Text)
  | [] => return [front]
  | c :: rest => do
    let after := List.replicate c.slashes '/'
    let isLast := rest.isEmpty && c.slashes = 0
    if m.isDeep && isStars c then
      if !front.isEmpty && !(← isDirectory front) then return []
      let inner ← below m greatestDepth front
      let itself : List Text := if front.isEmpty then [] else [front]
      if isLast then
        let itself := if isPlain then itself else itself.map fun path =>
          (path.reverse.dropWhile (· = '/')).reverse
        return itself ++ inner.map (·.1)
      else if rest.isEmpty then
        let dirs ← inner.filterM fun (path, isDir) => do return isDir || (← isDirectory path)
        return itself ++ dirs.map (·.1 ++ after)
      else
        let dirs ← inner.filterM fun (path, isDir) => do
          if isDir then return true
          else if front.isEmpty then return false
          else isDirectory path
        let mut out : List (List Text) := [← pathsLike m false front rest]
        for d in dirs do out := (← pathsLike m false (d.1 ++ after) rest) :: out
        return out.reverse.flatten
    else if hasPattern m.groups c.field then
      let mut out : List (List Text) := []
      for n in ← namesLike m front c.field do
        let path := front ++ n
        if isLast then out := [path] :: out
        else if ← isDirectory path then out := (← pathsLike m false (path ++ after) rest) :: out
      return out.reverse.flatten
    else
      let path := front ++ c.field.map (·.1)
      if isLast then return if ← isThere path then [path] else []
      else if rest.isEmpty then return if ← isDirectory path then [path ++ after] else []
      else pathsLike m isPlain (path ++ after) rest

/-- Whether a path is left out. -/
def isHidden (m : Manner) (path : Text) : Bool :=
  let names (cs : Text) : List Text := ((String.ofList cs).splitOn "/").map String.toList
  let like (p n : Text) : Bool :=
    (Pattern.ofGlyphs m.groups (p.length + 1) (p.map (·, false))).describes n
  m.hidden.any fun p =>
    (names p).length = (names path).length && ((names p).zip (names path)).all fun (p, n) => like p n

/-- The paths that a field describes; else the field itself. -/
def describedBy (f : Field) : Script (List Text) := do
  let text := f.map (·.1)
  let m ← manner
  if !hasPattern m.groups f || (← Script.isOn "noglob") then return [text]
  let parts := components m.groups (f.length + 1) f
  let found ← pathsLike m true [] (if m.isDeep then merged parts else parts)
  let found := (found.filter (!isHidden m ·)).mergeSort fun a b =>
    String.ofList a ≤ String.ofList b
  if !found.isEmpty then return found
  else if ← Script.hasFeature "failglob" then
    Script.dropLine ("no match: ".toList ++ text)
  else return if ← Script.hasFeature "nullglob" then [] else [text]

end CellRunner.Shell.FileNames
