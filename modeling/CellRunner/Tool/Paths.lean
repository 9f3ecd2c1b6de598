import CellRunner.Tool.Mode

/-!
# Paths and their parts
-/

set_option autoImplicit false

namespace CellRunner.Tool

open Machine (Prog FileInfo)
open Shell (Text ofString asName)

namespace Paths

def isSlash (c : Char) : Bool := c = '/'

/-- A path without slashes at its end. -/
def trimmed (path : Text) : Text := (path.reverse.dropWhile isSlash).reverse

/-- The last name in a path. -/
def lastName (path : Text) : Text :=
  let cs := trimmed path
  if cs.isEmpty then path.take 1 else (cs.reverse.takeWhile (!isSlash ·)).reverse

/-- A path without its last name. -/
def parent (path : Text) : Text :=
  let front := ((path.reverse.dropWhile isSlash).dropWhile (!isSlash ·)).dropWhile isSlash
  if !front.isEmpty then front.reverse
  else if path.head? = some '/' then ['/']
  else ['.']

/-- A name without an ending, unless nothing else is left. -/
def withoutEnding (ending name : Text) : Text :=
  if ending.isSuffixOf name && ending.length < name.length then
    name.take (name.length - ending.length)
  else name

/-- The names in a path. -/
def names (path : Text) : List Text := ((Machine.Files.names (asName path))).map ofString

/-- How much of a path has to be there. -/
inductive Strictness where
  | whole
  | allButLast
  | nothing
  deriving DecidableEq, Repr

def joined (ns : List Text) : Text := ns.reverse.flatMap ('/' :: ·)

/-- The path without links that names lead to, where `done` holds the names so far, the last
one first; `fuel` bounds the names and links. -/
def follow (s : Strictness) : Nat → List Text → List Text → Run (Except SystemError (List Text))
  | 0, _, _ => return .error .tooManyLinks
  | _ + 1, done, [] => return .ok done
  | fuel + 1, done, n :: rest => do
    if n = ['.'] then follow s fuel done rest
    else if n = ['.', '.'] then follow s fuel (done.drop 1) rest
    else
      let path := joined (n :: done)
      match ← ownInfoOf path with
      | .error e =>
        if s == .nothing || (s == .allButLast && rest.isEmpty && e = .noEntry) then
          follow s fuel (n :: done) rest
        else return .error e
      | .ok info =>
        if info.kind == .link then
          match ← ask (.readLink (asName path)) with
          | .ok target =>
            let target := ofString target
            follow s fuel (if target.head? = some '/' then [] else done) (names target ++ rest)
          | .error e => return .error e
        else if !rest.isEmpty && !info.isDirectory && s != .nothing then
          return .error .notDirectory
        else follow s fuel (n :: done) rest

def mostSteps : Nat := 2000

/-- The path from the root, without links. -/
def full (s : Strictness) (path : Text) : Run (Except SystemError Text) := do
  if path.isEmpty then return .error .noEntry
  let start ← if path.head? = some '/' then pure [] else do
    match ← ask (.fullPath ".") with
    | .ok cwd => pure (names (ofString cwd)).reverse
    | .error _ => pure []
  match ← follow s mostSteps start (names path) with
  | .error e => return .error e
  | .ok [] => return .ok ['/']
  | .ok ns =>
    if path.getLast? = some '/' && s != .nothing then
      match ← infoOf (joined ns) with
      | .ok info => return if info.isDirectory then .ok (joined ns) else .error .notDirectory
      | .error e => return if s == .whole then .error e else .ok (joined ns)
    else return .ok (joined ns)

/-- A path from one directory to another. -/
def relative (source target : Text) : Text :=
  let a := names source
  let b := names target
  let rec common : List Text → List Text → Nat
    | x :: xs, y :: ys => if x = y then common xs ys + 1 else 0
    | _, _ => 0
  let n := common a b
  let parts := List.replicate (a.length - n) ['.', '.'] ++ b.drop n
  if parts.isEmpty then ['.'] else List.intercalate ['/'] parts

end Paths

open Paths in
def basename : Tool := do
  let (os, operands) ← readOptions <| .make "as:z"
    [("multiple", 'a'), ("suffix", 's'), ("zero", 'z')] true
  let mark := if has "z" os then '\x00' else '\n'
  if operands.isEmpty then misuse "missing operand".toList
  if has "as" os then
    for path in operands do
      out (withoutEnding ((valueOf? 's' os).getD []) (lastName path) ++ [mark])
    return 0
  else
    atMost 2 operands
    out (withoutEnding (operands.getD 1 []) (lastName (operands.headD [])) ++ [mark])
    return 0

open Paths in
def dirname : Tool := do
  let (os, operands) ← readOptions <| .make "z" [("zero", 'z')]
  if operands.isEmpty then misuse "missing operand".toList
  for path in operands do out (parent path ++ [if has "z" os then '\x00' else '\n'])
  return 0

open Paths in
def readlink : Tool := do
  let (os, operands) ← readOptions <| .make "efmnqsvz"
    [("canonicalize-existing", 'e'), ("canonicalize", 'f'), ("canonicalize-missing", 'm'),
      ("no-newline", 'n'), ("quiet", 'q'), ("silent", 's'), ("verbose", 'v'), ("zero", 'z')]
  if operands.isEmpty then misuse "missing operand".toList
  let mark : Text := if has "n" os && operands.length = 1 then []
    else [if has "z" os then '\x00' else '\n']
  forEach operands fun path => do
    let r ← match lastOf? "efm" os with
      | none => do pure ((← ask (.readLink (asName path))).map ofString)
      | some 'e' => full .whole path
      | some 'f' => full .allButLast path
      | some _ => full .nothing path
    match r with
    | .ok cs =>
      out (cs ++ mark)
      return 0
    | .error e =>
      if lastOf? "qsv" os = some 'v' then complainOf path e
      return 1

open Paths in
def realpath : Tool := do
  let (os, operands) ← readOptions <| .make "eLmPqsz\x01:\x02:"
    [("canonicalize-existing", 'e'), ("canonicalize-missing", 'm'), ("logical", 'L'),
      ("physical", 'P'), ("quiet", 'q'), ("no-symlinks", 's'), ("strip", 's'), ("zero", 'z'),
      ("relative-to", '\x01'), ("relative-base", '\x02')]
  if operands.isEmpty then misuse "missing operand".toList
  let s : Strictness := match lastOf? "em" os with
    | some 'e' => .whole
    | some _ => .nothing
    | none => .allButLast
  let mark := if has "z" os then '\x00' else '\n'
  let base ← match valueOf? '\x01' os with
    | none => pure none
    | some b => do
      match ← full s b with
      | .ok cs => pure (some cs)
      | .error e => fail (because (beforeColon b) e)
  forEach operands fun path => do
    match ← full s path with
    | .ok cs =>
      out ((match base with
        | some b => relative b cs
        | none => cs) ++ [mark])
      return 0
    | .error e =>
      if !has "q" os then complainOf path e
      return 1

namespace Paths

/-- Whether a path leads to a program that the user may run. -/
def isRunnable (path : Text) : Run Bool := do
  match ← infoOf path with
  | .ok info => return info.kind == .file && info.allows Machine.Files.searching
  | .error _ => return false

/-- The places where a program may be, given the directories to look in. -/
def placesOf (dirs : List Text) (name : Text) : List Text :=
  if name.contains '/' then [name]
  else dirs.map fun d => (if d.isEmpty then ['.'] else d) ++ '/' :: name

end Paths

open Paths in
def which : Tool := do
  let given ← arguments
  let isOption (a : Text) : Bool := a.head? = some '-' && a.length > 1 && a != ['-', '-']
  let letters := ((given.takeWhile isOption).map (·.drop 1)).flatten
  let names := given.dropWhile isOption
  let names := if names.head? = some ['-', '-'] then names.drop 1 else names
  let isSilent := letters.contains 's'
  if let some c := letters.find? fun c => c != 'a' && c != 's' then
    tell ("Illegal option -".toList ++ [c])
    if !(letters.takeWhile (· != c)).contains 's' then
      out ("Usage: /usr/bin/which [-as] args\n".toList)
    return 2
  if names.isEmpty then return 1
  let path := (← setting? "PATH").getD []
  let dirs := if path.isEmpty then [] else ((String.ofList path).splitOn ":").map String.toList
  forEach names fun name => do
    let found ← (placesOf dirs name).filterM isRunnable
    let shown := if letters.contains 'a' then found else found.take 1
    if !isSilent then
      for place in shown do out (place ++ ['\n'])
    return if found.isEmpty then 1 else 0

end CellRunner.Tool
