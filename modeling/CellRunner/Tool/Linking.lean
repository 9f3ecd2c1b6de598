import CellRunner.Tool.Copying

/-!
# Links

A file gets another name, or a link that leads to it.
-/

set_option autoImplicit false

namespace CellRunner.Tool

open Machine (FileInfo)
open Shell (Text asName)

namespace Linking

structure Style where
  soft : Bool := false
  force : Bool := false
  asks : Bool := false
  tells : Bool := false
  /-- whether a symbolic link tells the way from where it is -/
  relative : Bool := false
  /-- whether the file that a link leads to gets the name -/
  follows : Bool := false
  backup : Option Backup.Naming := none

/-- Makes the link, if nothing is in the way or it may be replaced. -/
def put (s : Style) (source target : Text) (replaces : Bool) : Run (Except SystemError Unit) := do
  if s.soft then Copying.putLink source target replaces
  else return (← Copying.putName source target s.follows replaces).map fun _ => ()

/-- What is done about a file in the way: whether it is replaced, and its backup; none if
nothing may be done. -/
def clear (s : Style) (source target : Text) (info : Option FileInfo) :
    Run (Option (Bool × Option Text)) := do
  match ← ownInfoOf target with
  | .error .noEntry => return some (false, none)
  | .error e =>
    let _ ← cannot "failed to access" target e
    return none
  | .ok old =>
    if old.isDirectory then
      complain (beforeColon target ++ ": cannot overwrite directory".toList)
      return none
    if s.backup.isNone then
      let info ← if s.soft then do pure (← infoOf source).toOption else pure info
      if info.any (Copying.isSame old) then
        let oneName ← if old.names = 1 then pure true else Copying.isSameEntry source target
        if oneName then
          complain (named source ++ " and ".toList ++ named target ++
            " are the same file".toList)
          return none
    if s.asks then
      if !(← Tree.agrees ("replace ".toList ++ named target)) then return none
    match s.backup with
    | none => return some (true, none)
    | some naming =>
      match ← Backup.make naming target with
      | .ok name => return some (true, some name)
      | .error .noEntry => return some (true, none)
      | .error e =>
        let _ ← cannot "cannot backup" target e
        return none

def tellFailed (s : Style) (source target : Text) (e : SystemError) : Run Nat := do
  let what := if s.soft then "failed to create symbolic link " else "failed to create hard link "
  let isBrief := if s.soft then e != .nameTooLong && !source.isEmpty
    else e == .exists || e == .noSpace || e == .readOnly
  if isBrief then complain (what.toList ++ because (named target) e)
  else
    complain (what.toList ++ named target ++ (if s.soft then " -> " else " => ").toList ++
      because (named source) e)
  return 1

/-- Makes one link. -/
def link (s : Style) (source target : Text) : Run Nat := do
  let first ← if s.soft && s.relative then pure (.error .exists) else put s source target false
  let shown (source : Text) (backup : Option Text) : Run Nat := do
    if s.tells then
      let front := match backup with
        | some b => named b ++ " ~ ".toList
        | none => []
      out (front ++ named target ++ (if s.soft then " -> " else " => ").toList ++ named source ++
        ['\n'])
    return 0
  match first with
  | .ok () => shown source none
  | .error _ =>
    let info ← if s.soft then pure none else do
      match ← if s.follows then infoOf source else ownInfoOf source with
      | .ok info => pure (some info)
      | .error e => return ← cannot "failed to access" source e
    if info.any (·.isDirectory) then
      complain (beforeColon source ++ ": hard link not allowed for directory".toList)
      return 1
    let content ← if !s.relative then pure source else do
      match ← Paths.full .nothing source, ← Paths.full .nothing (Paths.parent target) with
      | .ok a, .ok b => pure (Paths.relative b a)
      | _, _ => pure source
    let mayForce := s.force || s.asks || s.backup.isSome
    let cleared ← if mayForce then clear s source target info else pure (some (false, none))
    match cleared with
    | none => return 1
    | some (replaces, backup) =>
      match ← put s content target replaces with
      | .ok () => shown content backup
      | .error e => tellFailed s content target e

end Linking

open Linking in
def ln : Tool := do
  let (os, operands) ← readOptions <| .make "bdfFinLPrsS:t:Tv\x04::"
    [("backup", '\x04'), ("directory", 'F'), ("force", 'f'), ("interactive", 'i'),
      ("logical", 'L'), ("no-dereference", 'n'), ("no-target-directory", 'T'),
      ("physical", 'P'), ("relative", 'r'), ("suffix", 'S'), ("symbolic", 's'),
      ("target-directory", 't'), ("verbose", 'v')]
  if operands.isEmpty then misuse "missing file operand".toList
  let directory := valueOf? 't' os
  if has "r" os && !has "s" os then fail "cannot do --relative without --symbolic".toList
  if has "T" os then
    if directory.isSome then
      fail "cannot combine --target-directory and --no-target-directory".toList
    match operands with
    | [only] => misuse ("missing destination file operand after ".toList ++ quoted only)
    | _ :: _ :: extra :: _ => misuse ("extra operand ".toList ++ quoted extra)
    | _ => pure ()
  let backup ← Backup.ofOptions 'b' '\x04' 'S' os
  let s : Style :=
    { soft := has "s" os, force := lastOf? "fi" os = some 'f', asks := lastOf? "fi" os = some 'i'
      tells := has "v" os, relative := has "r" os, follows := lastOf? "LP" os = some 'L', backup }
  let into (dir : Text) (sources : List Text) : Run Nat :=
    forEach sources fun source => Linking.link s source (within dir (Paths.lastName source))
  /- whether a path leads to a directory that links can go into -/
  let takesLinks (path : Text) : Run (Except SystemError Unit) := do
    match ← if has "n" os then ownInfoOf path else infoOf path with
    | .ok info => return if info.isDirectory then .ok () else .error .notDirectory
    | .error e => return .error e
  match directory, operands with
  | some dir, sources =>
    match ← takesLinks dir with
    | .ok () => into dir sources
    | .error e => fail ("target ".toList ++ because (named dir) e)
  | none, [only] =>
    into ['.'] [only]
  | none, [source, target] =>
    let isTarget ← if has "T" os then pure false else do pure (← takesLinks target).isOk
    if isTarget then into target [source] else Linking.link s source target
  | none, operands =>
    let dir := operands.getLastD []
    match ← takesLinks dir with
    | .ok () => into dir operands.dropLast
    | .error e => fail ("target ".toList ++ because (named dir) e)

end CellRunner.Tool
