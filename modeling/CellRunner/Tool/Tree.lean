import CellRunner.Tool.Paths

/-!
# Making and removing directories, and removing files
-/

set_option autoImplicit false

namespace CellRunner.Tool

open Machine (Prog FileInfo)
open Shell (Text ofBytes ofString asName)

namespace Tree

/-- A line of the standard input, read a byte at a time so that nothing after it is lost. -/
def answerFrom : Nat → Text → Run Text
  | 0, cs => return cs.reverse
  | fuel + 1, cs => do
    match ← ask (.read 0 1) with
    | .ok [b] => if b = 10 then return cs.reverse else answerFrom fuel (ofBytes [b] ++ cs)
    | _ => return cs.reverse

/-- Whether the answer to a question is yes. -/
def agrees (question : Text) : Run Bool := do
  let name := (← get).call.name
  let _ ← run (Prog.put 2 (Shell.toBytes (name ++ ": ".toList ++ question ++ "? ".toList)))
  let answer ← answerFrom Prog.fuel []
  return answer.head? = some 'y' || answer.head? = some 'Y'

/-- What kind of file it is, in words. -/
def kindOf (info : FileInfo) : Text :=
  match info.kind with
  | .file => (if info.size = 0 then "regular empty file" else "regular file").toList
  | .directory => "directory".toList
  | .link => "symbolic link".toList
  | .pipe => "fifo".toList
  | .device => "character special file".toList

structure Removing where
  recursive : Bool
  force : Bool
  asks : Bool
  empty : Bool
  tells : Bool

/-- What came of removing a file. -/
inductive Removal where
  | done
  /-- the user did not want it -/
  | declined
  | failed
  deriving DecidableEq, Repr

def Removal.code : Removal → Nat
  | .failed => 1
  | _ => 0

def unremoved (path : Text) (e : SystemError) : Run Removal := do
  let _ ← cannot "cannot remove" path e
  return .failed

/-- Removes a directory; `unreadable` tells why it could not be read. -/
def removeEmptied (r : Removing) (path : Text) (unreadable : Option SystemError) : Run Removal := do
  match ← ask (.removeDirectory (asName path)) with
  | .ok () =>
    if r.tells then out ("removed directory ".toList ++ named path ++ ['\n'])
    return .done
  | .error e => unremoved path (if e = .notEmpty then unreadable.getD e else e)

/-- Removes a file, or a directory with all in it; a directory of which something stays is left
alone. `fuel` bounds the depth. -/
def remove (r : Removing) : Nat → Text → Run Removal
  | 0, _ => return .failed
  | fuel + 1, path => do
    match ← ownInfoOf path with
    | .error e =>
      if r.force && (e = .noEntry || e = .notDirectory) then return .done
      else unremoved path e
    | .ok info =>
      if !info.isDirectory then
        if r.asks then
          if !(← agrees ("remove ".toList ++ kindOf info ++ ' ' :: named path)) then
            return .declined
        match ← ask (.unlink (asName path)) with
        | .ok () =>
          if r.tells then out ("removed ".toList ++ named path ++ ['\n'])
          return .done
        | .error e => unremoved path e
      else if !r.recursive && !r.empty then unremoved path .isDirectory
      else
        let listed ← ask (.list (asName path))
        let inner := (listed.toOption.getD []).map Shell.ofString
        let unreadable : Option SystemError :=
          match listed with
          | .error e => some e
          | .ok _ => none
        if !r.recursive && !inner.isEmpty then unremoved path .notEmpty
        else if r.asks && inner.isEmpty then
          if ← agrees ("remove directory ".toList ++ named path) then
            removeEmptied r path unreadable
          else return .declined
        else
          if r.asks then
            if !(← agrees ("descend into directory ".toList ++ named path)) then return .declined
          let results ← inner.mapM fun n => remove r fuel (within path n)
          if results.contains .failed then return .failed
          else if results.contains .declined then return .declined
          else
            if r.asks then
              if !(← agrees ("remove directory ".toList ++ named path)) then return .declined
            removeEmptied r path unreadable

def isDots (path : Text) : Bool :=
  let name := Paths.lastName path
  name = ['.'] || name = ['.', '.']

end Tree

open Tree in
def rm : Tool := do
  let (os, operands) ← readOptions <| .make "dfiIrRv\x01::\x02\x03\x04"
    [("force", 'f'), ("interactive", '\x01'), ("one-file-system", '\x02'),
      ("no-preserve-root", '\x03'), ("preserve-root", '\x04'), ("recursive", 'r'), ("dir", 'd'),
      ("verbose", 'v')]
  let last := lastOf? "fiI\x01" os
  let always := last = some 'i' || (last = some '\x01' &&
    !([some "never".toList, some "no".toList, some "none".toList, some "once".toList].contains
      (valueOf? '\x01' os)))
  let once := last = some 'I' || valueOf? '\x01' os = some "once".toList
  let r : Removing :=
    { recursive := has "rR" os, force := has "f" os && !always, asks := always
      empty := has "d" os, tells := has "v" os }
  if operands.isEmpty then
    if has "f" os then return 0 else misuse "missing operand".toList
  if once && (operands.length > 3 || r.recursive) then
    let n := operands.length
    let question := "remove ".toList ++ ofNat n ++ " argument".toList ++
      (if n > 1 then ['s'] else []) ++ if r.recursive then " recursively".toList else []
    if !(← agrees question) then return 0
  forEach operands fun path => do
    if r.recursive && isDots path then
      complain ("refusing to remove '.' or '..' directory: skipping ".toList ++ named path)
      return 1
    else if r.recursive && !has "\x03" os && !path.isEmpty && path.all Paths.isSlash then
      complain "it is dangerous to operate recursively on '/'".toList
      complain "use --no-preserve-root to override this failsafe".toList
      return 1
    else return (← remove r greatestDepth path).code

namespace Tree

structure Making where
  parents : Bool
  tells : Bool
  mode : Option Text

/-- All directories that a path leads through, outermost first, and the path itself. -/
def ancestors (path : Text) : List Text :=
  let path := if Paths.trimmed path = [] then path else Paths.trimmed path
  let ends (n : Nat) : Bool :=
    n > 0 && (n = path.length || (path[n]? = some '/' && path[n - 1]? != some '/'))
  ((List.range (path.length + 1)).filter ends).map (path.take ·)

def makeOne (m : Making) (isLast : Bool) (path shown : Text) : Run Nat := do
  match ← ask (.makeDirectory (asName path) 0o777) with
  | .ok () =>
    if m.tells then
      out ((← get).call.name ++ ": created directory ".toList ++ named shown ++ ['\n'])
    if isLast then
      if let some mode := m.mode then
        let bits ← modeOperand 0o777 true mode
        let _ ← ask (.setMode (asName path) bits)
    return 0
  | .error e =>
    if m.parents && (← isDirectory path) then return 0
    let e := if m.parents && !isLast && e == .exists then .notDirectory else e
    cannot "cannot create directory" shown e

/-- Makes directories until one of them cannot be made. -/
def makeAll (m : Making) : List Text → Run Nat
  | [] => return 0
  | path :: rest => do
    match ← makeOne m rest.isEmpty path path with
    | 0 => makeAll m rest
    | code => return code

end Tree

open Tree in
def mkdir : Tool := do
  let (os, operands) ← readOptions <| .make "pm:vZ"
    [("mode", 'm'), ("parents", 'p'), ("verbose", 'v')]
  if operands.isEmpty then misuse "missing operand".toList
  let m : Making := { parents := has "p" os, tells := has "v" os, mode := valueOf? 'm' os }
  if let some mode := m.mode then
    let _ ← modeOperand 0o777 true mode
  forEach operands fun path =>
    if m.parents then makeAll m (ancestors path) else makeOne m true path path

namespace Tree

structure Clearing where
  parents : Bool
  tells : Bool
  lenient : Bool

def clearOne (c : Clearing) (isFirst : Bool) (path : Text) : Run Nat := do
  if c.tells then
    out ((← get).call.name ++ ": removing directory, ".toList ++ named path ++ ['\n'])
  match ← ask (.removeDirectory (asName path)) with
  | .ok () => return 0
  | .error e =>
    if c.lenient && e == .notEmpty then return 1
    let link := match ← ownInfoOf (Paths.trimmed path) with
      | .ok i => i.kind == .link
      | .error _ => false
    if link && path.getLast? = some '/' then
      complain ("failed to remove ".toList ++ named path ++ ": Symbolic link not followed".toList)
      return 1
    cannot (if isFirst then "failed to remove" else "failed to remove directory") path e

/-- Removes directories until one of them cannot be removed. -/
def clearAll (c : Clearing) : Bool → List Text → Run Nat
  | _, [] => return 0
  | isFirst, path :: rest => do
    match ← clearOne c isFirst path with
    | 0 => clearAll c false rest
    | code => return if c.lenient then 0 else code

end Tree

open Tree in
def rmdir : Tool := do
  let (os, operands) ← readOptions <| .make "pv\x01"
    [("ignore-fail-on-non-empty", '\x01'), ("parents", 'p'), ("verbose", 'v')]
  if operands.isEmpty then misuse "missing operand".toList
  let c : Clearing := { parents := has "p" os, tells := has "v" os, lenient := has "\x01" os }
  forEach operands fun path =>
    let all := (ancestors path).reverse
    clearAll c true (if c.parents then path :: all.drop 1 else [path])

end CellRunner.Tool
