import CellRunner.Tool.Linking

/-!
# Installing files

A copy takes the place of what was there and gets a mode that does not depend on the source.
-/

set_option autoImplicit false

namespace CellRunner.Tool

open Machine (FileInfo Prog)
open Shell (Text ofBytes asName)

namespace Installing

structure Style where
  copying : Copying.Style
  /-- the mode of files, and of directories -/
  fileMode : Nat
  directoryMode : Nat
  /-- whether directories that a target needs are made -/
  parents : Bool
  /-- whether files that are as they should be are left alone -/
  compares : Bool
  strips : Bool
  owners : List Text

def usualMode : Nat := 0o755

/-- Makes a directory that is not there. -/
def makeOne (tells : Bool) (mode : Nat) (path : Text) : Run Bool := do
  match ← ask (.makeDirectory (asName path) mode) with
  | .ok () =>
    if tells then
      out ((← get).call.name ++ ": creating directory ".toList ++ named path ++ ['\n'])
    let _ ← ask (.setMode (asName path) mode)
    return true
  | .error e =>
    if ← isDirectory path then return true
    let e := if e = .exists then .notDirectory else e
    let _ ← cannot "cannot create directory" path e
    return false

/-- Makes all directories that a path leads through. -/
def makeParents (tells : Bool) : List Text → Run Bool
  | [] => return true
  | path :: rest => do
    if ← makeOne tells usualMode path then makeParents tells rest else return false

def makeDirectory (s : Style) (path : Text) : Run Nat := do
  let all := Tree.ancestors path
  if !(← makeParents s.copying.tells all.dropLast) then return 1
  match ← infoOf path with
  | .ok info =>
    if !info.isDirectory then return ← cannot "cannot create directory" path .exists
    match ← ask (.setMode (asName path) s.directoryMode) with
    | .ok () => return 0
    | .error e => cannot "cannot change permissions of" path e
  | .error _ =>
    if ← makeOne s.copying.tells s.directoryMode path then return 0 else return 1

/-- Whether a target is already what it should be. -/
def isUpToDate (s : Style) (source target : Text) : Run Bool := do
  match ← ownInfoOf source, ← ownInfoOf target with
  | .ok a, .ok b =>
    if a.kind != .file || b.kind != .file || a.size != b.size || b.mode != s.fileMode then
      return false
    match ← contents source, ← contents target with
    | .ok x, .ok y => return x == y
    | _, _ => return false
  | _, _ => return false

/-- The marks that a program file begins with. -/
def isProgram (path : Text) : Run Bool := do
  match ← contents path with
  | .ok ('\x7f' :: 'E' :: 'L' :: 'F' :: _) => return true
  | _ => return false

/-- Gives a new file what it should have; whether that went well. -/
def finish (s : Style) (target : Text) : Run Bool := do
  if s.strips && !(← isProgram target) then
    tell ("strip: ".toList ++ target ++ ": file format not recognized".toList)
    complain "strip process terminated abnormally".toList
    let _ ← ask (.unlink (asName target))
    return false
  for owner in s.owners do
    if accountNumber? owner != some userNumber then
      let _ ← cannot "cannot change ownership of" target .notPermitted
      return false
  match ← ask (.setMode (asName target) s.fileMode) with
  | .ok () => return true
  | .error e =>
    let _ ← cannot "cannot change permissions of" target e
    return false

/-- Installs one file. -/
def install (s : Style) (source target : Text) : Copying.Copier Bool := do
  let upToDate ← if s.compares then isUpToDate s source target else pure false
  let well ← if upToDate then pure true
    else Copying.copy s.copying ⟨source, target⟩ greatestDepth [] (some .crossDevice) source target
  if well then finish s target else return false

/-- Complains of a user or a group that there is not. -/
def checkOwner (what : String) (cs : Text) : Run Unit := do
  if (accountNumber? cs).isNone then
    fail ("invalid ".toList ++ what.toList ++ ' ' :: quoted cs)

end Installing

open Installing in
def install : Tool := do
  let (os, operands) ← readOptions <| .make "bcCdDg:m:o:psS:t:TvZ\x01::\x02:\x04::\x05"
    [("backup", '\x04'), ("compare", 'C'), ("context", '\x01'), ("debug", '\x05'),
      ("directory", 'd'), ("group", 'g'), ("mode", 'm'), ("no-target-directory", 'T'),
      ("owner", 'o'), ("preserve-timestamps", 'p'), ("strip", 's'), ("strip-program", '\x02'),
      ("suffix", 'S'), ("target-directory", 't'), ("verbose", 'v')]
  let directory := valueOf? 't' os
  if has "d" os && directory.isSome then
    fail "target directory not allowed when installing a directory".toList
  let backup ← Backup.ofOptions 'b' '\x04' 'S' os
  let modeOf (isDirectory : Bool) : Run Nat := do
    match valueOf? 'm' os with
    | none => return usualMode
    | some cs =>
      match Mode.parse cs with
      | some steps => return Mode.apply steps isDirectory 0 0
      | none => fail ("invalid mode ".toList ++ quoted cs)
  if operands.isEmpty then misuse "missing file operand".toList
  if has "T" os && directory.isSome then
    fail "cannot combine --target-directory (-t) and --no-target-directory (-T)".toList
  let isLone := operands.length = 1 && !has "d" os && directory.isNone
  if isLone then
    misuse ("missing destination file operand after ".toList ++ quoted (operands.headD []))
  if has "T" os && operands.length > 2 then
    misuse ("extra operand ".toList ++ quoted (operands.getD 2 []))
  let fileMode ← modeOf false
  let directoryMode ← modeOf true
  for (letter, what) in [('o', "user"), ('g', "group")] do
    if let some cs := valueOf? letter os then checkOwner what cs
  let owners := (os.filter fun g => g.1 = 'o' || g.1 = 'g').map (·.2)
  let copying : Copying.Style :=
    { isPlain := true, removes := true, mode := some 0o600, keepsTime := has "p" os
      tells := has "v\x05" os, backup }
  let s : Style :=
    { copying, fileMode, directoryMode, parents := has "D" os, compares := has "C" os
      strips := has "s" os, owners }
  if has "d" os then return ← forEach operands (makeDirectory s)
  let parentsOf (path : Text) : Run Bool := do
    if s.parents then makeParents s.copying.tells (Tree.ancestors path).dropLast
    else return true
  match directory with
  | some dir =>
    if !(← isDirectory dir) then
      if s.parents && (← infoOf dir).toOption.isNone then
        if !(← makeParents s.copying.tells (Tree.ancestors dir)) then quit 1
      else
        let e : SystemError := match ← infoOf dir with
          | .ok _ => .notDirectory
          | .error e => e
        fail ("failed to access ".toList ++ because (named dir) e)
  | none => pure ()
  let a ← Copying.aim directory (has "T" os) "failed to access " operands
  match a.directory, a.operands with
  | some dir, sources =>
    let step (well : Bool) (source : Text) : Copying.Copier Bool := do
      let done ← Installing.install s source (within dir (Paths.lastName source))
      return done && well
    let (well, _) ← (sources.foldlM step true).run { notes := sources.length > 1 }
    return if well then 0 else 1
  | none, [source, target] =>
    if !(← parentsOf target) then return 1
    let (well, _) ← (Installing.install s source target).run {}
    return if well then 0 else 1
  | none, _ => return 1

end CellRunner.Tool
