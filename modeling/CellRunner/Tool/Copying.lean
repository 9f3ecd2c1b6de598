import CellRunner.Tool.Backup
import CellRunner.Tool.Mode

/-!
# Copying and moving

What is given first goes to where the last operand says. A file that is in the way is replaced,
unless it is the same file or the user does not want it.
-/

set_option autoImplicit false

namespace CellRunner.Tool

open Machine (Prog FileInfo)
open Shell (Text ofString asName)

namespace Copying

/-- When a file may take the place of another. -/
inductive Replacing where
  | always
  | asks
  | never
  deriving DecidableEq, Repr

/-- Which links stand for what they lead to. -/
inductive Following where
  | none
  | operands
  | all
  deriving DecidableEq, Repr

structure Style where
  /-- whether files get other names rather than copies -/
  moves : Bool := false
  recursive : Bool := false
  follows : Following := .all
  keepsMode : Bool := false
  keepsTime : Bool := false
  /-- whether names of one file become names of one copy -/
  keepsLinks : Bool := false
  /-- whether the usual mode is given instead of that of the source -/
  dropsMode : Bool := false
  /-- the mode that copies get -/
  mode : Option Nat := none
  /-- whether a target that cannot be opened is removed -/
  force : Bool := false
  /-- whether a target is removed in any case -/
  removes : Bool := false
  replacing : Replacing := .always
  /-- whether only older targets are replaced -/
  updates : Bool := false
  tells : Bool := false
  /-- hard links in place of copies -/
  hard : Bool := false
  /-- symbolic links in place of copies -/
  soft : Bool := false
  /-- whether contents are copied -/
  data : Bool := true
  backup : Option Backup.Naming := none
  /-- whether directories can only be left out -/
  isPlain : Bool := false

/-- What was copied so far. -/
structure Ledger where
  /-- whether operands are noted at all -/
  notes : Bool := false
  /-- sources given as operands, by name and number -/
  sources : List (Text × Nat) := []
  /-- files made for operands, by name and number -/
  targets : List (Text × Nat) := []
  /-- where copies of files are, by the number of the file -/
  copies : List (Nat × Text) := []

abbrev Copier := StateT Ledger Run

def arrow (source target : Text) : Text := named source ++ " -> ".toList ++ named target

/-- Tells of a copy, with the backup that was made for it. -/
def announce (source target : Text) (backup : Option Text) : Run Unit :=
  out (arrow source target ++ (match backup with
    | some b => " (backup: ".toList ++ named b ++ [')']
    | none => []) ++ ['\n'])

def isSame (a b : FileInfo) : Bool := a.number = b.number && a.kind == b.kind

/-- Whether two paths are one name in one directory. -/
def isSameEntry (a b : Text) : Run Bool := do
  if Paths.lastName a != Paths.lastName b then return false
  match ← infoOf (Paths.parent a), ← infoOf (Paths.parent b) with
  | .ok x, .ok y => return isSame x y
  | _, _ => return false

def isLink (i : FileInfo) : Bool := i.kind == .link

/-- What may be done about a target that is there. -/
inductive Verdict where
  | goOn
  /-- all is as it should be -/
  | done (well : Bool)
  | same
  deriving DecidableEq, Repr

/-- Whether a target may be replaced although it may be the source itself. -/
def verdict (s : Style) (source target : Text) (a b : FileInfo) : Run Verdict := do
  let same := isSame a b
  if same && s.hard then return .done true
  let (a', b', sameLink) ← if s.follows == .none then do
      if isLink a && isLink b then
        let oneEntry ← isSameEntry source target
        if !oneEntry then
          if s.backup.isSome then return .goOn
          if same then return .done (!s.moves)
        return if oneEntry then .same else .goOn
      pure (a, b, same)
    else do
      if !same then return .goOn
      match ← ownInfoOf source, ← ownInfoOf target with
      | .ok a', .ok b' =>
        if isLink a' && isLink b' && s.removes then return .goOn
        pure (a', b', isSame a' b')
      | _, _ => return .goOn
  if s.backup.isSome then
    if !sameLink then
      return if !s.moves && s.follows != .none && isLink a' && !isLink b' then .same else .goOn
    return if ← isSameEntry source target then .same else .goOn
  if s.moves || s.removes then
    if isLink b' then return .goOn
    if sameLink && b'.names > 1 then
      if !(← isSameEntry source target) then return if s.moves then .same else .goOn
  if !isLink a' && !isLink b' && !isSame a' b' then return .goOn
  if s.soft && isLink b' then return .goOn
  if s.follows == .none then
    match ← infoOf source, ← infoOf target with
    | .ok x, .ok y => if !isSame x y then return .goOn
    | _, _ => return .goOn
  return .same

/-- Whether the user agrees that a file is replaced. -/
def agrees (s : Style) (path : Text) (info : FileInfo) : Run Bool := do
  if isLink info || info.allows Machine.Files.writing then
    Tree.agrees ("overwrite ".toList ++ named path)
  else if s.moves || s.removes || s.force then
    Tree.agrees ("replace ".toList ++ named path ++ ", overriding mode ".toList ++
      Mode.both info.mode)
  else
    Tree.agrees ("unwritable ".toList ++ named path ++ " (mode ".toList ++
      Mode.octal 4 info.mode ++ ", ".toList ++ Mode.letters info.mode ++ "); try anyway".toList)

/-- Copies all bytes from one descriptor to another. -/
def pour (source target : Nat) : Nat → Run (Except SystemError Unit)
  | 0 => return .ok ()
  | fuel + 1 => do
    match ← ask (.read source 131072) with
    | .ok [] => return .ok ()
    | .ok bytes =>
      match ← run (Prog.put target bytes) with
      | .ok () => pour source target fuel
      | .error e => return .error e
    | .error e => return .error e

/-- Removes what is in the way; whether that went well. -/
def clear (s : Style) (path : Text) : Run Bool := do
  match ← ask (.unlink (asName path)) with
  | .ok () =>
    if s.tells then out ("removed ".toList ++ named path ++ ['\n'])
    return true
  | .error .noEntry => return true
  | .error e =>
    let _ ← cannot "cannot remove" path e
    return false

/-- Gives a copy what is kept of the file it is a copy of. -/
def keep (s : Style) (info : FileInfo) (isNew : Bool) (target : Text) : Run Unit := do
  if s.keepsTime then
    let _ ← ask (.setTime (asName target) (some info.changed))
  if s.keepsMode then
    let _ ← ask (.setMode (asName target) info.mode)
  else if s.dropsMode && isNew then
    let all := if info.isDirectory then 0o777 else 0o666
    let _ ← ask (.setMode (asName target) (Mode.without all (← maskNow)))

/-- Opens the target of a copy; the value tells whether it was made. -/
def openTarget (s : Style) (target : Text) (mode : Nat) (isNew : Bool) :
    Run (Option (Nat × Bool)) := do
  let refused (e : SystemError) : Run (Option (Nat × Bool)) := do
    let _ ← cannot "cannot create regular file" target e
    return none
  let made : Run (Option (Nat × Bool)) := do
    match ← ask (.open (asName target) .new mode 0) with
    | .ok d => return some (d, true)
    | .error .exists =>
      if (← ownInfoOf target).toOption.any isLink then
        complain ("not writing through dangling symlink ".toList ++ named target)
        return none
      else refused .exists
    | .error .isDirectory => refused .notDirectory
    | .error e => refused e
  if isNew then made
  else
    match ← ask (.open (asName target) .present 0 0) with
    | .ok d =>
      if s.data then
        let _ ← ask (.resize d 0)
      return some (d, false)
    | .error e =>
      if !s.force then refused e
      else if ← clear s target then made
      else return none

def copyFile (s : Style) (source target : Text) (info : FileInfo) (isNew : Bool) : Run Bool := do
  match ← ask (.open (asName source) .read 0 0) with
  | .error e =>
    complain ("cannot open ".toList ++ named source ++ " for reading: ".toList ++ ofString e.text)
    return false
  | .ok d =>
    let mode := s.mode.getD (info.mode &&& 0o777)
    match ← openTarget s target mode isNew with
    | none =>
      close d
      return false
    | some (t, isNew) =>
      let poured ← if s.data then pour d t Prog.fuel else pure (.ok ())
      close d
      close t
      match poured with
      | .ok () =>
        keep s info isNew target
        return true
      | .error e =>
        let _ ← cannot "error writing" target e
        return false

/-- Makes a symbolic link, in place of what is there if that is asked for. -/
def putLink (content target : Text) (replaces : Bool) : Run (Except SystemError Unit) := do
  match ← ask (.makeLink (asName content) (asName target)) with
  | .error .exists =>
    if replaces then
      let _ ← ask (.unlink (asName target))
      ask (.makeLink (asName content) (asName target))
    else return .error .exists
  | r => return r

/-- Gives a file another name, in place of what is there if that is asked for; the value tells
whether something was replaced. -/
def putName (source target : Text) (follows replaces : Bool) : Run (Except SystemError Bool) := do
  let source ← if follows then do
      match ← Paths.full .whole source with
      | .ok path => pure path
      | .error _ => pure source
    else pure source
  match ← ask (.addName (asName source) (asName target)) with
  | .ok () => return .ok false
  | .error .exists =>
    if replaces then
      let _ ← ask (.unlink (asName target))
      match ← ask (.addName (asName source) (asName target)) with
      | .ok () => return .ok true
      | .error e => return .error e
    else return .error .exists
  | .error e => return .error e

def hardLink (source target : Text) (follows replaces tells : Bool) : Run Bool := do
  match ← putName source target follows replaces with
  | .ok replaced =>
    if replaced && tells then out ("removed ".toList ++ named target ++ ['\n'])
    return true
  | .error e =>
    complain ("cannot create hard link ".toList ++ named target ++ " to ".toList ++
      because (named source) e)
    return false

/-- Where a copy starts: the operand that leads to it, and its target. -/
structure Root where
  source : Text
  target : Text

/-- Tells that something cannot be moved. -/
def tellUnmoved (root : Root) (source target : Text) (e : SystemError) : Run Unit :=
  match e with
  | .invalid =>
    complain ("cannot move ".toList ++ named root.source ++ " to a subdirectory of itself, ".toList ++
      named root.target)
  | .exists | .isDirectory | .noSpace | .notEmpty | .textBusy =>
    complain ("cannot overwrite ".toList ++ because (named target) e)
  | e =>
    complain ("cannot move ".toList ++ named source ++ " to ".toList ++ because (named target) e)

/-- What was decided about a target. -/
inductive Decision where
  | over (well : Bool)
  /-- the target is new, or will be; a backup may have been made -/
  | goOn (isNew : Bool) (old : Option FileInfo) (backup : Option Text)

/-- Whether a file was noted. -/
def isNoted (notes : List (Text × Nat)) (path : Text) (info : FileInfo) : Bool :=
  notes.contains (path, info.number)

/-- Looks at a target that is there. -/
def decide (s : Style) (isOperand : Bool) (source target : Text) (info : FileInfo)
    (old : FileInfo) : Copier Decision := do
  let judged ← if s.replacing == .never then pure Verdict.goOn else verdict s source target info old
  if judged = .same then
    (complain (named source ++ " and ".toList ++ named target ++
      " are the same file".toList) : Run Unit)
    return .over false
  if s.updates && !info.isDirectory && old.changed ≥ info.changed then return .over true
  if s.moves || !info.isDirectory then
    if s.replacing == .never then return .over true
    if s.replacing == .asks then
      if !(← agrees s target old) then return .over false
  if let .done well := judged then return .over well
  let backsUp := s.moves && s.backup.isSome
  let refuse (m : Text) : Copier Decision := do
    (complain m : Run Unit)
    return .over false
  if !old.isDirectory then
    if info.isDirectory && !backsUp then
      return ← refuse ("cannot overwrite non-directory ".toList ++ named target ++
        " with directory ".toList ++ named source)
    let isNumbered := s.backup.any (·.kind == .numbered)
    if isOperand && !isNumbered && isNoted (← get).targets target old then
      return ← refuse ("will not overwrite just-created ".toList ++ named target ++
        " with ".toList ++ named source)
  else if !info.isDirectory && !backsUp then
    return ← refuse ("cannot overwrite directory ".toList ++ named target ++
      " with non-directory".toList)
  let base := Paths.lastName source
  let isDots := base = ['.'] || base = ['.', '.']
  match s.backup with
  | some naming =>
    if !isDots && (s.moves || !old.isDirectory) then
      if naming.kind != .numbered then
        let endangered := target ++ naming.ending
        if (← ownInfoOf endangered).toOption.any (isSame info) &&
            base = Paths.lastName target ++ naming.ending then
          return ← refuse ("backing up ".toList ++ named target ++
            " might destroy source;  ".toList ++ named source ++
            (if s.moves then " not moved" else " not copied").toList)
      match ← Backup.make naming target with
      | .ok name => return .goOn true none (some name)
      | .error .noEntry => return .goOn true none none
      | .error e => return ← refuse ("cannot backup ".toList ++ because (named target) e)
    else return .goOn false (some old) none
  | none =>
    let unlinks := s.removes || (s.data && ((s.keepsLinks && old.names > 1) ||
      (s.follows == .none && info.kind != .file)))
    if !old.isDirectory && !s.moves && unlinks then
      if ← clear s target then return .goOn true none none else return .over false
    return .goOn false (some old) none

/-- Gives a file its new name; `tried` is what came of that before. -/
def move (s : Style) (root : Root) (source target : Text) (tried : Option SystemError)
    (backup : Option Text) : Run Bool := do
  let e ← if tried == some .exists then do
      match ← ask (.move (asName source) (asName target)) with
      | .ok () => pure none
      | .error e => pure (some e)
    else pure tried
  match e with
  | none =>
    if s.tells then
      out "renamed ".toList
      announce source target backup
    return true
  | some e =>
    tellUnmoved root source target e
    return false

/-- Notes a file that was made for an operand. -/
def note (target : Text) : Copier Unit := do
  if (← get).notes then
    if let .ok t ← ownInfoOf target then
      modify fun l => { l with targets := (target, t.number) :: l.targets }

/-- Copies what is neither a directory nor another name of what was copied before. -/
def copyOther (s : Style) (follows : Bool) (source target : Text) (info : FileInfo)
    (isNew : Bool) : Run Bool := do
  if s.soft then
    let isHere ← do
      if source.head? = some '/' then pure true
      else
        match ← infoOf (Paths.parent target), ← infoOf ['.'] with
        | .ok a, .ok b => pure (isSame a b)
        | _, _ => pure false
    if !isHere then
      complain (beforeColon target ++
        ": can make relative symbolic links only in current directory".toList)
      return false
    match ← putLink source target s.force with
    | .ok () => return true
    | .error e =>
      complain ("cannot create symbolic link ".toList ++ named target ++ " to ".toList ++
        because (named source) e)
      return false
  else if s.hard then
    hardLink source target follows (s.force || s.replacing == .asks) false
  else if info.kind == .link then
    match ← ask (.readLink (asName source)) with
    | .error e =>
      let _ ← cannot "cannot read symbolic link" source e
      return false
    | .ok content =>
      match ← putLink (ofString content) target s.force with
      | .ok () => return true
      | .error e =>
        let _ ← cannot "cannot create symbolic link" target e
        return false
  else if info.kind == .pipe && s.recursive && !s.isPlain then
    match ← ask (.makePipe (asName target) info.mode) with
    | .ok () =>
      keep s info true target
      return true
    | .error e =>
      let _ ← cannot "cannot create fifo" target e
      return false
  else copyFile s source target info isNew

/-- Copies a directory; `copyEntry` copies what is in it. -/
def copyDirectory (s : Style) (copyEntry : Text → Text → Copier Bool) (isOperand : Bool)
    (source target : Text) (info : FileInfo) (isNew : Bool) : Copier Bool := do
  let made ← if isNew then ask (.makeDirectory (asName target) (info.mode &&& 0o7777))
    else pure (.ok ())
  match made with
  | .error e =>
    let _ ← (cannot "cannot create directory" target e : Run Nat)
    return false
  | .ok () =>
    let before ← (ownInfoOf target : Run _)
    if isNew then
      if let .ok t := before then
        if t.mode &&& 0o700 != 0o700 then
          let _ ← (ask (.setMode (asName target) (t.mode ||| 0o700)) : Run _)
        if isOperand then
          modify fun l => { l with copies := (t.number, target) :: l.copies }
      if s.tells then announce source target none
    let well ← match ← (ask (.list (asName source)) : Run _) with
      | .error e =>
        let _ ← (cannot "cannot access" source e : Run Nat)
        pure false
      | .ok names =>
        names.foldlM (fun well n => do
          let n := ofString n
          let t := within target n
          let one ← copyEntry (within source n) t
          return well && one) true
    if isNew then
      if let .ok t := before then
        if t.mode &&& 0o700 != 0o700 then
          let _ ← (ask (.setMode (asName target) t.mode) : Run _)
    keep s info isNew target
    return well

/-- Copies a file, or a directory with all in it; `above` are the directories that are being
copied and `tried` tells what came of giving it a new name. `fuel` bounds the depth. -/
def copy (s : Style) (root : Root) : Nat → List Nat → Option SystemError → Text → Text →
    Copier Bool
  | 0, _, _, _, _ => return false
  | fuel + 1, above, tried, source, target => do
    let isOperand := above.isEmpty
    let follows := s.follows == .all || (isOperand && s.follows == .operands)
    let looked := if s.moves && tried.isNone then target else source
    match ← if follows then infoOf looked else ownInfoOf looked with
    | .error e =>
      let _ ← (cannot "cannot stat" looked e : Run Nat)
      return false
    | .ok info =>
      if info.isDirectory && !s.recursive then
        (complain ((if s.isPlain then "omitting directory " else
          "-r not specified; omitting directory ").toList ++ named source) : Run Unit)
        return false
      let ledger ← get
      if isOperand && ledger.notes && !s.moves then
        if !info.isDirectory && s.backup.isNone && isNoted ledger.sources source info then
          (complain ("warning: source file ".toList ++ named source ++
            " specified more than once".toList) : Run Unit)
          return true
        set { ledger with sources := (source, info.number) :: ledger.sources }
      let ownTarget := info.kind != .file && (!s.isPlain || info.isDirectory || isLink info) ||
        s.moves || s.soft || s.hard || s.backup.isSome || s.removes
      let found ← if s.moves && tried.isNone then pure (.error .noEntry)
        else if ownTarget then ownInfoOf target else infoOf target
      let decision ← match found with
        | .ok old => decide s isOperand source target info old
        | .error .noEntry => pure (.goOn true none none)
        | .error .tooManyLinks =>
          if s.force then pure (.goOn false none none)
          else do
            let _ ← (cannot "cannot stat" target .tooManyLinks : Run Nat)
            pure (.over false)
        | .error e => do
          let _ ← (cannot "cannot stat" target e : Run Nat)
          pure (.over false)
      match decision with
      | .over well => return well
      | .goOn isNew old backup =>
        if s.moves then
          let well ← move s root source target tried backup
          if well then note target
          return well
        if isOperand && ledger.notes && s.backup.isNone then
          if let .ok t ← ownInfoOf target then
            if isLink t && isNoted ledger.targets target t then
              (complain ("will not copy ".toList ++ named source ++
                " through just-created symlink ".toList ++ named target) : Run Unit)
              return false
        if s.tells && !info.isDirectory then announce source target backup
        let earlier := ledger.copies.lookup info.number
        if info.isDirectory then
          match earlier with
          | some place =>
            if ← isSameEntry source place then
              (complain ("cannot copy a directory, ".toList ++ named root.source ++
                ", into itself, ".toList ++ named root.target) : Run Unit)
              return false
            else if ← isSameEntry target place then
              (complain ("warning: source directory ".toList ++ named source ++
                " specified more than once".toList) : Run Unit)
              return true
            else if !follows then
              (complain ("will not create hard link ".toList ++ named target ++
                " to directory ".toList ++ named place) : Run Unit)
              return false
          | none =>
            if isOperand then
              modify fun l => { l with copies := (info.number, target) :: l.copies }
          if above.contains info.number then
            (complain ("cannot copy cyclic symbolic link ".toList ++ named source) : Run Unit)
            return false
          copyDirectory s (copy s root fuel (info.number :: above) (some .crossDevice)) isOperand
            source target info (isNew || old.isNone)
        else
          let linksAgain := s.keepsLinks && !s.hard &&
            (info.names > 1 || s.follows == .all || (isOperand && s.follows == .operands))
          match if linksAgain then earlier else none with
          | some place => hardLink place target false true s.tells
          | none =>
            if linksAgain then
              modify fun l => { l with copies := (info.number, target) :: l.copies }
            let well ← (copyOther s follows source target info isNew : Run Bool)
            if well && isOperand then note target
            return well

/-- Where the operands are put. -/
structure Aim where
  /-- the directory that all operands go into -/
  directory : Option Text
  operands : List Text

/-- What the operands are put into: a directory that an option names or the last operand is. -/
def aim (directory : Option Text) (exact : Bool) (complaint : String) (operands : List Text) :
    Run Aim := do
  if exact && directory.isSome then
    fail "cannot combine --target-directory (-t) and --no-target-directory (-T)".toList
  match operands, directory with
  | [], _ => misuse "missing file operand".toList
  | [only], none => misuse ("missing destination file operand after ".toList ++ quoted only)
  | operands, some dir =>
    match ← infoOf dir with
    | .ok info =>
      if !info.isDirectory then fail (complaint.toList ++ because (named dir) .notDirectory)
      return { directory := some dir, operands }
    | .error e => fail (complaint.toList ++ because (named dir) e)
  | operands, none =>
    if exact then
      if let some extra := operands[2]? then misuse ("extra operand ".toList ++ quoted extra)
      return { directory := none, operands }
    let target := operands.getLastD []
    let refused (e : SystemError) : Run Aim := do
      if operands.length > 2 then fail ("target ".toList ++ because (named target) e)
      return { directory := none, operands }
    match ← infoOf target with
    | .ok info =>
      if info.isDirectory then return { directory := some target, operands := operands.dropLast }
      else refused .notDirectory
    | .error e => refused e

/-- What files keep, by the words for it. -/
def keepWords : Choice.Words Char :=
  [(["mode"], 'm'), (["timestamps"], 't'), (["ownership"], 'o'), (["links"], 'l'),
    (["context"], 'c'), (["xattr"], 'x'), (["all"], 'a')]

/-- The letters for a list of words. -/
def kept (context : String) (value : Text) : Run (List Char) :=
  ((String.ofList value).splitOn ",").mapM fun w => Choice.read context.toList keepWords w.toList

/-- A style that keeps, or does not keep, what letters stand for. -/
def Style.keeping (on : Bool) (letters : List Char) (s : Style) : Style :=
  letters.foldl (fun s c =>
    if c = 'm' then { s with keepsMode := on, dropsMode := !on }
    else if c = 't' then { s with keepsTime := on }
    else if c = 'l' then { s with keepsLinks := on }
    else if c = 'a' then
      { s with keepsMode := on, dropsMode := !on, keepsTime := on, keepsLinks := on }
    else s) s

inductive Update where
  | all
  | none
  | older
  deriving DecidableEq, Repr

def updateWords : Choice.Words Update := [(["all"], .all), (["none"], .none), (["older"], .older)]

/-- What options say about which files are replaced. -/
def withUpdate (s : Style) (value : Text) : Run Style := do
  if value.isEmpty then return { s with updates := true }
  match ← Choice.read "--update".toList updateWords value with
  | .all => return { s with updates := false }
  | .none => return { s with updates := false, replacing := .never }
  | .older => return { s with updates := true }

/-- Makes the directories of a path below a target as they are below the source; the words
tell what is shown of them. -/
def makeParents (s : Style) (target : Text) : List Text → Run Bool
  | [] => return true
  | path :: rest => do
    let place := within target path
    match ← infoOf place with
    | .ok info =>
      if info.isDirectory then makeParents s target rest
      else
        complain (beforeColon place ++ " exists but is not a directory".toList)
        return false
    | .error _ =>
      match ← infoOf path with
      | .error e =>
        let _ ← cannot "failed to get attributes of" path e
        return false
      | .ok info =>
        match ← ask (.makeDirectory (asName place) (info.mode &&& 0o7777)) with
        | .error e =>
          let _ ← cannot "cannot make directory" place e
          return false
        | .ok () =>
          if s.tells then out (path ++ " -> ".toList ++ place ++ ['\n'])
          makeParents s target rest

/-- Copies operands to where they belong. -/
def copyAll (s : Style) (parents trims : Bool) (a : Aim) : Run Nat := do
  let trimmed (path : Text) : Text :=
    let cs := Paths.trimmed path
    if cs.isEmpty then path else cs
  let one (source target : Text) : Copier Bool :=
    copy s ⟨source, target⟩ greatestDepth [] (some .crossDevice) source target
  match a.directory, a.operands with
  | none, [source, target] =>
    if parents then misuse "with --parents, the destination must be a directory".toList
    let source := if trims then trimmed source else source
    let (s, target) ← match s.backup with
      | some naming => do
        let same := s.force && source = target &&
          (← infoOf source).toOption.any (·.kind == .file)
        if same then
          let place ← Backup.nameFor naming target
          pure ({ s with backup := none }, place)
        else pure (s, target)
      | none => pure (s, target)
    let start : Copier Bool :=
      copy s ⟨source, target⟩ greatestDepth [] (some .crossDevice) source target
    let (well, _) ← start.run {}
    return if well then 0 else 1
  | some dir, operands =>
    let step (well : Bool) (source : Text) : Copier Bool := do
      let source := if trims then trimmed source else source
      if parents then
        let path := trimmed source
        let above := (Tree.ancestors path).dropLast.filter (· != ['/'])
        if ← makeParents s dir above then return (← one source (within dir path)) && well
        else return false
      else
        let base := Paths.lastName source
        let target := if base = ['.', '.'] then dir else within dir base
        let done ← one source target
        return done && well
    let (well, _) ← (operands.foldlM step true).run { notes := operands.length > 1 }
    return if well then 0 else 1
  | none, _ => return 1

end Copying

open Copying in
def cp : Tool := do
  let (os, operands) ← readOptions <| .make
    "abdfHilLnprst:uvxPRS:TZ\x01::\x02::\x03::\x04::\x05:\x06\x07\x08:\x0b\x0c\x0e\x0f"
    [("archive", 'a'), ("attributes-only", '\x06'), ("backup", '\x04'), ("copy-contents", '\x0f'),
      ("debug", '\x0e'), ("force", 'f'), ("interactive", 'i'), ("link", 'l'), ("dereference", 'L'),
      ("no-clobber", 'n'), ("no-dereference", 'P'), ("no-preserve", '\x05'),
      ("no-target-directory", 'T'), ("one-file-system", 'x'), ("parents", '\x07'),
      ("preserve", '\x01'), ("recursive", 'R'), ("remove-destination", '\x0b'),
      ("sparse", '\x08'), ("reflink", '\x03'), ("strip-trailing-slashes", '\x0c'),
      ("suffix", 'S'), ("symbolic-link", 's'), ("target-directory", 't'), ("update", '\x02'),
      ("verbose", 'v')]
  let step (s : Style × Bool) (g : Given) : Run (Style × Bool) := do
    let (s, follows) := s
    match g.1 with
    | 'a' =>
      return ({ s.keeping true ['m', 't', 'l'] with follows := .none, recursive := true }, true)
    | 'd' => return ({ s with keepsLinks := true, follows := .none }, true)
    | 'f' => return ({ s with force := true }, follows)
    | 'H' => return ({ s with follows := .operands }, true)
    | 'i' => return ({ s with replacing := .asks }, follows)
    | 'l' => return ({ s with hard := true }, follows)
    | 'L' => return ({ s with follows := .all }, true)
    | 'n' =>
      complain ("warning: behavior of -n is non-portable and may change in future; ".toList ++
        "use --update=none instead".toList)
      return ({ s with replacing := .never }, follows)
    | 'P' => return ({ s with follows := .none }, true)
    | 'p' => return (s.keeping true ['m', 't'], follows)
    | '\x01' =>
      let letters ← if g.2.isEmpty then pure ['m', 't'] else kept "--preserve" g.2
      return (s.keeping true letters, follows)
    | '\x05' => return (s.keeping false (← kept "--no-preserve" g.2), follows)
    | '\x06' => return ({ s with data := false }, follows)
    | 'R' => return ({ s with recursive := true }, follows)
    | 'r' => return ({ s with recursive := true }, follows)
    | '\x0b' => return ({ s with removes := true }, follows)
    | 's' => return ({ s with soft := true }, follows)
    | 'u' => return ({ s with updates := true }, follows)
    | '\x02' => return (← withUpdate s g.2, follows)
    | 'v' => return ({ s with tells := true }, follows)
    | '\x0e' => return ({ s with tells := true }, follows)
    | _ => return (s, follows)
  let (s, follows) ← os.foldlM step ({}, false)
  if s.hard && s.soft then misuse "cannot make both hard and symbolic links".toList
  if s.replacing == .never && has "bS\x04" os then
    misuse "options --backup and --no-clobber are mutually exclusive".toList
  let backup ← Backup.ofOptions 'b' '\x04' 'S' os
  let s := { s with
    backup, follows := if follows || !(s.recursive && !s.hard) then s.follows else .none }
  let a ← aim (valueOf? 't' os) (has "T" os) "target directory " operands
  copyAll s (has "\x07" os) (has "\x0c" os) a

namespace Copying

/-- Tries to give a file a new name that is not taken; the value tells why that failed. -/
def renamed (source target : Text) : Run (Option SystemError) := do
  match ← ownInfoOf source with
  | .error e => return some e
  | .ok _ =>
    match ← ownInfoOf target with
    | .ok _ => return some .exists
    | .error .noEntry =>
      match ← ask (.move (asName source) (asName target)) with
      | .ok () => return none
      | .error e => return some e
    | .error e => return some e

end Copying

open Copying in
def mv : Tool := do
  let (os, operands) ← readOptions <| .make "bfint:uvS:TZ\x01\x02::\x03\x04::\x05"
    [("backup", '\x04'), ("debug", '\x05'), ("force", 'f'), ("interactive", 'i'),
      ("no-clobber", 'n'), ("no-copy", '\x03'), ("no-target-directory", 'T'),
      ("strip-trailing-slashes", '\x01'), ("suffix", 'S'), ("target-directory", 't'),
      ("update", '\x02'), ("verbose", 'v'), ("context", 'Z')]
  let step (s : Style) (g : Given) : Run Style := do
    match g.1 with
    | 'f' => return { s with replacing := .always }
    | 'i' => return { s with replacing := .asks }
    | 'n' => return { s with replacing := .never }
    | 'u' => return { s with updates := true }
    | '\x02' => withUpdate s g.2
    | 'v' => return { s with tells := true }
    | _ => return s
  let start : Style :=
    { moves := true, recursive := true, follows := .none, keepsMode := true, keepsTime := true
      keepsLinks := true }
  let s ← os.foldlM step start
  if s.replacing == .never && has "bS\x04" os then
    misuse "options --backup and --no-clobber are mutually exclusive".toList
  let directory := valueOf? 't' os
  let first ← match operands, directory, has "T" os with
    | [a, b], none, false => renamed a b
    | _, _, _ => pure (some .exists)
  let a ← match first, operands with
    | none, _ => pure { directory := none, operands }
    | some _, _ => aim directory (has "T" os) "target directory " operands
  let backup ← Backup.ofOptions 'b' '\x04' 'S' os
  let s := { s with backup }
  let trimmed (path : Text) : Text :=
    if !has "\x01" os || (Paths.trimmed path).isEmpty then path else Paths.trimmed path
  let one (tried : Option SystemError) (source target : Text) : Copier Bool := do
    copy s ⟨source, target⟩ greatestDepth [] tried source target
  match a.directory, a.operands with
  | none, [source, target] =>
    let tried ← if has "T" os then renamed source target else pure first
    let (well, _) ← (one tried (trimmed source) target).run {}
    return if well then 0 else 1
  | some dir, operands =>
    let step (well : Bool) (source : Text) : Copier Bool := do
      let source := trimmed source
      let target := within dir (Paths.lastName source)
      let done ← one (← renamed source target) source target
      return done && well
    let (well, _) ← (operands.foldlM step true).run { notes := operands.length > 1 }
    return if well then 0 else 1
  | none, _ => return 1

end CellRunner.Tool
