import CellRunner.Tool.Tree

/-!
# Backups

A file that is about to be replaced may get another name first: its own with an ending, or with
a number that was not used before.
-/

set_option autoImplicit false

namespace CellRunner.Tool

open Shell (Text asName)

namespace Backup

inductive Kind where
  | simple
  /-- a number if there are backups with numbers, else an ending -/
  | existing
  | numbered
  deriving DecidableEq, Repr

/-- How backups are named. -/
structure Naming where
  kind : Kind
  ending : Text
  deriving DecidableEq, Repr

def words : Choice.Words (Option Kind) :=
  [(["none", "off"], none), (["simple", "never"], some .simple),
    (["existing", "nil"], some .existing), (["numbered", "t"], some .numbered)]

/-- How backups are made, if options ask for them: `plain` is the letter that just asks, `kind`
the one that may tell how and `ending` the one for the ending. -/
def ofOptions (plain kind ending : Char) (os : List Given) : Run (Option Naming) := do
  if !os.any (fun g => g.1 = plain || g.1 = kind || g.1 = ending) then return none
  let asked := (valueOf? kind (os.filter (!·.2.isEmpty))).getD []
  let chosen ← if !asked.isEmpty then Choice.read "backup type".toList words asked else do
    match ← setting? "VERSION_CONTROL" with
    | some (c :: cs) => Choice.read "$VERSION_CONTROL".toList words (c :: cs)
    | _ => pure (some .existing)
  let usual ← setting? "SIMPLE_BACKUP_SUFFIX"
  let wanted := (valueOf? ending os).getD (usual.getD [])
  let ending := if wanted.isEmpty || wanted.contains '/' then ['~'] else wanted
  return chosen.map fun kind => { kind, ending }

/-- The number of a backup of a file, if a name is that of one. -/
def numberOf? (base name : Text) : Option Nat :=
  if !base.isPrefixOf name then none
  else
    match name.drop base.length with
    | '.' :: '~' :: rest =>
      let ds := rest.takeWhile Char.isDigit
      if !ds.isEmpty && ds.head? != some '0' && rest.drop ds.length = ['~'] then
        (String.ofList ds).toNat?
      else none
    | _ => none

/-- The name that the next backup of a file gets. -/
def nameFor (n : Naming) (path : Text) : Run Text := do
  let simple := path ++ n.ending
  if n.kind = .simple then return simple
  let base := Paths.lastName path
  let names ← namesIn (Paths.parent path)
  let highest := (names.filterMap (numberOf? base)).foldl max 0
  if n.kind = .existing && highest = 0 then return simple
  return path ++ ".~".toList ++ ofNat (highest + 1) ++ ['~']

/-- Gives a file the name of a backup, which the value is. -/
def make (n : Naming) (path : Text) : Run (Except SystemError Text) := do
  let name ← nameFor n path
  match ← ask (.move (asName path) (asName name)) with
  | .ok () => return .ok name
  | .error e => return .error e

end Backup

end CellRunner.Tool
