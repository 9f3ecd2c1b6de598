import CellRunner.Tool.Amount
import CellRunner.Tool.Mode

/-!
# Changing who owns files

Only the owner of a file may do so, and only to keep it.
-/

set_option autoImplicit false

namespace CellRunner.Tool

open Machine (Prog FileInfo Account)
open Shell (Text asName)

namespace Ownership

/-- The user and the group that files are to have, by number and as they were named. -/
structure Owners where
  user : Option Nat := none
  group : Option Nat := none
  userName : Option Text := none
  groupName : Option Text := none

inductive Fault where
  | user
  | group
  | spec

def Fault.text : Fault → Text
  | .user => "invalid user".toList
  | .group => "invalid group".toList
  | .spec => "invalid spec".toList

/-- A number that stands for itself. -/
def numeric? (cs : Text) : Option Nat :=
  (natural? (if cs.head? = some '+' then cs.tail else cs)).filter (· < Nat.pow 2 32 - 1)

def group? (cs : Text) : Option Nat :=
  ((Account.groups.find? (·.name.toList == cs)).map (·.number)).or (numeric? cs)

/-- What stands before and after a mark; the part after it is none if there is no mark. -/
def Owners.of (user : Text) (group : Option Text) : Except Fault Owners := do
  let account := Account.users.find? (·.name.toList == user)
  let groupText := group.filter (!·.isEmpty)
  let takesLogin := group.isSome && groupText.isNone && !user.isEmpty
  let number ← if user.isEmpty then .ok none
    else
      match account with
      | some a => .ok (some a.number)
      | none =>
        if takesLogin then .error .spec
        else
          match numeric? user with
          | some n => .ok (some n)
          | none => .error .user
  let groupNumber ← match groupText with
    | none => .ok (if takesLogin then account.map (·.group) else none)
    | some g =>
      match group? g with
      | some n => .ok (some n)
      | none => .error .group
  let loginName := (account.bind fun a => Account.groups.find? (·.number == a.group)).map
    (·.name.toList)
  return {
    user := number, group := groupNumber
    userName := if user.isEmpty then none else some user
    groupName := if takesLogin then loginName else groupText }

/-- The owners that a text names, and whether a period stands where a colon should. -/
def parse (cs : Text) : Except Fault (Owners × Bool) :=
  let (front, rest) := cs.span (· != ':')
  match rest with
  | _ :: group => (Owners.of front (some group)).map (·, false)
  | [] =>
    match Owners.of cs none with
    | .ok o => .ok (o, false)
    | .error e =>
      let (front, rest) := cs.span (· != '.')
      match rest with
      | [] => .error e
      | _ :: group =>
        match Owners.of front (some group) with
        | .ok o => .ok (o, true)
        | .error _ => .error e

def together (user group : Option Text) : Option Text :=
  match user, group with
  | some u, some g => some (u ++ ':' :: g)
  | some u, none => some u
  | none, g => g

structure Telling where
  all : Bool
  changes : Bool
  quiet : Bool
  recursive : Bool
  /-- whether links themselves are meant -/
  own : Bool

def groupName (i : FileInfo) : Text := ownerName i

/-- Whether the system lets the user do this. -/
def isAllowed (o : Owners) (i : FileInfo) : Bool :=
  (o.user.isNone && o.group.isNone) ||
    (i.owned && (o.user.getD userNumber) = userNumber && (o.group.getD userNumber) = userNumber)

/-- What did not change about a file, in words. -/
def unmoved (path : Text) (o : Owners) (before : Option Text) : Text :=
  let front := if o.userName.isSome || o.groupName.isNone then "failed to change ownership of "
    else "failed to change group of "
  front.toList ++ named path ++
    (match together o.userName o.groupName with
      | none => []
      | some w => (before.map (" from ".toList ++ ·)).getD [] ++ " to ".toList ++ w) ++ ['\n']

/-- What changes about a file, in words. -/
def describe (path : Text) (o : Owners) (old : FileInfo) (ok : Bool) : Text :=
  let what (user group : String) : Text :=
    if o.userName.isSome then user.toList else group.toList
  let wanted := together o.userName o.groupName
  let before := (together (o.userName.map fun _ => ownerName old)
    (o.groupName.map fun _ => groupName old)).getD []
  if !ok then unmoved path o (some before)
  else
    match wanted with
    | none => "ownership of ".toList ++ named path ++ " retained\n".toList
    | some _ =>
      what "ownership of " "group of " ++ named path ++ " retained as ".toList ++ before ++ ['\n']

/-- Changes the owners of a file, and of all that is in a directory; `fuel` bounds the depth. -/
def change (o : Owners) (t : Telling) : Nat → Text → Run Nat
  | 0, _ => return 1
  | fuel + 1, path => do
    match ← (if t.own then ownInfoOf path else infoOf path) with
    | .error e =>
      if t.quiet then return 1
      else
        match ← ownInfoOf path with
        | .ok _ => cannot "cannot dereference" path e
        | .error e =>
          let code ← cannot "cannot access" path e
          if t.all then out (unmoved path o none)
          return code
    | .ok info =>
      let inside ← if t.recursive && info.isDirectory then
          match ← ask (.list (asName path)) with
          | .error e => cannot "cannot read directory" path e
          | .ok names =>
            forEach (names.map Shell.ofString) fun n =>
              change o { t with own := true } fuel (within path n)
        else pure 0
      let ok := isAllowed o info
      let sets := if info.isDirectory || o.user.isNone && o.group.isNone then 0
        else info.mode &&& (0o4000 ||| (if info.mode &&& 0o010 != 0 then 0o2000 else 0))
      if ok && sets != 0 then
        let _ ← ask (.setMode (asName path) (info.mode - sets))
      if !ok && !t.quiet then
        let deed := if o.user.isSome then "changing ownership of" else "changing group of"
        let _ ← cannot deed path .notPermitted
      if t.all then out (describe path o info ok)
      return max inside (if ok then 0 else 1)

def letters : String := "cfvRhHLP\x01:\x02\x03:\x04\x05"

def words : List (String × Char) :=
  [("changes", 'c'), ("silent", 'f'), ("quiet", 'f'), ("verbose", 'v'), ("recursive", 'R'),
    ("no-dereference", 'h'), ("reference", '\x01'), ("dereference", '\x02'), ("from", '\x03'),
    ("preserve-root", '\x04'), ("no-preserve-root", '\x05')]

/-- Changes owners as the first operand, or a file, tells. -/
def changeAll (read : Text → Run Owners) (model : FileInfo → Owners) : Tool := do
  let (os, operands) ← readOptions (.make letters words)
  let t : Telling :=
    { all := has "v" os, changes := has "c" os, quiet := has "f" os, recursive := has "R" os
      own := lastOf? "h\x02" os = some 'h' }
  match valueOf? '\x01' os, operands with
  | some path, paths =>
    if paths.isEmpty then misuse "missing operand".toList
    else
      match ← infoOf path with
      | .error e => fail ("failed to get attributes of ".toList ++ because (named path) e)
      | .ok i => forEach paths (change (model i) t greatestDepth)
  | none, [] => misuse "missing operand".toList
  | none, [only] => misuse ("missing operand after ".toList ++ quoted only)
  | none, spec :: paths => do
    let o ← read spec
    forEach paths (change o t greatestDepth)

end Ownership

open Ownership in
def chown : Tool := do
  changeAll
    (fun spec => do
      match parse spec with
      | .error e => fail (e.text ++ ": ".toList ++ quoted spec)
      | .ok (o, dotted) =>
        if dotted then
          complain ("warning: '.' should be ':': ".toList ++ quoted spec)
        return if o.userName.isNone && o.groupName.isSome then { o with userName := some [] } else o)
    fun i =>
      { user := some (ownerNumber i), group := some (ownerNumber i)
        userName := some (ownerName i), groupName := some (groupName i) }

open Ownership in
def chgrp : Tool := do
  changeAll
    (fun spec => do
      if spec.isEmpty then return {}
      else
        match group? spec with
        | some n => return { group := some n, groupName := some spec }
        | none => fail ("invalid group: ".toList ++ quoted spec))
    fun i => { group := some (ownerNumber i), groupName := some (groupName i) }

end CellRunner.Tool
