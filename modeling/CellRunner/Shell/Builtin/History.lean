import CellRunner.Shell.Help

/-!
# Commands that were given before

A script notes commands only if it is told to.
-/

set_option autoImplicit false

namespace CellRunner.Shell.Builtin

/-- A number in five columns. -/
def paddedNumber (n : Nat) : Text :=
  let digits := Script.decimal n
  List.replicate (5 - digits.length) ' ' ++ digits

/-- The place of a command that a number means; negative numbers count from the end. -/
def pastPlace (count : Nat) (n : Int) : Option Nat :=
  if 0 < n && n ≤ count then some (n - 1).toNat
  else if n < 0 && -n ≤ count then some (count + n).toNat
  else none

/-- Lists, notes or forgets commands. -/
def history (args : List Text) : Script Nat := do
  withOptions "acnrpsw" "d" (Help.usage "history") args fun options operands => do
    let past := (← get).past
    if has 's' options then
      if !operands.isEmpty then
        modify fun s => { s with past := s.past ++ [List.intercalate [' '] operands] }
      return 0
    if has 'p' options then
      match operands.find? fun a => a.head? = some '!' && a.length > 1 with
      | some a =>
        Script.refuse (a ++ ": history expansion failed".toList)
        return 1
      | none => return ← put (operands.flatMap (· ++ ['\n']))
    if has 'c' options then modify fun s => { s with past := [] }
    if let some n := valueOf 'd' options then
      match (Condition.integer? n).bind (pastPlace past.length) with
      | some place =>
        modify fun s => { s with past := s.past.eraseIdx place }
        return 0
      | none =>
        Script.refuse (n ++ ": history position out of range".toList)
        return 1
    if has 'c' options then return 0
    if options.any fun o => "anrw".toList.contains o.1 then
      return if operands.isEmpty && (← Script.lookup "HISTFILE".toList).isNone then 1 else 0
    let count ← match operands with
      | [] => pure past.length
      | a :: _ =>
        match Condition.integer? a with
        | some n => pure n.natAbs
        | none =>
          Script.refuse (a ++ ": numeric argument required".toList)
          return 1
    let shown := past.zipIdx.drop (past.length - count)
    put (shown.flatMap fun (cs, i) => paddedNumber (i + 1) ++ "  ".toList ++ cs ++ ['\n'])

/-- The place of a command that `fc` is told: by its number, or by what it begins with. -/
def pastChoice (past : List Text) (a : Text) : Option Nat :=
  match Condition.integer? a with
  | some n =>
    if n ≤ 0 then some (past.length - min past.length (if n = 0 then 1 else n.natAbs))
    else some (min n.toNat past.length - 1)
  | none => (past.zipIdx.reverse.find? fun (cs, _) => a.isPrefixOf cs).map (·.2)

/-- Lists commands that were given before. -/
def listPast (options : List (Char × Text)) (operands : List Text) : Script Nat := do
  let past := (← get).past
  if past.isEmpty then return 0
  let usual := past.length - min past.length 16
  let first := match operands with
    | a :: _ => pastChoice past a
    | [] => some usual
  let last := match operands with
    | _ :: b :: _ => pastChoice past b
    | _ => some (past.length - 1)
  match first, last with
  | some a, some b =>
    let (low, high) := (min a b, max a b)
    let shown := (past.zipIdx.drop low).take (high + 1 - low)
    let shown := if has 'r' options = (a ≤ b) then shown.reverse else shown
    put (shown.flatMap fun (cs, i) =>
      (if has 'n' options then [] else Script.decimal (i + 1)) ++ "\t ".toList ++ cs ++ ['\n'])
  | _, _ =>
    Script.refuse "no command found".toList
    return 1

/-- Tells that there is no line to edit. -/
def bind (_ : List Text) : Script Nat := do
  Script.refuse "warning: line editing not enabled".toList
  return 0

end CellRunner.Shell.Builtin
