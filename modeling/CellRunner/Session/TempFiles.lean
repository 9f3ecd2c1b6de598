import CellRunner.Session.Scene

/-!
# Temporary files

A file is tracked from the moment it is made and filled until its removal has been tried
once.
-/

set_option autoImplicit false

namespace CellRunner.TempFiles

variable {σ : Type}

/-- One attempt to remove a file. -/
def removeFile (w : World σ) (path : String) : Act σ (Except IoFault Unit) := do
  let r ← Act.ask fun s => w.remove s path
  Act.emit (.removed path r)
  return r

/-- Makes a file of its own with a suffix and contents, and tracks it. -/
def create (w : World σ) (suffix : String) (contents : List UInt8) : Act σ String := do
  let dir := (← get).files.dir
  match ← Act.ask fun s => w.create s dir suffix with
  | .error e =>
    Act.emit (.notCreated dir suffix e)
    Act.fail (.creating dir e)
  | .ok path =>
    match ← Act.ask fun s => w.fill s path contents with
    | .error e =>
      let _ ← removeFile w path
      Act.fail (.writing path e)
    | .ok () =>
      modify fun s => { s with files := { s.files with paths := s.files.paths ++ [path] } }
      Act.emit (.created path contents)
      return path

/-- A removal that failed; a file that is gone already is no failure. -/
def removalFailure? (path : String) : Except IoFault Unit → Option (String × IoFault)
  | .ok () => none
  | .error e => if e.isAbsence then none else some (path, e)

/-- Tries to remove each file in turn, and gives the failures in order. -/
def removeAll (w : World σ) : List String → Act σ (List (String × IoFault))
  | [] => return []
  | path :: paths => do
    let r ← removeFile w path
    let rest ← removeAll w paths
    return (removalFailure? path r).toList ++ rest

/-- Tries to remove all tracked files, after which none is tracked; gives the failures. -/
def release (w : World σ) : Act σ (List (String × IoFault)) := do
  let paths := (← get).files.paths
  modify fun s => { s with files := { s.files with paths := [] } }
  removeAll w paths

/-- Removes all tracked files; the first failure is the fault. -/
def cleanup (w : World σ) : Act σ Unit := do
  let failures ← release w
  Act.emitAll (failures.map fun (path, e) => .removalFailed path e)
  match failures with
  | [] => return ()
  | (path, e) :: _ => Act.fail (.removing path e)

/-- The end of the tracker: the files still tracked are removed, whatever comes of it. -/
def drop (w : World σ) : Act σ Unit := do
  let _ ← release w

end CellRunner.TempFiles
