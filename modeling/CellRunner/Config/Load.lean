import CellRunner.Fault.Basic
import CellRunner.World

/-!
# Configuration files
-/

set_option autoImplicit false

namespace CellRunner.Config

variable {σ : Type}

/-- The file looked for when no other is named. -/
def defaultPath : String := "Ckernel.toml"

/-- The configuration in the bytes of a file. -/
def ofBytes (bytes : List UInt8) : Except Fault Config :=
  match Utf8.text bytes with
  | .error _ => .error (.io .notUtf8)
  | .ok text =>
    match Toml.parse text with
    | none => .error .tomlSyntax
    | some entries =>
      match ofEntries entries with
      | .ok c => .ok c
      | .error f => .error (.tomlSchema text f)

/-- The configuration in a file, not yet checked. -/
def load (w : World σ) (world : σ) (path : String) : Except Fault Config :=
  match w.read world path with
  | .error e => .error (.io e)
  | .ok bytes => ofBytes bytes

def isDirectory (w : World σ) (world : σ) (path : String) : Bool :=
  match w.lookup world path with
  | .ok kind => kind = .directory
  | .error _ => false

def validate (w : World σ) (world : σ) (c : Config) : Except Fault Config :=
  match c.fault? (isDirectory w world) with
  | some f => .error (.config f)
  | none => .ok c

def loadAndValidate (w : World σ) (world : σ) (path : String) : Except Fault Config :=
  match load w world path with
  | .error f => .error f
  | .ok c => validate w world c

/-- Whether a path can be looked up at all. -/
def isThere (w : World σ) (world : σ) (path : String) : Bool :=
  match w.lookup world path with
  | .ok _ => true
  | .error _ => false

/-- The defaults, when the path cannot be looked up. -/
def loadOrDefault (w : World σ) (world : σ) (path : String) : Except Fault Config :=
  if isThere w world path then loadAndValidate w world path else validate w world {}

end CellRunner.Config
