import CellRunner.Toml.Statement

/-!
# The tables of a document

Statements are carried out one after the other on a tree of tables. A key is set once. A
header opens a table that no earlier statement has defined, though earlier headers and
paths may have passed through it; a path of keys in an assignment passes only through tables
that such paths made.
-/

set_option autoImplicit false

namespace CellRunner.Toml

/-- How a table came to be. -/
inductive Origin where
  /-- passed through by a header -/
  | passed
  /-- passed through by the path of an assignment -/
  | dotted
  /-- opened by a header -/
  | header
  | inline
  deriving DecidableEq, Repr

inductive Node where
  | scalar (span : Span) (value : Scalar)
  | array (span : Span) (items : List Node)
  /-- the tables that array headers open -/
  | tables (span : Span) (items : List Node)
  | table (span : Span) (origin : Origin) (entries : List (Key × Node))
  deriving Repr

abbrev Entries := List (Key × Node)

namespace Node

def span : Node → Span
  | .scalar s _ => s
  | .array s _ => s
  | .tables s _ => s
  | .table s _ _ => s

def find? (es : Entries) (k : Key) : Option Node :=
  (es.find? (fun e => e.1.text == k.text)).map (·.2)

/-- Changes the value of a key that is there, or puts a new key at the end. -/
def put (es : Entries) (k : Key) (v : Node) : Entries :=
  if es.any (fun e => e.1.text == k.text) then
    es.map fun e => if e.1.text == k.text then (e.1, v) else e
  else es ++ [(k, v)]

/-- What an insertion does to the table it ends in. -/
abbrev Change := Origin → Entries → Option Entries

/-- Applies a change to the table that a path leads to, making tables of the given origin on
the way. -/
def descend (made : Origin) (change : Change) : Path → Origin → Entries → Option Entries
  | [], origin, es => change origin es
  | k :: ks, _, es =>
    match find? es k with
    | none => do
      let inner ← descend made change ks made []
      some (put es k (.table k.span made inner))
    | some (.table span origin inner) =>
      if origin = .inline || (made = .dotted && origin = .header) then none
      else do
        let inner ← descend made change ks origin inner
        some (put es k (.table span origin inner))
    | some (.tables span items) =>
      match items.getLast? with
      | some (.table s origin inner) => do
        let inner ← descend made change ks origin inner
        some (put es k (.tables span (items.dropLast ++ [.table s origin inner])))
      | _ => none
    | some _ => none

/-- Sets a key that is not there yet. -/
def insertNew (k : Key) (v : Node) : Change := fun _ es =>
  match find? es k with
  | none => some (put es k v)
  | some _ => none

/-- Assigns to a path: the table that holds the last key is the current one or one that
paths of assignments made. -/
def assign (path : Path) (v : Node) (origin : Origin) (es : Entries) : Option Entries :=
  match path.getLast? with
  | none => none
  | some k =>
    let change : Change := fun o es =>
      if path.length ≤ 1 || o = .dotted then insertNew k v o es else none
    descend .dotted change path.dropLast origin es

mutual

/-- The node of an expression; `fuel` bounds its nesting. -/
def ofExpression : Nat → Expression → Option Node
  | 0, _ => none
  | _ + 1, .scalar span v => some (.scalar span v)
  | fuel + 1, .array span items => do some (.array span (← ofItems fuel items))
  | fuel + 1, .inline span entries => do some (.table span .inline (← ofEntries fuel entries []))

def ofItems : Nat → List Expression → Option (List Node)
  | 0, _ => none
  | _ + 1, [] => some []
  | fuel + 1, e :: es => do some ((← ofExpression fuel e) :: (← ofItems fuel es))

def ofEntries : Nat → List (Path × Expression) → Entries → Option Entries
  | 0, _, _ => none
  | _ + 1, [], out => some out
  | fuel + 1, (p, e) :: es, out => do
    let v ← ofExpression fuel e
    ofEntries fuel es (← assign p v .inline out)

end

/-- Opens the table of a header; the key is that of the header from now on. -/
def openTable (span : Span) (k : Key) : Change := fun _ es =>
  match find? es k with
  | none => some (put es k (.table span .header []))
  | some (.table _ .passed inner) =>
    some (put (es.filter (fun e => e.1.text != k.text)) k (.table span .header inner))
  | some _ => none

/-- Adds a table to an array of tables. -/
def addTable (span : Span) (k : Key) : Change := fun _ es =>
  match find? es k with
  | none => some (put es k (.tables span [.table span .header []]))
  | some (.tables s items) => some (put es k (.tables s (items ++ [.table span .header []])))
  | some _ => none

/-- The root and the path of the table that assignments go to. -/
structure State where
  current : Path := []
  root : Entries := []

/-- Applies a change to the table that a header has opened. -/
def within (path : Path) (change : Change) (es : Entries) : Option Entries :=
  descend .passed change path .header es

def carryOut (fuel : Nat) (s : State) : Statement → Option State
  | .header span path =>
    match path.getLast? with
    | none => none
    | some k => do some ⟨path, ← within path.dropLast (openTable span k) s.root⟩
  | .arrayHeader span path =>
    match path.getLast? with
    | none => none
    | some k => do some ⟨path, ← within path.dropLast (addTable span k) s.root⟩
  | .assignment path e => do
    let v ← ofExpression fuel e
    some ⟨s.current, ← within s.current (fun o es => assign path v o es) s.root⟩

end Node

/-- The root table of a document; none when the document is ill-formed. -/
def parse (text : String) : Option Entries := do
  let ss ← Statement.readAll text
  let s ← ss.foldlM (Node.carryOut (2 * text.length + 2)) {}
  some s.root

end CellRunner.Toml
