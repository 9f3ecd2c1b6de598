import CellRunner.Shell.Word
import Std.Data.HashMap

/-!
# Tables

A table holds values under texts. The order in which its keys are gone through is that of a
hash table: keys lie in buckets by their hash, the one used last in front, and when the buckets
become too full there are twice as many. Whole numbers have buckets of their own, by their
value, until a text is asked for.
-/

set_option autoImplicit false

namespace CellRunner.Tool.Records

open Shell (Text)

namespace Order

def hash (cs : Text) : UInt32 :=
  cs.foldl (fun h c => (h ^^^ c.toNat.toUInt32) * 16777619) 2166136261

end Order

/-- The buckets that keys lie in. -/
structure Order where
  size : Nat := 0
  /-- the number of buckets is a power of two -/
  buckets : Nat := 64
  texts : Option (Array (List Text)) := none
  numbers : Array (List Int) := Array.replicate 64 []
  /-- whether the keys are the numbers from one on, in no buckets yet -/
  isRow : Bool := false

namespace Order

/-- How many keys there may be for each bucket. -/
def fullness : Nat := 12

def limit (o : Order) : Nat := o.buckets * fullness

def bucketOf (o : Order) (cs : Text) : Nat := (hash cs).toNat % o.buckets

def bucketOfNumber (o : Order) (n : Int) : Nat := (n % (o.buckets : Int)).toNat

def spell (n : Int) : Text := (toString n).toList

/-- Splits each bucket in two; of a bucket those keys move to the new one that belong there. -/
def splitBuckets {α : Type} (rows : Array (List α)) (belongs : Nat → α → Bool) :
    Array (List α) :=
  let n := rows.size
  let old := (Array.range n).map fun i => (rows.getD i []).filter (belongs i)
  let new := (Array.range n).map fun i => (rows.getD i []).filter fun k => !belongs i k
  old ++ new

def double (o : Order) : Order :=
  let o' : Order := { o with buckets := 2 * o.buckets }
  { o' with
    texts := o.texts.map fun t => splitBuckets t fun i k => o'.bucketOf k == i
    numbers := splitBuckets o.numbers fun i k => o'.bucketOfNumber k == i }

def grown (o : Order) : Order :=
  let o := { o with size := o.size + 1 }
  if o.size > o.limit then o.double else o

def putText (o : Order) (cs : Text) : Order :=
  let i := o.bucketOf cs
  { o with texts := o.texts.map fun t => t.modify i (cs :: ·) }

/-- Puts the numbers of a row into buckets; `fuel` bounds how often these double. -/
def widened (size : Nat) : Nat → Nat → Nat
  | 0, n => n
  | fuel + 1, n => if size > n * fullness then widened size fuel (2 * n) else n

def spread (o : Order) : Order :=
  if !o.isRow then o
  else
    let buckets := widened o.size 40 64
    let o : Order := { o with buckets, isRow := false }
    let numbers := (List.range o.size).foldl
      (fun (rows : Array (List Int)) i =>
        rows.modify ((i + 1) % buckets) ((i + 1 : Nat) :: ·)) (Array.replicate buckets [])
    { o with numbers }

/-- Puts the spelling of each number into the buckets of texts. -/
def withTexts (o : Order) : Order :=
  if o.texts.isSome then o
  else
    let o := o.spread
    let empty : Array (List Text) := Array.replicate o.buckets []
    o.numbers.foldl (fun o row => row.foldl (fun o n => o.putText (spell n)) o)
      { o with texts := some empty }

/-- A text is used as a key; `isNew` tells that it was not a key before. -/
def useText (o : Order) (cs : Text) (isNew : Bool) : Order :=
  let o := o.withTexts
  if isNew then o.grown.putText cs
  else
    let i := o.bucketOf cs
    { o with texts := o.texts.map fun t => t.modify i fun row =>
      if row.head? == some cs then row else cs :: row.erase cs }

/-- A whole number is used as a key. -/
def useNumber (o : Order) (n : Int) (isNew : Bool) : Order :=
  if o.isRow && 1 ≤ n && n ≤ o.size then o
  else
    let o := o.spread
    let i := o.bucketOfNumber n
    let row := o.numbers.getD i []
    if row.head? == some n then o
    else if row.contains n then
      { o with numbers := o.numbers.modify i fun row => n :: row.erase n }
    else
      let o := if o.texts.isSome then o.useText (spell n) isNew
        else if isNew then o.grown else o
      { o with numbers := o.numbers.modify (o.bucketOfNumber n) (n :: ·) }

def remove (o : Order) (cs : Text) (n : Option Int) : Order :=
  let o := o.spread
  if o.size ≤ 1 then {}
  else
    let o := { o with
      size := o.size - 1
      texts := o.texts.map fun t => t.modify (o.bucketOf cs) (·.erase cs) }
    match n with
    | some n => { o with numbers := o.numbers.modify (o.bucketOfNumber n) (·.erase n) }
    | none => o

/-- All keys in order. -/
def keys (o : Order) : List Text × Order :=
  let o := o.withTexts
  (((o.texts.getD #[]).toList).flatten, o)

end Order

/-- A key of a table. -/
inductive Key where
  | text (cs : Text)
  | number (n : Int)

def Key.spelling : Key → Text
  | .text cs => cs
  | .number n => Order.spell n

structure Table (α : Type) where
  values : Std.HashMap String α := {}
  order : Order := {}

namespace Table

variable {α : Type}

def use (t : Table α) (k : Key) (isNew : Bool) : Table α :=
  { t with order := match k with
    | .text cs => t.order.useText cs isNew
    | .number n => t.order.useNumber n isNew }

/-- The value under a key; the key is made if it is not there. -/
def get (t : Table α) (k : Key) (usual : α) : α × Table α :=
  let name := String.ofList k.spelling
  match t.values[name]? with
  | some v => (v, t.use k false)
  | none => (usual, { t.use k true with values := t.values.insert name usual })

def set (t : Table α) (k : Key) (v : α) : Table α :=
  let name := String.ofList k.spelling
  let isNew := !t.values.contains name
  let t := t.use k isNew
  { t with values := t.values.insert name v }

def has (t : Table α) (k : Key) : Bool × Table α :=
  let found := t.values.contains (String.ofList k.spelling)
  (found,
    if found then t.use k false
    else { t with order := match k with
      | .text _ => t.order.withTexts
      | .number _ => t.order.spread })

def remove (t : Table α) (k : Key) : Table α :=
  let cs := k.spelling
  let name := String.ofList cs
  if t.values.contains name then
    let n := (String.toInt? name).filter fun n => Order.spell n = cs
    { values := t.values.erase name, order := t.order.remove cs n }
  else t

/-- A table of values under the numbers from one on. -/
def ofList (vs : List α) : Table α :=
  let values := vs.zipIdx.foldl
    (fun (m : Std.HashMap String α) (v, i) => m.insert (toString (i + 1)) v) {}
  { values, order := { size := vs.length, isRow := !vs.isEmpty } }

def size (t : Table α) : Nat := t.values.size

def keys (t : Table α) : List Text × Table α :=
  let (ks, order) := t.order.keys
  (ks, { t with order })

end Table

end CellRunner.Tool.Records
