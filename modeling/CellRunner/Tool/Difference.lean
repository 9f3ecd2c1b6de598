/-!
# Differences between two rows

Two rows are compared by looking for a shortest way from one to the other in steps that drop
an item or add one. The search goes from both ends at once and halves the task where the two
searches meet. Items are numbers: equal numbers stand for equal items.
-/

set_option autoImplicit false

namespace CellRunner.Tool.Difference

/-- Which items of each row are not in the other. -/
structure Marks where
  first : Array Bool
  second : Array Bool

/-- The parts of the two rows that are compared. -/
structure Window where
  xoff : Int
  xlim : Int
  yoff : Int
  ylim : Int
  deriving Inhabited

section

variable (xs ys : Array Nat)

def same (x y : Int) : Bool := xs.getD x.toNat 0 == ys.getD y.toNat 0

/-- How far equal items follow one another. -/
def slideDown (w : Window) : Nat → Int → Int → Int
  | 0, x, _ => x
  | fuel + 1, x, y =>
    if x < w.xlim && y < w.ylim && same xs ys x y then slideDown w fuel (x + 1) (y + 1) else x

def slideUp (w : Window) : Nat → Int → Int → Int
  | 0, x, _ => x
  | fuel + 1, x, y =>
    if w.xoff < x && w.yoff < y && same xs ys (x - 1) (y - 1) then slideUp w fuel (x - 1) (y - 1)
    else x

/-- The furthest places reached on the diagonals, from the start or from the end. -/
structure Front where
  reached : Array Int
  least : Int
  most : Int

def Front.at_ (f : Front) (base d : Int) : Int := f.reached.getD (d + base).toNat 0

def Front.put (f : Front) (base d x : Int) : Front :=
  { f with reached := f.reached.setIfInBounds (d + base).toNat x }

def far : Int := 1000000000

/-- Widens a front by one diagonal on each side. -/
def widen (f : Front) (base dmin dmax outside : Int) : Front :=
  let f := if f.least > dmin then
      let f := { f with least := f.least - 1 }
      f.put base (f.least - 1) outside
    else { f with least := f.least + 1 }
  if f.most < dmax then
    let f := { f with most := f.most + 1 }
    f.put base (f.most + 1) outside
  else { f with most := f.most - 1 }

/-- Goes over the diagonals from the highest down; gives the place where the searches meet. -/
def forwardStep (w : Window) (base : Int) (odd : Bool) (back : Front) :
    Nat → Int → Front → Front × Option (Int × Int)
  | 0, _, f => (f, none)
  | fuel + 1, d, f =>
    if d < f.least then (f, none)
    else
      let low := f.at_ base (d - 1)
      let high := f.at_ base (d + 1)
      let x0 := if low < high then high else low + 1
      let x := slideDown xs ys w (w.xlim - x0).toNat x0 (x0 - d)
      let f := f.put base d x
      if odd && back.least ≤ d && d ≤ back.most && back.at_ base d ≤ x then (f, some (x, x - d))
      else forwardStep w base odd back fuel (d - 2) f

def backwardStep (w : Window) (base : Int) (odd : Bool) (front : Front) :
    Nat → Int → Front → Front × Option (Int × Int)
  | 0, _, f => (f, none)
  | fuel + 1, d, f =>
    if d < f.least then (f, none)
    else
      let low := f.at_ base (d - 1)
      let high := f.at_ base (d + 1)
      let x0 := if low < high then low else high - 1
      let x := slideUp xs ys w (x0 - w.xoff).toNat x0 (x0 - d)
      let f := f.put base d x
      if !odd && front.least ≤ d && d ≤ front.most && x ≤ front.at_ base d then (f, some (x, x - d))
      else backwardStep w base odd front fuel (d - 2) f

/-- Where a shortest way passes the middle. -/
def middleFrom (w : Window) (base : Int) (odd : Bool) : Nat → Front → Front → Int × Int
  | 0, _, _ => (w.xoff, w.yoff)
  | fuel + 1, f, b =>
    let dmin := w.xoff - w.ylim
    let dmax := w.xlim - w.yoff
    let size := (dmax - dmin).toNat + 2
    let f := widen f base dmin dmax (-1)
    match forwardStep xs ys w base odd b size f.most f with
    | (_, some p) => p
    | (f, none) =>
      let b := widen b base dmin dmax far
      match backwardStep xs ys w base odd f size b.most b with
      | (_, some p) => p
      | (b, none) => middleFrom w base odd fuel f b

def middle (w : Window) : Int × Int :=
  let base := (ys.size : Int) + 2
  let room := xs.size + ys.size + 5
  let start (d x : Int) : Front :=
    let f : Front := { reached := Array.replicate room 0, least := d, most := d }
    f.put base d x
  let fmid := w.xoff - w.yoff
  let bmid := w.xlim - w.ylim
  middleFrom xs ys w base ((fmid - bmid) % 2 != 0) room (start fmid w.xoff) (start bmid w.xlim)

def markAll (marks : Array Bool) (start stop : Int) : Array Bool :=
  (List.range (stop - start).toNat).foldl
    (fun m i => m.setIfInBounds (start.toNat + i) true) marks

/-- Marks the items that differ; `fuel` bounds the halvings. -/
def compareWindow : Nat → Window → Marks → Marks
  | 0, _, m => m
  | fuel + 1, w, m =>
    let x := slideDown xs ys w (w.xlim - w.xoff).toNat w.xoff w.yoff
    let w := { w with xoff := x, yoff := w.yoff + (x - w.xoff) }
    let u := slideUp xs ys w (w.xlim - w.xoff).toNat w.xlim w.ylim
    let w := { w with xlim := u, ylim := w.ylim - (w.xlim - u) }
    if w.xoff = w.xlim then { m with second := markAll m.second w.yoff w.ylim }
    else if w.yoff = w.ylim then { m with first := markAll m.first w.xoff w.xlim }
    else
      let (x, y) := middle xs ys w
      compareWindow fuel { w with xoff := x, yoff := y }
        (compareWindow fuel { w with xlim := x, ylim := y } m)

end

/-! ### Lines that have no partner -/

/-- Lines that are left out before the search: 1 for those without a partner, 2 for those with
so many that they tell little. -/
def discards (items : Array Nat) (count : Nat → Nat) : Array Nat :=
  let rec threshold : Nat → Nat → Nat → Nat
    | 0, _, many => many
    | fuel + 1, n, many => if n / 4 > 0 then threshold fuel (n / 4) (many * 2) else many
  let many := threshold 40 (items.size / 64) 5
  items.map fun e =>
    let n := count e
    if n = 0 then 1 else if n > many then 2 else 0

/-- Sets some places of a row to zero where they hold a two. -/
def keep (ds : Array Nat) (places : List Nat) : Array Nat :=
  places.foldl (fun ds i => if ds.getD i 0 = 2 then ds.setIfInBounds i 0 else ds) ds

/-- The length of the row of marked lines from a place on. -/
def runLength (ds : Array Nat) : Nat → Nat → Nat
  | 0, _ => 0
  | fuel + 1, i => if ds.getD i 0 = 0 then 0 else runLength ds fuel (i + 1) + 1

/-- A run without the twos at its end. -/
def trimmedRun (ds : Array Nat) (i : Nat) : Nat → Nat
  | 0 => 0
  | n + 1 => if ds.getD (i + n) 0 = 2 then trimmedRun ds i n else n + 1

/-- Rows of at least `least` twos in a run, by their places. -/
def subruns (ds : Array Nat) (least : Nat) : List Nat → List Nat → List Nat
  | [], row => if row.length ≥ least then row else []
  | i :: rest, row =>
    if ds.getD i 0 = 2 then subruns ds least rest (i :: row)
    else (if row.length ≥ least then row else []) ++ subruns ds least rest []

/-- The twos at the beginning of a run, up to three ones in a row or the first one eight lines
in. -/
def early (ds : Array Nat) : Nat → Nat → List Nat → List Nat
  | _, _, [] => []
  | n, ones, i :: rest =>
    let d := ds.getD i 0
    if n ≥ 8 && d = 1 then []
    else if d = 2 then i :: early ds (n + 1) 0 rest
    else if d = 0 then early ds (n + 1) 0 rest
    else if ones + 1 = 3 then []
    else early ds (n + 1) (ones + 1) rest

def leastSubrun (length : Nat) : Nat :=
  let rec go : Nat → Nat → Nat → Nat
    | 0, _, m => m
    | fuel + 1, n, m => if n / 4 > 0 then go fuel (n / 4) (m * 2) else m
  go 40 (length / 4) 1 + 1

/-- Keeps twos that are not in the middle of runs of marked lines; `fuel` bounds the lines. -/
def settle : Nat → Nat → Array Nat → Array Nat
  | 0, _, ds => ds
  | fuel + 1, i, ds =>
    if i ≥ ds.size then ds
    else if ds.getD i 0 = 0 then settle fuel (i + 1) ds
    else if ds.getD i 0 = 2 then settle fuel (i + 1) (ds.setIfInBounds i 0)
    else
      let whole := runLength ds ds.size i
      let length := trimmedRun ds i whole
      let ds := keep ds ((List.range (whole - length)).map (· + (i + length)))
      let places := (List.range length).map (· + i)
      let twos := places.countP fun p => ds.getD p 0 = 2
      let ds := if twos * 4 > length then keep ds places
        else
          let ds := keep ds (subruns ds (leastSubrun length) places [])
          let ds := keep ds (early ds 0 0 places)
          keep ds (early ds 0 0 places.reverse)
      settle fuel (i + max length 1) ds

/-! ### Moving changes -/

def marked (m : Array Bool) (i : Int) : Bool := i ≥ 0 && m.getD i.toNat false

def setMark (m : Array Bool) (i : Int) (b : Bool) : Array Bool := m.setIfInBounds i.toNat b

/-- The first place from `i` on, or back from it, that is not marked. -/
def forth (m : Array Bool) : Nat → Int → Int
  | 0, i => i
  | fuel + 1, i => if marked m i then forth m fuel (i + 1) else i

def back (m : Array Bool) : Nat → Int → Int
  | 0, i => i
  | fuel + 1, i => if marked m i then back m fuel (i - 1) else i

/-- A run of changed items, with the place in the other row that it corresponds to. -/
structure Sliding where
  changed : Array Bool
  start : Int
  stop : Int
  other : Int
  /-- the last end of the run that stands beside a change of the other row -/
  beside : Int

section

variable (items : Array Nat) (others : Array Bool)

def size : Nat := others.size + items.size + 2

/-- Moves a run back as long as the item before it equals its last one. -/
def slideBack : Nat → Sliding → Sliding
  | 0, s => s
  | fuel + 1, s =>
    if s.start > 0 && items.getD (s.start - 1).toNat 0 == items.getD (s.stop - 1).toNat 0 then
      let changed := setMark (setMark s.changed (s.start - 1) true) (s.stop - 1) false
      let start := back changed (size items others) (s.start - 2) + 1
      slideBack fuel
        { s with changed, start, stop := s.stop - 1
                 other := back others (size items others) (s.other - 1) }
    else s

/-- Moves a run forward as long as the item after it equals its first one. -/
def slideForth : Nat → Sliding → Sliding
  | 0, s => s
  | fuel + 1, s =>
    if s.stop < items.size && items.getD s.start.toNat 0 == items.getD s.stop.toNat 0 then
      let changed := setMark (setMark s.changed s.start false) s.stop true
      let stop := forth changed (size items others) (s.stop + 1)
      let other := forth others (size items others) (s.other + 1)
      let beside := if other > s.other + 1 then stop else s.beside
      slideForth fuel { changed, start := s.start + 1, stop, other, beside }
    else s

/-- Moves a run both ways until it grows no more. -/
def slide : Nat → Sliding → Sliding
  | 0, s => s
  | fuel + 1, s =>
    let length := s.stop - s.start
    let s := slideBack items others items.size s
    let s := { s with beside := if marked others (s.other - 1) then s.stop else items.size }
    let s := slideForth items others items.size s
    if s.stop - s.start = length then s else slide fuel s

/-- Moves a run back to the last place where the other row has a change as well. -/
def slideBeside : Nat → Sliding → Sliding
  | 0, s => s
  | fuel + 1, s =>
    if s.beside < s.stop then
      let changed := setMark (setMark s.changed (s.start - 1) true) (s.stop - 1) false
      slideBeside fuel
        { s with changed, start := s.start - 1, stop := s.stop - 1
                 other := back others (size items others) (s.other - 1) }
    else s

/-- Moves all runs of a row, from a place on; `fuel` bounds the items. -/
def shiftFrom : Nat → Int → Int → Array Bool → Array Bool
  | 0, _, _, changed => changed
  | fuel + 1, i, j, changed =>
    if i ≥ items.size then changed
    else if !marked changed i then
      shiftFrom fuel (i + 1) (forth others (size items others) j + 1) changed
    else
      let stop := forth changed (size items others) (i + 1)
      let other := forth others (size items others) j
      let s : Sliding := { changed, start := i, stop, other, beside := items.size }
      let s := slide items others (items.size + 1) s
      let s := slideBeside items others items.size s
      shiftFrom fuel s.stop s.other s.changed

end

def shift (items : Array Nat) (others changed : Array Bool) : Array Bool :=
  shiftFrom items others (items.size + 1) 0 0 changed

/-! ### The whole -/

/-- Items that were kept, with their places. -/
def kept (items ds : Array Nat) : Array (Nat × Nat) :=
  ((items.zip (Array.range items.size)).zip ds).filterMap fun (p, d) =>
    if d = 0 then some p else none

def countIn (items : Array Nat) : Array Nat :=
  let most := items.foldl max 0
  items.foldl (fun c e => c.modify e (· + 1)) (Array.replicate (most + 1) 0)

/-- The items of each row that have no partner in the other. -/
def compare (xs ys : Array Nat) : Marks :=
  let cx := countIn xs
  let cy := countIn ys
  let dx := settle (xs.size + 1) 0 (discards xs fun e => cy.getD e 0)
  let dy := settle (ys.size + 1) 0 (discards ys fun e => cx.getD e 0)
  let kx := kept xs dx
  let ky := kept ys dy
  let px := kx.map (·.1)
  let py := ky.map (·.1)
  let m := compareWindow px py (px.size + py.size + 1) ⟨0, px.size, 0, py.size⟩
    { first := Array.replicate px.size false, second := Array.replicate py.size false }
  let spread (k : Array (Nat × Nat)) (part : Array Bool) (ds : Array Nat) : Array Bool :=
    (k.zip part).foldl (fun a (p, b) => a.setIfInBounds p.2 b) (ds.map (· != 0))
  let first := spread kx m.first dx
  let second := spread ky m.second dy
  let first := shift xs second first
  { first, second := shift ys first second }

/-- A change: items of the first row that are dropped and of the second that are added. -/
structure Change where
  first : Nat
  dropped : Nat
  second : Nat
  added : Nat
  deriving DecidableEq, Repr

/-- The changes in order; `fuel` bounds the items. -/
def changesFrom (m : Marks) : Nat → Nat → Nat → List Change
  | 0, _, _ => []
  | fuel + 1, i, j =>
    if i ≥ m.first.size && j ≥ m.second.size then []
    else
      let i' := (forth m.first m.first.size i).toNat
      let j' := (forth m.second m.second.size j).toNat
      if i' > i || j' > j then ⟨i, i' - i, j, j' - j⟩ :: changesFrom m fuel i' j'
      else changesFrom m fuel (i + 1) (j + 1)

def changes (m : Marks) : List Change :=
  changesFrom m (m.first.size + m.second.size + 1) 0 0

end CellRunner.Tool.Difference
