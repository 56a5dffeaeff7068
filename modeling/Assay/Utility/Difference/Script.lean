/-!
# Scripts of changes

Two texts are compared line by line, each line known by the number of its class. What
is not common to both is marked: a shortest way from one text to the other is looked
for from both ends at once, and what it leaves out is then moved to where it reads
best. The marks are gathered to changes.
-/

set_option autoImplicit false

namespace Assay.Utility.Difference

/-- A stretch that is replaced: the lines in front of it in both texts, and how many lines of
each it takes. -/
structure Change where
  line : Nat
  other : Nat
  dropped : Nat
  added : Nat
deriving DecidableEq, Repr, Inhabited

structure Pair where
  left : Array Nat
  right : Array Nat

namespace Pair

def same (p : Pair) (x y : Nat) : Bool := p.left[x]? == p.right[y]?

/-- Goes on as long as lines are the same, up to limits; yields how far. -/
def forth (p : Pair) (xLimit yLimit : Nat) : Nat → Nat → Nat → Nat
  | 0, _, _ => 0
  | fuel + 1, x, y =>
    if x < xLimit && y < yLimit && p.same x y then p.forth xLimit yLimit fuel (x + 1) (y + 1) + 1
    else 0

/-- Goes back as long as lines are the same, down to limits; yields how far. -/
def back (p : Pair) (xLimit yLimit : Nat) : Nat → Nat → Nat → Nat
  | 0, _, _ => 0
  | fuel + 1, x, y =>
    if xLimit < x && yLimit < y && p.same (x - 1) (y - 1) then
      p.back xLimit yLimit fuel (x - 1) (y - 1) + 1
    else 0

end Pair

structure Window where
  xStart : Nat
  xStop : Nat
  yStart : Nat
  yStop : Nat

/-- How far a search has come on each diagonal, in both directions, and the diagonals that it
has reached. -/
structure Search where
  forward : Array Int
  backward : Array Int
  forwardLow : Int
  forwardHigh : Int
  backwardLow : Int
  backwardHigh : Int

def beyond : Int := 1000000000000

namespace Search

/-- Where a diagonal stands in a table; `shift` is the number of lines of the second text. -/
def index (shift : Nat) (d : Int) : Nat := (d + shift + 1).toNat

def reached (table : Array Int) (shift : Nat) (d : Int) : Int :=
  (table[index shift d]?).getD (-1)

/-- Takes a step forward on every second diagonal, from the highest down to the lowest. Yields
the place where both directions have met, if they have. -/
def stepForward (p : Pair) (w : Window) (odd : Bool) :
    Nat → Int → Search → Search × Option (Nat × Nat)
  | 0, _, s => (s, none)
  | fuel + 1, d, s =>
    if d < s.forwardLow then (s, none)
    else
      let shift := p.right.size
      let low := reached s.forward shift (d - 1)
      let high := reached s.forward shift (d + 1)
      let x := if low < high then high else low + 1
      let start := x.toNat
      let length := p.forth w.xStop w.yStop (p.left.size + 1) start (x - d).toNat
      let x := start + length
      let s := { s with forward := s.forward.set! (index shift d) x }
      if odd && s.backwardLow ≤ d && d ≤ s.backwardHigh && reached s.backward shift d ≤ x then
        (s, some (x, (x - d).toNat))
      else stepForward p w odd fuel (d - 2) s

def stepBackward (p : Pair) (w : Window) (odd : Bool) :
    Nat → Int → Search → Search × Option (Nat × Nat)
  | 0, _, s => (s, none)
  | fuel + 1, d, s =>
    if d < s.backwardLow then (s, none)
    else
      let shift := p.right.size
      let low := reached s.backward shift (d - 1)
      let high := reached s.backward shift (d + 1)
      let x := if low < high then low else high - 1
      let start := x.toNat
      let length := p.back w.xStart w.yStart (p.left.size + 1) start (x - d).toNat
      let x := start - length
      let s := { s with backward := s.backward.set! (index shift d) x }
      if !odd && s.forwardLow ≤ d && d ≤ s.forwardHigh && (x : Int) ≤ reached s.forward shift d then
        (s, some (x, (x - d).toNat))
      else stepBackward p w odd fuel (d - 2) s

/-- Makes room for one more diagonal on each side, as far as the window goes. -/
def widenForward (shift : Nat) (lowest highest : Int) (s : Search) : Search :=
  let s :=
    if lowest < s.forwardLow then
      let low := s.forwardLow - 1
      { s with forwardLow := low, forward := s.forward.set! (index shift (low - 1)) (-1) }
    else { s with forwardLow := s.forwardLow + 1 }
  if s.forwardHigh < highest then
    let high := s.forwardHigh + 1
    { s with forwardHigh := high, forward := s.forward.set! (index shift (high + 1)) (-1) }
  else { s with forwardHigh := s.forwardHigh - 1 }

def widenBackward (shift : Nat) (lowest highest : Int) (s : Search) : Search :=
  let s :=
    if lowest < s.backwardLow then
      let low := s.backwardLow - 1
      { s with backwardLow := low, backward := s.backward.set! (index shift (low - 1)) beyond }
    else { s with backwardLow := s.backwardLow + 1 }
  if s.backwardHigh < highest then
    let high := s.backwardHigh + 1
    { s with backwardHigh := high, backward := s.backward.set! (index shift (high + 1)) beyond }
  else { s with backwardHigh := s.backwardHigh - 1 }

def meet (p : Pair) (w : Window) (odd : Bool) : Nat → Search → Option (Nat × Nat)
  | 0, _ => none
  | fuel + 1, s =>
    let shift := p.right.size
    let lowest : Int := w.xStart - w.yStop
    let highest : Int := w.xStop - w.yStart
    let size := p.left.size + p.right.size + 3
    let s := s.widenForward shift lowest highest
    match s.stepForward p w odd size s.forwardHigh with
    | (_, some place) => some place
    | (s, none) =>
      let s := s.widenBackward shift lowest highest
      match s.stepBackward p w odd size s.backwardHigh with
      | (_, some place) => some place
      | (s, none) => meet p w odd fuel s

def middle (p : Pair) (w : Window) : Option (Nat × Nat) :=
  let shift := p.right.size
  let size := p.left.size + p.right.size + 4
  let first : Int := w.xStart - w.yStart
  let last : Int := w.xStop - w.yStop
  let blank := Array.replicate size (-1 : Int)
  meet p w ((first - last) % 2 != 0) size
    { forward := blank.set! (index shift first) w.xStart
      backward := blank.set! (index shift last) w.xStop
      forwardLow := first, forwardHigh := first, backwardLow := last, backwardHigh := last }

end Search

structure Marks where
  left : Array Bool
  right : Array Bool

def markAll (marks : Array Bool) (start stop : Nat) : Array Bool :=
  (List.range (stop - start)).foldl (fun m i => m.set! (start + i) true) marks

def compare (p : Pair) : Nat → Window → Marks → Marks
  | 0, _, m => m
  | fuel + 1, w, m =>
    let front := p.forth w.xStop w.yStop (p.left.size + 1) w.xStart w.yStart
    let x := w.xStart + front
    let y := w.yStart + front
    let rear := p.back x y (p.left.size + 1) w.xStop w.yStop
    let w : Window := ⟨x, w.xStop - rear, y, w.yStop - rear⟩
    if w.xStop ≤ w.xStart then { m with right := markAll m.right w.yStart w.yStop }
    else if w.yStop ≤ w.yStart then { m with left := markAll m.left w.xStart w.xStop }
    else
      match Search.middle p w with
      | none => m
      | some (x, y) =>
        let m := compare p fuel ⟨w.xStart, x, w.yStart, y⟩ m
        compare p fuel ⟨x, w.xStop, y, w.yStop⟩ m

/-- Whether a line is worth to be compared: it may be left out, perhaps or for sure. -/
inductive Worth where
  | kept
  | doubtful
  | idle
deriving DecidableEq, Repr

namespace Worth

def manyOf (lines : Nat) : Nat :=
  let rec grow : Nat → Nat → Nat → Nat
    | 0, _, many => many
    | fuel + 1, n, many => if n / 4 = 0 then many else grow fuel (n / 4) (2 * many)
  grow lines (lines / 64) 5

def rootOf (length : Nat) : Nat :=
  let rec grow : Nat → Nat → Nat → Nat
    | 0, _, root => root
    | fuel + 1, n, root => if n / 4 = 0 then root else grow fuel (n / 4) (2 * root)
  grow length (length / 4) 1 + 1

/-- Keeps doubtful lines at the front of a run, until three in a row are idle or the first
idle one behind eight lines. -/
def settleFront : Nat → Nat → List Worth → List Worth
  | _, _, [] => []
  | j, consecutive, w :: rest =>
    if 8 ≤ j && w == .idle then w :: rest
    else
      match w with
      | .doubtful => .kept :: settleFront (j + 1) 0 rest
      | .kept => .kept :: settleFront (j + 1) 0 rest
      | .idle =>
        if consecutive = 2 then .idle :: rest
        else .idle :: settleFront (j + 1) (consecutive + 1) rest

/-- Settles a run of lines that may be left out. Doubtful ones at its ends are kept, and so are
all of them if they are many. -/
def settleRun (run : List Worth) : List Worth :=
  let front := (run.takeWhile (· == .doubtful)).length
  let body := run.drop front
  let rear := (body.reverse.takeWhile (· == .doubtful)).length
  let body := body.take (body.length - rear)
  let doubtful := body.countP (· == .doubtful)
  let body :=
    if body.length < 4 * doubtful then
      body.map fun w => if w = .doubtful then .kept else w
    else
      let least := rootOf body.length
      let body := (body.splitBy fun a b => a == b).flatMap fun part =>
        if part.head? == some .doubtful && least ≤ part.length then part.map fun _ => .kept
        else part
      (settleFront 0 0 (settleFront 0 0 body).reverse).reverse
  List.replicate front .kept ++ body ++ List.replicate rear .kept

def settleAll (ws : List Worth) : List Worth :=
  (ws.splitBy fun a b => (a == .kept) == (b == .kept)).flatMap fun part =>
    if part.head? == some .kept then part else settleRun part

def ofLines (lines others : Array Nat) : List Worth :=
  let most := (lines.foldl max 0) + 1
  let counts := others.foldl (fun (cs : Array Nat) n => cs.modify n (· + 1))
    (Array.replicate most 0)
  let many := manyOf lines.size
  settleAll (lines.toList.map fun n =>
    let found := (counts[n]?).getD 0
    if found = 0 then .idle else if many < found then .doubtful else .kept)

end Worth

def kept (minimal : Bool) (lines : Array Nat) (worth : List Worth) : Array Nat × Array Nat :=
  let chosen := (lines.toList.zipIdx.zip worth).filter fun x => minimal || x.2 == .kept
  ((chosen.map fun x => x.1.1).toArray, (chosen.map fun x => x.1.2).toArray)

def spread (size : Nat) (places : Array Nat) (found : Array Bool) : Array Bool :=
  (places.zip found).foldl (fun m x => m.set! x.1 x.2) (Array.replicate size true)

/-- Marks of one text beside those of the other. A line more that is not marked stands at both
ends. -/
structure Shifting where
  marks : Array Bool
  others : Array Bool

namespace Shifting

def isMarked (marks : Array Bool) (i : Nat) : Bool := (marks[i]?).getD false

def ahead (marks : Array Bool) : Nat → Nat → Nat
  | 0, i => i
  | fuel + 1, i => if isMarked marks i then ahead marks fuel (i + 1) else i

def behind (marks : Array Bool) : Nat → Nat → Nat
  | 0, i => i
  | fuel + 1, i => if isMarked marks i then behind marks fuel (i - 1) else i

structure Run where
  marks : Array Bool
  start : Nat
  stop : Nat
  other : Nat

/-- Moves a run back as long as the line in front of it is the same as its last one. -/
def moveBack (classes : Array Nat) (others : Array Bool) : Nat → Run → Run
  | 0, r => r
  | fuel + 1, r =>
    if 1 < r.start && classes[r.start - 1]? == classes[r.stop - 1]? then
      let marks := (r.marks.set! (r.start - 1) true).set! (r.stop - 1) false
      let start := behind marks marks.size (r.start - 1) + 1
      moveBack classes others fuel
        ⟨marks, start, r.stop - 1, behind others others.size (r.other - 1)⟩
    else r

/-- Moves a run forth as long as the line behind it is the same as its first one. Yields the
last place that corresponds to a run of the other text as well. -/
def moveForth (classes : Array Nat) (others : Array Bool) (limit : Nat) :
    Nat → Run → Nat → Run × Nat
  | 0, r, c => (r, c)
  | fuel + 1, r, c =>
    if r.stop ≠ limit && classes[r.start]? == classes[r.stop]? then
      let marks := (r.marks.set! r.start false).set! r.stop true
      let stop := ahead marks marks.size (r.stop + 1)
      let other := ahead others others.size (r.other + 1)
      let c := if isMarked others (r.other + 1) then stop else c
      moveForth classes others limit fuel ⟨marks, r.start + 1, stop, other⟩ c
    else (r, c)

def grow (classes : Array Nat) (others : Array Bool) (limit : Nat) : Nat → Run → Run × Nat
  | 0, r => (r, limit)
  | fuel + 1, r =>
    let length := r.stop - r.start
    let size := classes.size
    let back := moveBack classes others size r
    let c := if isMarked others (back.other - 1) then back.stop else limit
    let (r, c) := moveForth classes others limit size back c
    if r.stop - r.start = length then (r, c) else grow classes others limit fuel r

def retreat (others : Array Bool) (target : Nat) : Nat → Run → Run
  | 0, r => r
  | fuel + 1, r =>
    if target < r.stop then
      retreat others target fuel
        ⟨(r.marks.set! (r.start - 1) true).set! (r.stop - 1) false, r.start - 1, r.stop - 1,
          behind others others.size (r.other - 1)⟩
    else r

def shiftFrom (classes : Array Nat) (others : Array Bool) (limit : Nat) :
    Nat → Nat → Nat → Array Bool → Array Bool
  | 0, _, _, marks => marks
  | fuel + 1, i, j, marks =>
    if limit ≤ i then marks
    else if !isMarked marks i then
      shiftFrom classes others limit fuel (i + 1) (ahead others others.size j + 1) marks
    else
      let size := classes.size
      let r : Run := ⟨marks, i, ahead marks size i, ahead others others.size j⟩
      let (r, c) := grow classes others limit size r
      let r := retreat others c size r
      shiftFrom classes others limit fuel r.stop r.other r.marks

end Shifting

def shifted (classes : Array Nat) (marks others : Array Bool) : Array Bool :=
  let walled := fun (m : Array Bool) => #[false] ++ m ++ #[false]
  let result := Shifting.shiftFrom (#[0] ++ classes ++ #[0]) (walled others) (classes.size + 1)
    (2 * (classes.size + others.size) + 4) 1 1 (walled marks)
  result.extract 1 (classes.size + 1)

def gathered (m : Marks) : Nat → Nat → Nat → List Change
  | 0, _, _ => []
  | fuel + 1, i, j =>
    if m.left.size ≤ i && m.right.size ≤ j then []
    else
      let stop := Shifting.ahead m.left m.left.size i
      let otherStop := Shifting.ahead m.right m.right.size j
      if stop = i && otherStop = j then gathered m fuel (i + 1) (j + 1)
      else ⟨i, j, stop - i, otherStop - j⟩ :: gathered m fuel stop otherStop

def script (minimal : Bool) (p : Pair) : List Change :=
  let (xs, xPlaces) := kept minimal p.left (Worth.ofLines p.left p.right)
  let (ys, yPlaces) := kept minimal p.right (Worth.ofLines p.right p.left)
  let blank := fun (n : Nat) => Array.replicate n false
  let found := compare ⟨xs, ys⟩ (xs.size + ys.size + 2) ⟨0, xs.size, 0, ys.size⟩
    ⟨blank xs.size, blank ys.size⟩
  let left := spread p.left.size xPlaces found.left
  let right := spread p.right.size yPlaces found.right
  let left := shifted p.left left right
  let right := shifted p.right right left
  gathered ⟨left, right⟩ (p.left.size + p.right.size + 2) 0 0

end Assay.Utility.Difference
