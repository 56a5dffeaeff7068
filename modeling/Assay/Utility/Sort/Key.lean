import Assay.Shell.Format
import Assay.Utility.Quoted
import Assay.Utility.Version

/-!
# Keys and ranks of lines

The parts of lines by which they are sorted, and what settles their order.
-/

set_option autoImplicit false

namespace Assay.Utility.Sorting

/-!
## Sort keys

A key is a part of a line, between two places in it, and the order that such
parts are brought into. A place is a number of fields, and of characters behind
them.
-/

/-- How texts are brought into order: by the letters for it, all of which may be given at
once, and with or without the blanks at the places between which a text stands. -/
structure Order where
  letters : List Char
  skipsStart : Bool
  skipsStop : Bool
deriving DecidableEq, Repr

/-- Which places of a key a letter for skipping blanks stands at. -/
inductive Side where
  | start
  | stop
  | both
deriving DecidableEq, Repr

namespace Order

def plain : Order := ⟨[], false, false⟩

def has (o : Order) (c : Char) : Bool := o.letters.contains c

def take (side : Side) (o : Order) (c : Char) : Order :=
  if c = 'b' then
    { o with skipsStart := o.skipsStart || side != .stop
             skipsStop := o.skipsStop || side != .start }
  else if o.has c then o
  else { o with letters := o.letters ++ [c] }

def comparesAsIs (o : Order) : Bool :=
  o.letters.all (· == 'r') && !o.skipsStart && !o.skipsStop

def isDictionary (o : Order) : Bool := o.has 'd'

def isShown (o : Order) : Bool := o.has 'i' && !o.has 'd'

def conflict? (o : Order) : Option String :=
  let numbers := "nghM".toList.filter o.has
  let others := if ['V', 'R', 'd', 'i'].any o.has then 1 else 0
  if numbers.length + others ≤ 1 then none
  else
    let shown := "dfghiMnRV".toList.filter fun c => if c = 'i' then o.isShown else o.has c
    some (String.ofList shown)

end Order

def orderLetters : List Char := "bdfghiMnRrV".toList

/-- A place in a line: fields in front of it, and characters behind these. -/
structure Place where
  fields : Nat
  chars : Nat
deriving DecidableEq, Repr

structure Key where
  start : Place
  /-- Where the key stops, if that is before the end of the line. Without characters the
  next field belongs to the key as a whole. -/
  stop : Option Place
  order : Order
deriving DecidableEq, Repr

namespace Key

def wholeLine (o : Order) : Key := ⟨⟨0, 0⟩, none, o⟩

def count? (cs : List Char) : Option (Nat × List Char) :=
  let isBlank := fun (c : Char) => c == ' ' || decide ('\t' ≤ c ∧ c ≤ '\x0d')
  let body := match cs.dropWhile isBlank with
    | '+' :: cs => cs
    | cs => cs
  let (digits, rest) := body.span Char.isDigit
  if digits.isEmpty then none
  else some (digits.foldl (fun n d => n * 10 + (d.toNat - '0'.toNat)) 0, rest)

def readCount (what : String) (cs : List Char) : Except String (Nat × List Char) :=
  match count? cs with
  | some read => .ok read
  | none =>
    .error ("invalid number " ++ what ++ ": invalid count at start of " ++
      quotedText (String.ofList cs))

def fault (text : String) (cs : List Char) : String :=
  text ++ ": invalid field specification " ++ quotedText (String.ofList cs)

def readOrder (side : Side) (o : Order) (cs : List Char) : Order × List Char :=
  let (letters, rest) := cs.span orderLetters.contains
  (letters.foldl (Order.take side) o, rest)

def readChars (cs : List Char) : Except String (Option Nat × List Char) :=
  match cs with
  | '.' :: rest => (readCount "after '.'" rest).map fun (n, rest) => (some n, rest)
  | _ => .ok (none, cs)

def read (text : String) : Except String Key := do
  let cs := text.toList
  let (field, rest) ← readCount "at field start" cs
  if field = 0 then throw (fault "field number is zero" cs)
  let (char, rest) ← readChars rest
  if char = some 0 then throw (fault "character offset is zero" cs)
  let start : Place := ⟨field - 1, char.getD 1 - 1⟩
  let (order, rest) := readOrder .start .plain rest
  let (stop, order, rest) ← match rest with
    | ',' :: rest => do
      let (field, rest) ← readCount "after ','" rest
      if field = 0 then throw (fault "field number is zero" cs)
      let (char, rest) ← readChars rest
      let (order, rest) := readOrder .stop order rest
      pure (some ⟨field - 1, char.getD 0⟩, order, rest)
    | _ => pure (none, order, rest)
  if rest.isEmpty then return ⟨start, stop, order⟩
  else throw (fault "stray character in field spec" cs)

/-- Reads the start of a key in its old form, behind the sign. -/
def readOldStart? (cs : List Char) : Option (Place × Order) := do
  let (fields, rest) ← count? cs
  let (chars, rest) ← match rest with
    | '.' :: rest => count? rest
    | _ => some (0, rest)
  let (order, rest) := readOrder .start .plain rest
  if rest.isEmpty then some (⟨fields, chars⟩, order) else none

def readOldStop (start : Place) (order : Order) (text : String) : Except String Key := do
  let (fields, rest) ← readCount "after '-'" (text.toList.drop 1)
  let (chars, rest) ← readChars rest
  let chars := chars.getD 0
  let (order, rest) := readOrder .stop order rest
  if !rest.isEmpty then throw (fault "stray character in field spec" text.toList)
  if chars = 0 && fields = 0 then return ⟨start, some ⟨0, 0⟩, order⟩
  return ⟨start, some ⟨if chars = 0 then fields - 1 else fields, chars⟩, order⟩

end Key

def isBlank (c : Char) : Bool := c == ' ' || c == '\t' || c == '\n'

def skipBlanks (cs : List Char) : List Char := cs.dropWhile isBlank

/-- What follows some fields, each with the separator behind it. Without a separator a field
starts with the blanks in front of it. -/
def afterFields (separator : Option Char) : Nat → List Char → List Char
  | 0, cs => cs
  | _, [] => []
  | n + 1, cs =>
    match separator with
    | some t => afterFields separator n ((cs.dropWhile (· != t)).drop 1)
    | none => afterFields separator n ((skipBlanks cs).dropWhile fun c => !isBlank c)

def afterField (separator : Option Char) (cs : List Char) : List Char :=
  match separator with
  | some t => cs.dropWhile (· != t)
  | none => (skipBlanks cs).dropWhile fun c => !isBlank c

namespace Key

def fromStart (separator : Option Char) (k : Key) (line : List Char) : List Char :=
  let cs := afterFields separator k.start.fields line
  (if k.order.skipsStart then skipBlanks cs else cs).drop k.start.chars

def fromStop (separator : Option Char) (k : Key) (line : List Char) : List Char :=
  match k.stop with
  | none => []
  | some ⟨fields, 0⟩ => afterField separator (afterFields separator fields line)
  | some ⟨fields, chars⟩ =>
    let cs := afterFields separator fields line
    (if k.order.skipsStop then skipBlanks cs else cs).drop chars

def ofLine (separator : Option Char) (k : Key) (line : List Char) : List Char :=
  let cs := k.fromStart separator line
  cs.take (cs.length - (k.fromStop separator line).length)

end Key

/-!
## Ranks of lines

Where a line belongs is settled by a rank for each key. Ranks are found once for
every line, and compared as often as it takes.
-/

/-- A numeral: its sign, its whole part, and the digits of its fraction up to the last that
counts. Nothing is not negative. -/
structure Amount where
  negative : Bool
  whole : Nat
  fraction : List Char
deriving DecidableEq, Repr

namespace Amount

def isNothing (a : Amount) : Bool := a.whole == 0 && a.fraction.isEmpty

def read (cs : List Char) : Amount × List Char :=
  let (negative, cs) := match skipBlanks cs with
    | '-' :: cs => (true, cs)
    | cs => (false, cs)
  let (whole, rest) := cs.span Char.isDigit
  let (fraction, rest) := match rest with
    | '.' :: rest => rest.span Char.isDigit
    | _ => ([], rest)
  let whole := whole.foldl (fun n d => n * 10 + (d.toNat - '0'.toNat)) 0
  let fraction := (fraction.reverse.dropWhile (· == '0')).reverse
  (⟨negative && !(whole == 0 && fraction.isEmpty), whole, fraction⟩, rest)

def compareSizes (a b : Amount) : Ordering :=
  (compare a.whole b.whole).then (compare (String.ofList a.fraction) (String.ofList b.fraction))

protected def compare (a b : Amount) : Ordering :=
  match a.negative, b.negative with
  | false, true => .gt
  | true, false => .lt
  | false, false => compareSizes a b
  | true, true => compareSizes b a

end Amount

def unitLetters : List Char := "KMGTPEZYRQ".toList

def unitPlace (a : Amount) (rest : List Char) : Int :=
  let place : Nat := match rest with
    | [] => 0
    | 'k' :: _ => 1
    | c :: _ => ((unitLetters.findIdx? (· == c)).map (· + 1)).getD 0
  if a.isNothing then 0 else if a.negative then -(place : Int) else place

def monthNames : List String :=
  ["JAN", "FEB", "MAR", "APR", "MAY", "JUN", "JUL", "AUG", "SEP", "OCT", "NOV", "DEC"]

def monthPlace (cs : List Char) : Nat :=
  let name := String.ofList (((skipBlanks cs).take 3).map Char.toUpper)
  ((monthNames.findIdx? (· == name)).map (· + 1)).getD 0

/-- What one part of a line is compared by. -/
inductive Rank where
  | text (t : String)
  | number (n : Amount)
  | human (unit : Int) (n : Amount)
  | real (x : Option Binary64)
  | month (n : Nat)
  | version (name : List Char)

namespace Rank

/-- Numbers come behind what is none, and behind those that have no value. -/
def compareReals : Option Binary64 → Option Binary64 → Ordering
  | none, none => .eq
  | none, some _ => .lt
  | some _, none => .gt
  | some x, some y =>
    match x.isNan, y.isNan with
    | true, true => .eq
    | true, false => .lt
    | false, true => .gt
    | false, false => compare x.place y.place

protected def compare : Rank → Rank → Ordering
  | .text s, .text t => Ord.compare s t
  | .number m, .number n => m.compare n
  | .human j m, .human k n => (Ord.compare j k).then (m.compare n)
  | .real x, .real y => compareReals x y
  | .month m, .month n => Ord.compare m n
  | .version s, .version t => compareVersions s t
  | _, _ => .eq

def prepare (o : Order) (cs : List Char) : List Char :=
  let cs :=
    if o.isDictionary then cs.filter fun c => c.isAlphanum || isBlank c
    else if o.isShown then cs.filter fun c => decide (31 < c.toNat ∧ c.toNat < 127)
    else cs
  if o.has 'f' then cs.map Char.toUpper else cs

def ofText (o : Order) (cs : List Char) : Rank :=
  let cs := prepare o cs
  if o.has 'n' then .number (Amount.read cs).1
  else if o.has 'g' then .real ((Shell.readReal (String.ofList cs)).map fun r => r.1)
  else if o.has 'h' then
    let (n, rest) := Amount.read cs
    .human (unitPlace n rest) n
  else if o.has 'M' then .month (monthPlace cs)
  else if o.has 'V' then .version cs
  else .text (String.ofList cs)

end Rank

structure Ranked where
  line : String
  ranks : List Rank

structure Criteria where
  separator : Option Char
  keys : List Key
  /-- Whether lines with equal keys come in the opposite order. -/
  reverse : Bool
  stable : Bool

namespace Criteria

def rank (s : Criteria) (line : List Char) : Ranked :=
  ⟨String.ofList line, s.keys.map fun k => .ofText k.order (k.ofLine s.separator line)⟩

def compareKeys : List Key → List Rank → List Rank → Ordering
  | k :: keys, a :: as, b :: bs =>
    match a.compare b with
    | .eq => compareKeys keys as bs
    | o => if k.order.has 'r' then o.swap else o
  | _, _, _ => .eq

/-- Compares lines. Those with equal keys are compared as they are, unless that is not asked
for; without keys, nothing else is compared. -/
protected def compare (s : Criteria) (a b : Ranked) : Ordering :=
  match compareKeys s.keys a.ranks b.ranks with
  | .eq =>
    if s.stable && !s.keys.isEmpty then .eq
    else
      let o := Ord.compare a.line b.line
      if s.reverse then o.swap else o
  | o => o

def before (s : Criteria) (a b : Ranked) : Bool := s.compare a b != .gt

def dropEqual (s : Criteria) (lines : List Ranked) : List Ranked :=
  (lines.foldl (fun kept line =>
    match kept with
    | last :: _ => if s.compare last line == .eq then kept else line :: kept
    | [] => [line]) []).reverse

def firstDisorder (s : Criteria) (unique : Bool) : Nat → List Ranked → Option (Nat × Ranked)
  | n, a :: b :: rest =>
    let fine := match s.compare a b with
      | .lt => true
      | .eq => !unique
      | .gt => false
    if fine then s.firstDisorder unique (n + 1) (b :: rest) else some (n + 1, b)
  | _, _ => none

/-- Lines of several files, of which the least of those that come next is taken each time;
equal ones come in the order of their files. There is fuel for each line. -/
def mergeAll (s : Criteria) : Nat → List (List Ranked) → List Ranked
  | 0, _ => []
  | fuel + 1, files =>
    let heads := files.zipIdx.filterMap fun (file, i) => file.head?.map fun line => (line, i)
    match heads with
    | [] => []
    | first :: rest =>
      let (line, i) := rest.foldl (fun best head =>
        if s.compare best.1 head.1 == .gt then head else best) first
      line :: s.mergeAll fuel (files.modify i List.tail)

end Criteria

end Assay.Utility.Sorting
