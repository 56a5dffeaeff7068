import Assay.Shell.Pattern
import Assay.Text.Upper
import Assay.Text.Word
import Assay.Utility.Quoted

/-!
# Regular expressions

Of the matches of an expression that start first the longest is taken. What its
groups matched is found by trying the choices of the expression in their order,
up to those that lead to its end.
-/

set_option autoImplicit false

namespace Assay.Utility

open Shell (SetItem)

inductive Regex where
  | empty
  | any
  | char (c : Char)
  | oneOf (negated : Bool) (items : List SetItem)
  | textStart
  | textEnd
  | lineStart
  | lineEnd
  | wordEdge (isEdge : Bool)
  | wordStart
  | wordEnd
  | group (number : Nat) (r : Regex)
  | same (number : Nat)
  | both (a b : Regex)
  | either (a b : Regex)
  | times (r : Regex) (least : Nat) (most : Option Nat)
deriving Repr, Inhabited

namespace Regex

def isWordChar (c : Char) : Bool :=
  if c.toNat < 0x80 then c.isAlphanum || c == '_'
  else !isStray c && Text.isAlphanumeric c

def isOfKind (name : String) (c : Char) : Bool :=
  if c.toNat < 0x80 then ((Shell.kind? name).getD fun _ => false) c
  else if isStray c then false
  else
    match name with
    | "alnum" | "alpha" => Text.isAlphanumeric c
    | "lower" => Text.upper (String.singleton c) != String.singleton c
    | "upper" => Text.isAlphanumeric c && hasSmall c
    | "print" | "graph" => isPrintable c
    | "punct" => isPrintable c && !Text.isAlphanumeric c
    | "cntrl" => decide (c.toNat < 0xa0)
    | _ => false
where
  hasSmall (c : Char) : Bool :=
    Text.caseRuns.any fun r =>
      let small := (c.toNat : Int) - r.shift
      decide (0 ≤ small) && r.holds small.toNat

def holdsItem (c : Char) : SetItem → Bool
  | .range low high => decide (low ≤ c ∧ c ≤ high)
  | .kind name => isOfKind name c

def holds (negated : Bool) (items : List SetItem) (c : Char) : Bool :=
  !isStray c && (items.any (holdsItem c)) != negated

/-- Places at which groups start and end. -/
abbrev Spans := List (Nat × Nat × Nat)

def isWordAt (input : Array Char) (i : Nat) : Bool := (input[i]?).any isWordChar

/-- Whether a word ends on one side of a place: in front of it, and behind it. -/
def wordSides (input : Array Char) (i : Nat) : Bool × Bool :=
  (i != 0 && isWordAt input (i - 1), isWordAt input i)

def startsLine (input : Array Char) (i : Nat) : Bool :=
  i == 0 || input[i - 1]? == some '\n'

def endsLine (input : Array Char) (i : Nat) : Bool := i == input.size || input[i]? == some '\n'

def single? : Regex → Option (Char → Bool)
  | any => some fun c => !isStray c
  | char c => some (· == c)
  | oneOf negated items => some (holds negated items)
  | _ => none

def runLength (input : Array Char) (p : Char → Bool) : Nat → Nat → Nat
  | 0, _ => 0
  | n + 1, i =>
    match input[i]? with
    | some c => if p c then runLength input p n (i + 1) + 1 else 0
    | none => 0

def downFrom (least : Nat) (k : Nat → Option (Nat × Spans)) : Nat → Option (Nat × Spans)
  | 0 => if least = 0 then k 0 else none
  | n + 1 =>
    if n + 1 < least then none
    else
      match k (n + 1) with
      | some r => some r
      | none => downFrom least k n

def run (input : Array Char) : Nat → Regex → Nat → Spans →
    (Nat → Spans → Option (Nat × Spans)) → Option (Nat × Spans)
  | 0, _, _, _, _ => none
  | fuel + 1, r, i, spans, k =>
    match r with
    | empty => k i spans
    | textStart => if i = 0 then k i spans else none
    | textEnd => if i = input.size then k i spans else none
    | lineStart => if startsLine input i then k i spans else none
    | lineEnd => if endsLine input i then k i spans else none
    | wordEdge isEdge =>
      let (before, behind) := wordSides input i
      if (before != behind) == isEdge then k i spans else none
    | wordStart =>
      let (before, behind) := wordSides input i
      if !before && behind then k i spans else none
    | wordEnd =>
      let (before, behind) := wordSides input i
      if before && !behind then k i spans else none
    | group number r =>
      run input fuel r i spans fun j spans =>
        k j ((number, i, j) :: spans.filter fun s => s.1 != number)
    | same number =>
      match spans.find? fun s => s.1 == number with
      | some (_, start, stop) =>
        let length := stop - start
        if (input.extract start stop) == (input.extract i (i + length)) then k (i + length) spans
        else none
      | none => none
    | both a b => run input fuel a i spans fun j spans => run input fuel b j spans k
    | either a b =>
      match run input fuel a i spans k with
      | some found => some found
      | none => run input fuel b i spans k
    | times r least most =>
      match single? r with
      | some p =>
        let limit := match most with
          | some n => n
          | none => input.size - i
        downFrom least (fun n => k (i + n) spans) (runLength input p limit i)
      | none =>
        let more : Option (Nat × Spans) :=
          if most = some 0 then none
          else
            run input fuel r i spans fun j spans =>
              if j = i && least == 0 then none
              else run input fuel (.times r (least - 1) (most.map (· - 1))) j spans k
        match more with
        | some found => some found
        | none => if least = 0 then k i spans else none
    | r =>
      match single? r, input[i]? with
      | some p, some c => if p c then k (i + 1) spans else none
      | _, _ => none

def union : List Nat → List Nat → List Nat
  | [], bs => bs
  | as, [] => as
  | a :: as, b :: bs =>
    if a < b then a :: union as (b :: bs)
    else if b < a then b :: union (a :: as) bs
    else a :: union as bs
termination_by as bs => as.length + bs.length

def without : List Nat → List Nat → List Nat
  | [], _ => []
  | as, [] => as
  | a :: as, b :: bs =>
    if a < b then a :: without as (b :: bs)
    else if b < a then without (a :: as) bs
    else without as bs
termination_by as bs => as.length + bs.length

def closure (step : List Nat → List Nat) : Nat → List Nat → List Nat → List Nat
  | 0, reached, _ => reached
  | n + 1, reached, fresh =>
    let next := without (step fresh) reached
    if next.isEmpty then reached else closure step n (union reached next) next

def repeated (step : List Nat → List Nat) : Nat → List Nat → List Nat
  | 0, places => places
  | n + 1, places => if places.isEmpty then [] else repeated step n (step places)

/-- The places at which a match may end that starts at one of some places, all of them in
ascending order. What repeats a group is taken to match anything. -/
def ends (input : Array Char) : Regex → List Nat → List Nat
  | empty, places => places
  | textStart, places => places.filter (· = 0)
  | textEnd, places => places.filter (· = input.size)
  | lineStart, places => places.filter (startsLine input)
  | lineEnd, places => places.filter (endsLine input)
  | wordEdge isEdge, places => places.filter fun i =>
    let (before, behind) := wordSides input i
    (before != behind) == isEdge
  | wordStart, places => places.filter fun i =>
    let (before, behind) := wordSides input i
    !before && behind
  | wordEnd, places => places.filter fun i =>
    let (before, behind) := wordSides input i
    before && !behind
  | group _ r, places => ends input r places
  | same _, places =>
    match places with
    | [] => []
    | i :: _ => (List.range (input.size + 1 - i)).map (i + ·)
  | both a b, places =>
    match ends input a places with
    | [] => []
    | middle => ends input b middle
  | either a b, places => union (ends input a places) (ends input b places)
  | times r least most, places =>
    match single? r with
    | some p =>
      places.foldl (fun sofar i =>
        let length := runLength input p (most.getD (input.size - i)) i
        if length < least then sofar
        else union sofar ((List.range (length + 1 - least)).map (i + least + ·))) []
    | none =>
      let start := repeated (ends input r) least places
      closure (ends input r) ((most.map (· - least)).getD (input.size + 1)) start start
  | any, places => places.filterMap fun i =>
    if (input[i]?).any fun c => !isStray c then some (i + 1) else none
  | char c, places => places.filterMap fun i =>
    if input[i]? == some c then some (i + 1) else none
  | oneOf negated items, places => places.filterMap fun i =>
    if (input[i]?).any (holds negated items) then some (i + 1) else none

def hasGroups : Regex → Bool
  | group _ _ => true
  | same _ => true
  | both a b => hasGroups a || hasGroups b
  | either a b => hasGroups a || hasGroups b
  | times r _ _ => hasGroups r
  | _ => false

def groups : Regex → Nat
  | group n r => max n (groups r)
  | both a b => max (groups a) (groups b)
  | either a b => max (groups a) (groups b)
  | times r _ _ => groups r
  | _ => 0

structure Found where
  start : Nat
  stop : Nat
  spans : Spans

def fittingAt (r : Regex) (input : Array Char) (fits : Nat → Nat → Bool) (i : Nat) :
    Option Found :=
  let stops := (ends input r [i]).reverse.filter (fits i)
  if r.hasGroups then
    stops.findSome? fun stop =>
      (run input 100000 r i [] fun j spans => if j = stop then some (j, spans) else none).map
        fun found => ⟨i, stop, found.2⟩
  else stops.head?.map fun stop => ⟨i, stop, []⟩

def matchAt (r : Regex) (input : Array Char) (i : Nat) : Option Found :=
  r.fittingAt input (fun _ _ => true) i

def matchesWhole (r : Regex) (text : String) : Bool :=
  let input := text.toList.toArray
  (ends input r [0]).contains input.size

def searchFrom (r : Regex) (input : Array Char) : Nat → Nat → Option Found
  | 0, _ => none
  | n + 1, i =>
    match r.matchAt input i with
    | some found => some found
    | none => searchFrom r input n (i + 1)

def search (r : Regex) (input : Array Char) (start : Nat) : Option Found :=
  searchFrom r input (input.size + 1 - start) start

def isMatch (r : Regex) (text : String) : Bool := (r.search text.toList.toArray 0).isSome

def Found.group? (f : Found) (input : Array Char) (number : Nat) : Option String :=
  if number = 0 then some (String.ofList (input.extract f.start f.stop).toList)
  else
    (f.spans.find? fun s => s.1 == number).map fun s =>
      String.ofList (input.extract s.2.1 s.2.2).toList

end Regex

end Assay.Utility
