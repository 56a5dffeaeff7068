import Assay.Shell.Format
import Assay.Utility.Difference.Script
import Assay.Utility.Lines
import Assay.Utility.Regex
import Std.Data.HashMap

/-!
# Reports of changes

What is the same in two texts, and how the rest is told.
-/

set_option autoImplicit false

namespace Assay.Utility.Difference

open Shell (isSpace)

/-!
## Texts side by side

A text is a row of lines, of which the last one may lack its end. Which lines count as
the same is a matter of choice: blanks, the case of letters and carriage returns may be
left out of account.
-/

structure Line where
  text : List Char
  ended : Bool
deriving DecidableEq, Repr, Inhabited

def Line.isEmpty (l : Line) : Bool := l.ended && l.text.isEmpty

def linesIn (cs : List Char) : Array Line :=
  let parts := splitLines cs
  let last := match parts.getLast? with
    | none | some [] => []
    | some part => [⟨part, false⟩]
  (parts.dropLast.map (fun part => (⟨part, true⟩ : Line)) ++ last).toArray

structure Side where
  lines : Array Line
  name : String
  stamp : String

inductive Blanks where
  | none
  | tabs
  | ends
  | tabsAndEnds
  | amounts
  | all
deriving DecidableEq, Repr

namespace Blanks

def passEnds : Blanks → Bool
  | none | tabs => false
  | _ => true

def passStarts : Blanks → Bool
  | amounts | all => true
  | _ => false

def withTabs : Blanks → Blanks
  | none => tabs
  | ends => tabsAndEnds
  | b => b

def withEnds : Blanks → Blanks
  | none => ends
  | tabs => tabsAndEnds
  | b => b

def withAmounts : Blanks → Blanks
  | all => all
  | _ => amounts

end Blanks

structure Likeness where
  blanks : Blanks
  caseless : Bool
  passReturns : Bool
  tabSize : Nat

def untabbed (size : Nat) : Nat → List Char → List Char
  | _, [] => []
  | column, c :: cs =>
    match c with
    | '\t' =>
      let n := size - column % size
      List.replicate n ' ' ++ untabbed size (column + n) cs
    | '\x08' => c :: untabbed size (column - 1) cs
    | '\x0d' => c :: untabbed size 0 cs
    | c => c :: untabbed size (column + 1) cs

def withoutEnd (cs : List Char) : List Char := (cs.reverse.dropWhile isSpace).reverse

def squeezed (cs : List Char) : List Char :=
  (cs.splitBy fun a b => isSpace a == isSpace b).flatMap fun part =>
    if part.head?.any isSpace then [' '] else part

namespace Likeness

def reduced (k : Likeness) (cs : List Char) : List Char :=
  let cs := match k.blanks with
    | .none => cs
    | .tabs => untabbed k.tabSize 0 cs
    | .ends => withoutEnd cs
    | .tabsAndEnds => untabbed k.tabSize 0 (withoutEnd cs)
    | .amounts => squeezed (withoutEnd cs)
    | .all => cs.filter fun c => !isSpace c
  if k.caseless then cs.map Char.toLower else cs

def key (k : Likeness) (joins : Bool) (l : Line) : String :=
  let cs := k.reduced l.text
  String.ofList (if l.ended || joins || k.blanks.passEnds then cs ++ ['\n'] else cs)

def classes (k : Likeness) (joins : Bool) (lines : List Line) (known : Std.HashMap String Nat) :
    Array Nat × Std.HashMap String Nat :=
  lines.foldl (fun (found, known) l =>
    let key := k.key joins l
    match known[key]? with
    | some n => (found.push n, known)
    | none => (found.push (known.size + 1), known.insert key (known.size + 1))) (#[], known)

def taken (k : Likeness) (lines : Array Line) : Array Line :=
  if k.passReturns then
    lines.map fun l =>
      if l.ended && l.text.getLast? == some '\x0d' then { l with text := l.text.dropLast } else l
  else lines

end Likeness

def commonFront : List Line → List Line → Nat
  | a :: as, b :: bs => if a = b then commonFront as bs + 1 else 0
  | _, _ => 0

/-- The changes between two texts. Lines at both ends that are common to them are not compared,
except for as many as `horizon` tells; `joins` tells that a missing line end does not count. -/
def changes (k : Likeness) (minimal joins : Bool) (horizon : Nat) (a b : Array Line) :
    List Change :=
  let whole := fun (lines : Array Line) =>
    if joins then lines.toList.map fun l => { l with ended := true } else lines.toList
  let as := whole a
  let bs := whole b
  let front := commonFront as bs - horizon
  let as := as.drop front
  let bs := bs.drop front
  let rear := commonFront as.reverse bs.reverse - horizon
  let as := as.take (as.length - rear)
  let bs := bs.take (bs.length - rear)
  let (left, known) := k.classes joins as ∅
  let (right, _) := k.classes joins bs known
  (script minimal ⟨left, right⟩).map fun c =>
    { c with line := c.line + front, other := c.other + front }

/-!
## Forms of reports

Changes are reported in one of several forms: as they are, with lines around them, or
as commands that lead from one text to the other. Changes that are near each other are
shown together where lines around them are shown.
-/

structure Look where
  context : Nat
  untabs : Bool
  tabSize : Nat
  tabFirst : Bool
  bareEmpty : Bool
  heading : Option Regex
  passEmpty : Bool
  passMatching : Option Regex
  blanks : Blanks

namespace Look

def body (k : Look) (mark : String) (l : Line) : String :=
  let cs := if k.untabs then untabbed k.tabSize 0 l.text else l.text
  let marked := if k.untabs && mark != "" then
      -- Behind a carriage return the mark is shown again.
      cs.flatMap fun c => if c = '\x0d' then c :: mark.toList else [c]
    else cs
  String.ofList marked

def line (k : Look) (mark : String) (l : Line) : String :=
  let front :=
    if k.bareEmpty && l.isEmpty then if mark = " " then "" else mark
    else mark ++ if k.tabFirst then "\t" else " "
  front ++ k.body front l ++ if l.ended then "\n" else "\n\\ No newline at end of file\n"

def bare (k : Look) (l : Line) : String := k.body "" l ++ if l.ended then "\n" else ""

def isTrivial (k : Look) (l : Line) : Bool :=
  let isBlank :=
    if !k.passEmpty then false
    else if k.blanks.passStarts then l.text.all isSpace
    else l.text.isEmpty
  isBlank || k.passMatching.any fun r => (r.search l.text.toArray 0).isSome

def passesAny (k : Look) : Bool := k.passEmpty || k.passMatching.isSome

def extract (lines : Array Line) (start count : Nat) : List Line :=
  (lines.extract start (start + count)).toList

def passes (k : Look) (a b : Side) (cs : List Change) : Bool :=
  k.passesAny && cs.all fun c =>
    (extract a.lines c.line c.dropped).all k.isTrivial &&
      (extract b.lines c.other c.added).all k.isTrivial

end Look

def range (sign : String) (line count : Nat) : String :=
  if count ≤ 1 then toString (line + count) else
    toString (line + 1) ++ sign ++ toString (line + count)

namespace Change

def letter (c : Change) : String :=
  if c.dropped = 0 then "a" else if c.added = 0 then "d" else "c"

def droppedLines (c : Change) (a : Side) : List Line := Look.extract a.lines c.line c.dropped

def addedLines (c : Change) (b : Side) : List Line := Look.extract b.lines c.other c.added

def plain (k : Look) (a b : Side) (c : Change) : List String :=
  [range "," c.line c.dropped ++ c.letter ++ range "," c.other c.added ++ "\n"] ++
    (c.droppedLines a).map (k.line "<") ++
    (if c.letter = "c" then ["---\n"] else []) ++ (c.addedLines b).map (k.line ">")

/-- Lines that are handed to an editor. A line with nothing but a point would end them. -/
def edited (k : Look) : Bool → List Line → List String
  | inserting, [] => if inserting then [".\n"] else []
  | inserting, l :: ls =>
    let start := if inserting then [] else ["a\n"]
    if l.text = ['.'] then start ++ "..\n.\ns/.//\n" :: edited k false ls
    else start ++ (k.body "" l ++ "\n") :: edited k true ls

def command (k : Look) (b : Side) (c : Change) : List String :=
  (range "," c.line c.dropped ++ c.letter ++ "\n") ::
    if c.added = 0 then [] else edited k true (c.addedLines b)

def forwardCommand (k : Look) (b : Side) (c : Change) : List String :=
  (c.letter ++ range " " c.line c.dropped ++ "\n") ::
    if c.added = 0 then []
    else (c.addedLines b).map (fun l => k.body "" l ++ "\n") ++ [".\n"]

def counted (k : Look) (b : Side) (c : Change) : List String :=
  (if c.dropped = 0 then []
    else ["d" ++ toString (c.line + 1) ++ " " ++ toString c.dropped ++ "\n"]) ++
  if c.added = 0 then []
  else
    ("a" ++ toString (c.line + c.dropped) ++ " " ++ toString c.added ++ "\n") ::
      (c.addedLines b).map k.bare

end Change

/-- Changes that are shown together, with the lines of both texts that are shown. -/
structure Hunk where
  changes : List Change
  start : Nat
  stop : Nat
  otherStart : Nat
  otherStop : Nat

def nearby (k : Look) (a b : Side) : List Change → List (List Change)
  | [] => []
  | c :: cs =>
    let isIdle := fun (c : Change) => k.passes a b [c]
    match nearby k a b cs with
    | (d :: ds) :: rest =>
      let limit := if isIdle c || isIdle d then k.context else 2 * k.context + 1
      if d.line - (c.line + c.dropped) < limit then (c :: d :: ds) :: rest
      else [c] :: (d :: ds) :: rest
    | rest => [c] :: rest

def hunkOf (k : Look) (a b : Side) (cs : List Change) : Hunk :=
  let first := cs.headD default
  let last := cs.getLastD default
  { changes := cs
    start := first.line - k.context
    stop := min a.lines.size (last.line + last.dropped + k.context)
    otherStart := first.other - k.context
    otherStop := min b.lines.size (last.other + last.added + k.context) }

def hunks (k : Look) (a b : Side) (cs : List Change) : List Hunk :=
  ((nearby k a b cs).filter fun cs => !k.passes a b cs).map (hunkOf k a b)

def Hunk.heading (h : Hunk) (k : Look) (a : Side) : String :=
  match k.heading with
  | none => ""
  | some r =>
    match (a.lines.extract 0 h.start).toList.reverse.find? fun l =>
        (r.search l.text.toArray 0).isSome with
    | none => ""
    | some l => " " ++ String.ofList (withoutEnd ((l.text.dropWhile isSpace).take 40))

def openLine (k : Look) (mark : Char) (l : Line) : String :=
  let isBare := k.bareEmpty && l.isEmpty
  let front :=
    if mark = ' ' then if isBare then "" else if k.tabFirst then "\t" else " "
    else String.singleton mark ++ if k.tabFirst && !isBare then "\t" else ""
  front ++ k.body front l ++ if l.ended then "\n" else "\n\\ No newline at end of file\n"

def mergedLines (k : Look) (a b : Side) (stop : Nat) : Nat → List Change → List String
  | line, [] => (Look.extract a.lines line (stop - line)).map (openLine k ' ')
  | line, c :: cs =>
    (Look.extract a.lines line (c.line - line)).map (openLine k ' ') ++
      (c.droppedLines a).map (openLine k '-') ++ (c.addedLines b).map (openLine k '+') ++
        mergedLines k a b stop (c.line + c.dropped) cs

def mergedRange (start count : Nat) : String :=
  if count = 0 then toString start ++ ",0"
  else if count = 1 then toString (start + 1)
  else toString (start + 1) ++ "," ++ toString count

def Hunk.merged (h : Hunk) (k : Look) (a b : Side) : List String :=
  ("@@ -" ++ mergedRange h.start (h.stop - h.start) ++ " +" ++
      mergedRange h.otherStart (h.otherStop - h.otherStart) ++ " @@" ++ h.heading k a ++ "\n") ::
    mergedLines k a b h.stop h.start h.changes

/-- Lines of one text of a hunk, with marks at those that changes take; `span` tells where a
change stands in the text, how many lines it takes there, and how many in the other text. -/
def sideLines (k : Look) (lines : Array Line) (mark : String)
    (span : Change → Nat × Nat × Nat) (stop : Nat) : Nat → List Change → List String
  | line, [] => (Look.extract lines line (stop - line)).map (k.line " ")
  | line, c :: cs =>
    let (start, count, others) := span c
    (Look.extract lines line (start - line)).map (k.line " ") ++
      (Look.extract lines start count).map (k.line (if others = 0 then mark else "!")) ++
        sideLines k lines mark span stop (start + count) cs

def Hunk.copied (h : Hunk) (k : Look) (a b : Side) : List String :=
  let part := fun (isShown : Bool) (rows : List String) => if isShown then rows else []
  ["***************" ++ h.heading k a ++ "\n",
    "*** " ++ range "," h.start (h.stop - h.start) ++ " ****\n"] ++
    part (h.changes.any fun c => c.dropped != 0)
      (sideLines k a.lines "-" (fun c => (c.line, c.dropped, c.added)) h.stop h.start h.changes) ++
    ["--- " ++ range "," h.otherStart (h.otherStop - h.otherStart) ++ " ----\n"] ++
    part (h.changes.any fun c => c.added != 0)
      (sideLines k b.lines "+" (fun c => (c.other, c.added, c.dropped)) h.otherStop h.otherStart
        h.changes)

def titles (first second : String) (a b : Side) : List String :=
  [first ++ " " ++ a.name ++ a.stamp ++ "\n", second ++ " " ++ b.name ++ b.stamp ++ "\n"]

end Assay.Utility.Difference
