import Assay.Shell.Format
import Assay.Utility.Difference.Report
import Assay.Utility.Quoted

/-!
# Both texts at once

Two texts are shown next to each other in columns, or written as one.
-/

set_option autoImplicit false

namespace Assay.Utility.Difference

/-!
## Texts in two columns

Lines of two texts stand beside each other, with a sign between them where they
differ. What has no room in its column is cut off.
-/

structure Layout where
  untabs : Bool
  tabSize : Nat
  half : Nat
  second : Nat
  leftOnly : Bool
  hidesCommon : Bool
  wide : Bool

/-- The layout for lines of a width. The second column starts at a tab stop, if possible. -/
def Layout.ofWidth (untabs : Bool) (tabSize width : Nat) (leftOnly hidesCommon wide : Bool) :
    Layout :=
  let tab := if untabs then 1 else tabSize
  let gap := tab + 3
  let middle := width / 2 + gap / 2 + (if width % 2 = 1 && gap % 2 = 1 then 1 else 0)
  let second := middle - middle % tab
  let half := min (second - 3) (width - second)
  { untabs, tabSize, half, second := if half = 0 then width else second, leftOnly
    hidesCommon, wide }

namespace Layout

def gap (y : Layout) : Nat → Nat → Nat → String
  | 0, _, _ => ""
  | fuel + 1, start, stop =>
    let tab := start + y.tabSize - start % y.tabSize
    if !y.untabs && tab ≤ stop then "\t" ++ y.gap fuel tab stop
    else String.ofList (List.replicate (stop - start) ' ')

def gapTo (y : Layout) (start stop : Nat) : String := y.gap (stop + 1) start stop

def columns (y : Layout) (c : Char) : Nat :=
  if c.toNat < 0x20 || c.toNat = 0x7f then 0
  else if !y.wide || c.toNat < 0x80 || isStray c then 1
  else columnsOf c

/-- A line as far as it has room. Yields the text and the column behind it; `read` is the column
that the whole line would have come to. -/
def cell (y : Layout) (indent : Nat) : Nat → Nat → List Char → String × Nat
  | _, out, [] => ("", out)
  | read, out, c :: cs =>
    let more := fun (text : String) (rest : String × Nat) => (text ++ rest.1, rest.2)
    match c with
    | '\t' =>
      let spaces := y.tabSize - read % y.tabSize
      let stop := out + spaces
      if read ≠ out then y.cell indent (read + spaces) out cs
      else if y.untabs then
        let stop := min stop y.half
        more (String.ofList (List.replicate (stop - out) ' '))
          (y.cell indent (read + spaces) (max stop out) cs)
      else if stop < y.half then more "\t" (y.cell indent (read + spaces) stop cs)
      else y.cell indent (read + spaces) out cs
    | '\x0d' => more ("\x0d" ++ y.gapTo 0 indent) (y.cell indent 0 0 cs)
    | '\x08' =>
      if read = 0 then y.cell indent read out cs
      else
        let read := read - 1
        if y.half ≤ read then y.cell indent read out cs
        else if out ≤ read then
          more (String.ofList (List.replicate (read - out) ' ')) (y.cell indent read read cs)
        else more "\x08" (y.cell indent read read cs)
    | c =>
      let read := read + y.columns c
      if read ≤ y.half then
        more (String.ofList (if y.wide then narrowChar c else [c])) (y.cell indent read read cs)
      else y.cell indent read out cs

def row (y : Layout) (left : Option Line) (sign : Char) (right : Option Line) :
    String :=
  let chars := fun (l : Line) => if y.wide then widen l.text else l.text
  let (first, column) := match left with
    | some l => y.cell 0 0 0 (chars l)
    | none => ("", 0)
  let leftEnds := left.any fun l => l.ended
  let (middle, column) :=
    if sign = ' ' then ("", column)
    else
      let place := (y.half + y.second - 1) / 2
      let rightEnds := right.any fun l => l.ended
      let sign :=
        if sign = '|' && leftEnds != rightEnds then if leftEnds then '/' else '\\' else sign
      (y.gapTo column place ++ String.singleton sign, max column place + 1)
  let second := match right with
    | some l => if l.isEmpty then "" else y.gapTo column y.second ++ (y.cell y.second 0 0 (chars l)).1
    | none => ""
  first ++ middle ++ second ++
    if leftEnds || right.any fun l => l.ended then "\n" else ""

def common (y : Layout) (as bs : List Line) : List String :=
  if y.hidesCommon then []
  else if y.leftOnly then as.map fun l => y.row (some l) '(' none
  else
    (as.zip bs).map (fun (a, b) => y.row (some a) ' ' (some b)) ++
      (bs.drop as.length).map (fun b => y.row none ')' (some b)) ++
      (as.drop bs.length).map fun a => y.row (some a) '(' none

/-- A change: lines that are replaced, then those that are added or dropped. -/
def change (y : Layout) (as bs : List Line) : List String :=
  (as.zip bs).map (fun (a, b) => y.row (some a) '|' (some b)) ++
    (bs.drop as.length).map (fun b => y.row none '>' (some b)) ++
    (as.drop bs.length).map fun a => y.row (some a) '<' none

def rows (y : Layout) (k : Look) (a b : Side) :
    Nat → Nat → List Change → List String
  | i, j, [] =>
    y.common (Look.extract a.lines i (a.lines.size - i))
      (Look.extract b.lines j (b.lines.size - j))
  | i, j, c :: cs =>
    if k.passes a b [c] then y.rows k a b i j cs
    else
      y.common (Look.extract a.lines i (c.line - i)) (Look.extract b.lines j (c.other - j)) ++
        y.change (c.droppedLines a) (c.addedLines b) ++
        y.rows k a b (c.line + c.dropped) (c.other + c.added) cs

end Layout

/-!
## Texts in one

Both texts are written as one, each group of lines by a form. A form names lines of
one text or the other, and counts of them.
-/

structure Forms where
  same : String
  old : String
  new : String
  changed : String
  sameLine : String
  oldLine : String
  newLine : String

structure Asked where
  same : Option String := none
  old : Option String := none
  new : Option String := none
  changed : Option String := none
  sameLine : Option String := none
  oldLine : Option String := none
  newLine : Option String := none

def Asked.forms (w : Asked) : Forms :=
  let old := w.old.getD (w.changed.getD "%<")
  let new := w.new.getD (w.changed.getD "%>")
  { same := w.same.getD "%=", old, new, changed := w.changed.getD (old ++ new)
    sameLine := w.sameLine.getD "%l\n", oldLine := w.oldLine.getD "%l\n"
    newLine := w.newLine.getD "%l\n" }

def namedForms (name : String) : Asked :=
  { same := some "%="
    old := some ("#ifndef " ++ name ++ "\n%<#endif /* ! " ++ name ++ " */\n")
    new := some ("#ifdef " ++ name ++ "\n%>#endif /* " ++ name ++ " */\n")
    changed := some ("#ifndef " ++ name ++ "\n%<#else /* " ++ name ++ " */\n%>#endif /* " ++ name ++
      " */\n") }

/-- A group of lines of both texts: the places in front of it and behind it. -/
structure Group where
  start : Nat
  stop : Nat
  otherStart : Nat
  otherStop : Nat

namespace Group

/-- A number of a group that a letter asks for: a small one for the first text. -/
def number? (g : Group) (c : Char) : Option Nat :=
  let ofSpan := fun (start stop : Nat) (c : Char) => match c with
    | 'e' => some start
    | 'f' => some (start + 1)
    | 'l' => some stop
    | 'm' => some (stop + 1)
    | 'n' => some (stop - start)
    | _ => none
  if c.isUpper then ofSpan g.otherStart g.otherStop c.toLower else ofSpan g.start g.stop c

end Group

/-- A number as a form asks for it, behind the percent sign: its directive, what it is a number
of, and what follows. -/
def numberForm? (cs : List Char) : Option (Shell.Directive × Char × List Char) :=
  let (flags, rest) := cs.span fun c => c == '-' || c == '\''
  let (width, rest) := rest.span Char.isDigit
  let (precision, rest) := match rest with
    | '.' :: more =>
      let (ds, rest) := more.span Char.isDigit
      (some ((String.ofList ds).toNat?.getD 0), rest)
    | _ => (none, rest)
  match rest with
  | conversion :: letter :: rest =>
    if "doxX".toList.contains conversion then
      some (({ left := flags.contains '-', zeros := width.head? == some '0', plus := false
               blank := false, alternate := false
               width := (String.ofList width).toNat?.getD 0, precision, conversion } :
        Shell.Directive), letter, rest)
    else none
  | _ => none

def shownNumber (d : Shell.Directive) (n : Nat) : String :=
  if d.conversion = 'd' then d.signed n else d.unsigned n

def namedChar? : List Char → Option (Char × List Char)
  | '\'' :: '\\' :: rest =>
    let (ds, rest) := rest.span Shell.isOctal
    match rest with
    | '\'' :: rest => if ds.isEmpty then none else some ((Shell.octalChar 3 ds).1, rest)
    | _ => none
  | '\'' :: c :: '\'' :: rest => some (c, rest)
  | _ => none

def lineBy (k : Look) (number : Nat) (l : Line) : Nat → List Char → String
  | 0, _ => ""
  | fuel + 1, cs =>
    match cs with
    | [] => ""
    | '%' :: '%' :: rest => "%" ++ lineBy k number l fuel rest
    | '%' :: 'l' :: rest => k.body "" l ++ lineBy k number l fuel rest
    | '%' :: 'L' :: rest => k.bare l ++ lineBy k number l fuel rest
    | '%' :: rest =>
      match rest with
      | 'c' :: more =>
        match namedChar? more with
        | some (c, rest) => String.singleton c ++ lineBy k number l fuel rest
        | none => "%" ++ lineBy k number l fuel rest
      | _ =>
        match numberForm? rest with
        | some (d, 'n', rest) => shownNumber d number ++ lineBy k number l fuel rest
        | _ => "%" ++ lineBy k number l fuel rest
    | c :: rest => String.singleton c ++ lineBy k number l fuel rest

def linesBy (k : Look) (form : String) (lines : Array Line) (start stop : Nat) : String :=
  String.join (((Look.extract lines start (stop - start)).zipIdx start).map fun (l, i) =>
    lineBy k (i + 1) l (form.length + 1) form.toList)

def conditionNumber? (g : Group) : List Char → Option (Nat × List Char)
  | [] => none
  | c :: rest =>
    if c.isDigit then
      let (ds, rest) := (c :: rest).span Char.isDigit
      some ((String.ofList ds).toNat?.getD 0, rest)
    else (g.number? c).map fun n => (n, rest)

def groupBy (k : Look) (forms : Forms) (a b : Side) (g : Group) (ends : List Char) :
    Nat → List Char → String × List Char
  | 0, cs => ("", cs)
  | fuel + 1, cs =>
    let more := fun (text : String) (rest : List Char) =>
      let (after, rest) := groupBy k forms a b g ends fuel rest
      (text ++ after, rest)
    match cs with
    | [] => ("", [])
    | '%' :: '%' :: rest => more "%" rest
    | '%' :: '<' :: rest => more (linesBy k forms.oldLine a.lines g.start g.stop) rest
    | '%' :: '>' :: rest => more (linesBy k forms.newLine b.lines g.otherStart g.otherStop) rest
    | '%' :: '=' :: rest => more (linesBy k forms.sameLine a.lines g.start g.stop) rest
    | '%' :: '(' :: rest =>
      let parsed? := do
        let (x, rest) ← conditionNumber? g rest
        let '=' :: rest := rest | none
        let (y, rest) ← conditionNumber? g rest
        let '?' :: rest := rest | none
        let (yes, rest) := groupBy k forms a b g [':', ')'] fuel rest
        let (no, rest) := match rest with
          | ':' :: rest => groupBy k forms a b g [')'] fuel rest
          | _ => ("", rest)
        let ')' :: rest := rest | none
        return (if x = y then yes else no, rest)
      match parsed? with
      | some (text, rest) => more text rest
      | none => more "%" ('(' :: rest)
    | '%' :: rest =>
      match rest with
      | 'c' :: after =>
        match namedChar? after with
        | some (c, rest) => more (String.singleton c) rest
        | none => more "%" rest
      | _ =>
        match numberForm? rest with
        | some (d, letter, after) =>
          match g.number? letter with
          | some n => more (shownNumber d n) after
          | none => more "%" rest
        | none => more "%" rest
    | c :: rest => if ends.contains c then ("", cs) else more (String.singleton c) rest

def group (k : Look) (forms : Forms) (a b : Side) (form : String) (g : Group) : String :=
  (groupBy k forms a b g [] (form.length + 1) form.toList).1

def groups (k : Look) (forms : Forms) (a b : Side) : Nat → Nat → List Change → List String
  | i, j, [] =>
    if i < a.lines.size then [group k forms a b forms.same ⟨i, a.lines.size, j, b.lines.size⟩]
    else []
  | i, j, c :: cs =>
    if k.passes a b [c] then groups k forms a b i j cs
    else
      let form := if c.dropped = 0 then forms.new else if c.added = 0 then forms.old
        else forms.changed
      let front := if i < c.line || j < c.other then
          [group k forms a b forms.same ⟨i, c.line, j, c.other⟩] else []
      front ++
        group k forms a b form ⟨c.line, c.line + c.dropped, c.other, c.other + c.added⟩ ::
          groups k forms a b (c.line + c.dropped) (c.other + c.added) cs

end Assay.Utility.Difference
