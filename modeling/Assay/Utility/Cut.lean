import Assay.Utility.Numbers

/-!
# The cut utility

Bytes or fields of each line are chosen by their positions, which are counted
from one.
-/

set_option autoImplicit false

namespace Assay.Utility

open Shell (Sh)

structure Span where
  first : Nat
  last : Option Nat
deriving DecidableEq, Repr

namespace Span

def holds (s : Span) (n : Nat) : Bool :=
  decide (s.first ≤ n) && s.last.all fun l => decide (n ≤ l)

def anyHolds (spans : List Span) (n : Nat) : Bool := spans.any fun s => s.holds n

/-- What a list of positions counts, which decides on its diagnostics. -/
inductive Kind where
  | bytes
  | fields
deriving DecidableEq, Repr

namespace Kind

def fromOne : Kind → String
  | bytes => "byte/character positions are numbered from 1"
  | fields => "fields are numbered from 1"

def badRange : Kind → String
  | bytes => "invalid byte or character range"
  | fields => "invalid field range"

def badValue : Kind → String
  | bytes => "invalid byte/character position "
  | fields => "invalid field value "

def tooLarge (k : Kind) (digits : String) : String :=
  match k with
  | bytes => "byte/character offset " ++ quotedText digits ++ " is too large"
  | fields => "field number " ++ quotedText digits ++ " is too large"

end Kind

structure Partial where
  first : Option Nat
  dashed : Bool
  last : Option Nat

def ofItem (k : Kind) (p : Partial) : Except String Span :=
  match p.dashed, p.first, p.last with
  | false, none, _ => .error k.fromOne
  | false, some n, _ => if n = 0 then .error k.fromOne else .ok ⟨n, some n⟩
  | true, none, none => .error "invalid range with no endpoint: -"
  | true, first, none => .ok ⟨first.getD 1, none⟩
  | true, first, some last =>
    if last < first.getD 1 then .error "invalid decreasing range"
    else .ok ⟨first.getD 1, some last⟩

def isSeparator (c : Char) : Bool := c == ',' || c == ' ' || c == '\t'

def readFrom (k : Kind) : Nat → Partial → List Char → Except String (List Span)
  | 0, _, _ => .ok []
  | _, p, [] => (ofItem k p).map fun s => [s]
  | fuel + 1, p, c :: cs =>
    if c = '-' then
      if p.dashed then .error k.badRange
      else if p.first = some 0 then .error k.fromOne
      else readFrom k fuel { p with dashed := true } cs
    else if isSeparator c then do
      let span ← ofItem k p
      return span :: (← readFrom k fuel ⟨none, false, none⟩ cs)
    else if c.isDigit then
      let (digits, rest) := (c :: cs).span Char.isDigit
      let n := digits.foldl (fun n d => n * 10 + (d.toNat - '0'.toNat)) 0
      if Numeral.highest false ≤ n then .error (k.tooLarge (String.ofList digits))
      else readFrom k fuel
        (if p.dashed then { p with last := some n } else { p with first := some n }) rest
    else .error (k.badValue ++ quotedText (String.ofList (c :: cs)))

def readList (k : Kind) (text : String) : Except String (List Span) :=
  readFrom k (text.length + 1) ⟨none, false, none⟩ text.toList

def starts (keep : Nat → Bool) (spans : List Span) (complement : Bool) (n : Nat) : Bool :=
  if complement then !keep (n - 1)
  else (spans.any fun s => s.first == n) &&
    !(spans.any fun s => decide (s.first < n) && s.holds n)

end Span

def chooseCells {α : Type} (keep : Nat → Bool) (cells : List α) : List α :=
  (cells.zipIdx.filter fun c => keep (c.2 + 1)).map Prod.fst

namespace Cut

structure Choice where
  keep : Nat → Bool
  starts : Nat → Bool
  delimiter : Char
  between : Option String
  onlyDelimited : Bool
  stop : Char

def bytes (c : Choice) (line : List Char) : List Char :=
  match c.between with
  | none => chooseCells c.keep line
  | some between =>
    let chosen := (line.zipIdx.filter fun x => c.keep (x.2 + 1)).map fun x => (x.1, x.2 + 1)
    (chosen.zipIdx.flatMap fun ((char, place), i) =>
      if i != 0 && c.starts place then between.toList ++ [char] else [char])

def fields (c : Choice) (line : List Char) : Option (List Char) :=
  if !line.contains c.delimiter then (if c.onlyDelimited then none else some line)
  else
    let cells := (String.ofList line).splitOn (String.singleton c.delimiter)
    let between := c.between.getD (String.singleton c.delimiter)
    some (String.intercalate between (chooseCells c.keep cells)).toList

def rows (c : Choice) (lines : List (List Char)) : List (List Char) :=
  match lines with
  | [] => []
  | [line] => if c.onlyDelimited then [] else [line]
  | _ =>
    let between := c.between.getD (String.singleton c.delimiter)
    [(String.intercalate between ((chooseCells c.keep lines).map String.ofList)).toList]

def file (kind : Span.Kind) (c : Choice) (cs : List Char) : List (List Char) :=
  let lines := partsBy c.stop cs
  match kind with
  | .bytes => lines.map (bytes c)
  | .fields => if c.delimiter = c.stop then rows c lines else lines.filterMap (fields c)

end Cut

def cutOptions : Options :=
  ⟨"b:c:f:d:snzαβ:", [("bytes", 'b'), ("characters", 'c'), ("fields", 'f'),
    ("delimiter", 'd'), ("only-delimited", 's'), ("complement", 'α'),
    ("output-delimiter", 'β'), ("zero-terminated", 'z')], false⟩

/-- What is wrong with the options so far; the flag tells whether a list has been given. -/
def Cut.misuse? (listed : Bool) : List (Char × String) → Option String
  | [] =>
    if listed then none else some "you must specify a list of bytes, characters, or fields"
  | (c, text) :: rest =>
    if "bcf".contains c then
      if listed then some "only one list may be specified" else misuse? true rest
    else if c = 'd' && 1 < text.length then some "the delimiter must be a single character"
    else misuse? listed rest

def cut : Tool := fun _ arguments =>
  withOptions "cut" 1 cutOptions arguments fun g => do
    match Cut.misuse? false g.options, g.options.find? fun o => "bcf".contains o.1 with
    | some text, _ => refuse "cut" 1 text
    | none, none => return 1
    | none, some (letter, text) =>
      let kind := if letter = 'f' then Span.Kind.fields else .bytes
      if kind = .bytes && g.has 'd' then
        refuse "cut" 1 "an input delimiter may be specified only when operating on fields"
      else if kind = .bytes && g.has 's' then
        refuse "cut" 1
          "suppressing non-delimited lines makes sense\n\tonly when operating on fields"
      else
        settleWithHint "cut" 1 (Span.readList kind text) fun spans => do
          let complement := g.has 'α'
          let keep := fun (n : Nat) => Span.anyHolds spans n != complement
          let choice : Cut.Choice :=
            { keep := keep
              starts := Span.starts keep spans complement
              delimiter := ((g.text? 'd').map fun d => d.toList.headD '\x00').getD '\t'
              between := (g.text? 'β').map fun s => if s = "" then "\x00" else s
              onlyDelimited := g.has 's'
              stop := if g.has 'z' then '\x00' else '\n' }
          let (read, status) ← contentsWith true "cut" g.operands
          emitWith "cut" status
            (endAll choice.stop (read.flatMap fun r => Cut.file kind choice r.2))

end Assay.Utility
