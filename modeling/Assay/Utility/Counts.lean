import Assay.Utility.Numbers

/-!
# The wc utility

Lines, words, characters and bytes of files are counted, and how many columns
the broadest line takes.
-/

set_option autoImplicit false

namespace Assay.Utility

open Shell (Sh readable)

structure Counts where
  lines : Nat
  words : Nat
  chars : Nat
  bytes : Nat
  longest : Nat
deriving DecidableEq, Repr

namespace Counts

def zero : Counts := ⟨0, 0, 0, 0, 0⟩

def add (a b : Counts) : Counts :=
  ⟨a.lines + b.lines, a.words + b.words, a.chars + b.chars, a.bytes + b.bytes,
    max a.longest b.longest⟩

structure Place where
  counts : Counts
  inWord : Bool
  column : Nat

/-- Blanks that are no spaces where a line may not break, and yet part words. -/
def isBroadBlank (n : Nat) : Bool :=
  [0xa0, 0x1680, 0x202f, 0x205f, 0x2060, 0x3000].contains n || decide (0x2000 ≤ n ∧ n ≤ 0x200a)

def Place.apart (p : Place) : Place :=
  if p.inWord then
    { p with inWord := false, counts := { p.counts with words := p.counts.words + 1 } }
  else p

def Place.to (p : Place) (column : Nat) : Place :=
  { p with column := column,
           counts := { p.counts with longest := max p.counts.longest column } }

def Place.next (p : Place) (c : Char) : Place :=
  if isStray c then p
  else
    let p := { p with counts := { p.counts with chars := p.counts.chars + 1 } }
    match c with
    | '\n' => { p.apart with
        column := 0, counts := { p.apart.counts with lines := p.counts.lines + 1 } }
    | '\x0d' | '\x0c' => { p.apart with column := 0 }
    | '\t' => (p.apart).to (p.column / 8 * 8 + 8)
    | ' ' => (p.apart).to (p.column + 1)
    | '\x0b' => p.apart
    | c =>
      if !isPrintable c then p
      else
        let p := p.to (p.column + columnsOf c)
        if isBroadBlank c.toNat then p.apart else { p with inWord := true }

def ofChars (size : Nat) (cs : List Char) : Counts :=
  { (cs.foldl Place.next ⟨zero, false, 0⟩).apart.counts with bytes := size }

def plain (c : Char) : Char := if c.toNat < 0x80 then c else '\x7f'

def chosen (k : Counts) (g : Given) : List Nat :=
  let all := !(g.options.any fun o => "lwcmL".contains o.1)
  (if all || g.has 'l' then [k.lines] else []) ++ (if all || g.has 'w' then [k.words] else []) ++
    (if g.has 'm' then [k.chars] else []) ++ (if all || g.has 'c' then [k.bytes] else []) ++
    (if g.has 'L' then [k.longest] else [])

end Counts

/-- The size of an operand that is a file, or how many columns a count of it takes at least,
if it is there. -/
def sizeOf? (operand : String) : Sh (Option (Nat × Nat)) := do
  let s ← get
  if operand = "-" then
    match s.sink? 0 with
    | none => return none
    | some (.file n) =>
      return some (((s.opened? n).bind s.contentOf?).elim (0, 7) fun bs => (bs.length, 1))
    | some _ => return some (0, 7)
  match s.files.stat s.folder (readable operand) with
  | .error _ => return none
  | .ok e => return some (if e.isRegular then (((e.content?).getD []).length, 1) else (0, 7))

/-- How many columns the counts of operands take: as many as the size of all files. -/
def countWidth (operands : List String) : Sh Nat := do
  let sizes := (← operands.mapM sizeOf?).filterMap id
  let size := (sizes.map Prod.fst).foldl (· + ·) 0
  return (sizes.map Prod.snd).foldl max (toString size).length

def countedContents (isImplied : Bool) : List String → Sh (List (String × List Char) × Nat)
  | [] => return ([], 0)
  | operand :: rest => do
    match ← content operand with
    | .ok cs =>
      let (more, status) ← countedContents isImplied rest
      return ((operand, cs) :: more, status)
    | .error u =>
      if isImplied then
        blame "wc" (shownName "standard input" ++ ": " ++ u.text)
        if (← Shell.standardInput).isNone then blame "wc" ("-: " ++ u.text)
      else blameUnread "wc" operand u
      let (more, _) ← countedContents isImplied rest
      return (if u.isFound then (operand, []) :: more else more, 1)

/-- When the sum of all counts is shown. -/
inductive TotalRule where
  | auto
  | always
  | only
  | never
deriving DecidableEq, Repr

def TotalRule.read (text : String) : Except String TotalRule :=
  (chooseRow "--total" [["auto"], ["always"], ["only"], ["never"]] text).map fun n =>
    ([TotalRule.auto, .always, .only, .never][n]?).getD .auto

def countAll (g : Given) (rule : TotalRule) (isImplied aligned : Bool) (operands : List String) :
    Sh Nat := do
  let columns := (Counts.zero.chosen g).length
  let width ← if aligned then countWidth operands else pure 1
  let (read, status) ← countedContents isImplied operands
  let wide ← isWide
  let counts := read.map fun r =>
    (r.1, Counts.ofChars r.2.length (if wide then widen r.2 else r.2.map Counts.plain))
  let total := counts.foldl (fun t k => t.add k.2) Counts.zero
  let width := if rule = .only || (operands.length = 1 && columns = 1) then 1 else width
  let row := fun (name : String) (k : Counts) =>
    String.intercalate " " ((k.chosen g).map fun n => padLeft width (toString n)) ++
      (if name = "" then "" else " " ++ name)
  let rows := if rule = .only then []
    else counts.map fun k => row (if isImplied then "" else k.1) k.2
  let last := match rule with
    | .auto => if 1 < operands.length then [row "total" total] else []
    | .always => [row "total" total]
    | .only => [row "" total]
    | .never => []
  emitWith "wc" status (joinLines (rows ++ last))

def listedNames (name : String) (path : String) : Sh (Except String (List String)) := do
  match ← content path with
  | .error u => return .error ("cannot open " ++ quotedName path ++ " for reading: " ++ u.text)
  | .ok cs =>
    let names := (partsBy '\x00' cs).map String.ofList
    for (n, i) in names.zipIdx do
      if n = "" then
        blame name (path ++ ":" ++ toString (i + 1) ++ ": invalid zero-length file name")
    return .ok names

def wc : Tool := fun _ arguments =>
  withOptions "wc" 1 ⟨"clmwLα:β:", [("bytes", 'c'), ("chars", 'm'), ("lines", 'l'),
    ("words", 'w'), ("max-line-length", 'L'), ("total", 'α'), ("files0-from", 'β')], false⟩
    arguments fun g =>
    settleWithHint "wc" 1 (g.read 'α' .auto TotalRule.read) fun rule => do
      match g.text? 'β', g.operands with
      | some _, extra :: _ =>
        refuse "wc" 1 ("extra operand " ++ quotedName extra ++
          "\nfile operands cannot be combined with --files0-from")
      | some path, [] =>
        match ← listedNames "wc" path with
        | .error text =>
          blame "wc" text
          return 1
        | .ok names =>
          let s ← get
          let isFile := match s.files.stat s.folder (readable path) with
            | .ok e => path != "-" && e.isRegular
            | .error _ => false
          let status ← countAll g rule false isFile (names.filter (· != ""))
          return if names.contains "" then 1 else status
      | none, [] => countAll g rule true true ["-"]
      | none, operands => countAll g rule false true operands

end Assay.Utility
