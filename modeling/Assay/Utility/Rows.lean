import Assay.Utility.Numbers

/-!
# Utilities on the lines of several files

Lines of several files are put side by side, and lines are compared with their
neighbours or with those of another file.
-/

set_option autoImplicit false

namespace Assay.Utility

open Shell (Sh)

namespace Paste

def row (separators : List String) (cells : List (List Char)) : List Char :=
  match cells with
  | [] => []
  | first :: rest =>
    first ++ rest.zipIdx.flatMap fun (cell, i) =>
      ((separators[i % separators.length]?).getD "").toList ++ cell

def rows (separators : List String) : Nat → List (List (List Char)) → List (List Char)
  | 0, _ => []
  | n + 1, columns =>
    if columns.all List.isEmpty then []
    else row separators (columns.map fun c => c.headD []) ::
      rows separators n (columns.map List.tail)

/-- Separators of a list, in which backslashes stand for unusual ones; `none` if the last
backslash has nothing behind it. -/
def separators? : List Char → Option (List String)
  | [] => some []
  | ['\\'] => none
  | '\\' :: c :: cs =>
    let text := match c with
      | '0' => ""
      | 'b' => "\x08"
      | 'f' => "\x0c"
      | 'n' => "\n"
      | 'r' => "\x0d"
      | 't' => "\t"
      | 'v' => "\x0b"
      | c => String.singleton c
    (separators? cs).map (text :: ·)
  | c :: cs => (separators? cs).map (String.singleton c :: ·)

def everyNth {α : Type} (n rest : Nat) (items : List α) : List α :=
  (items.zipIdx.filter fun x => x.2 % n == rest).map Prod.fst

/-- Columns of operands. Those that are standard input take turns with its lines. -/
def columns (stop : Char) (dashes : Nat) (input : List (List Char)) :
    Nat → List String → Sh (Except (String × Unread) (List (List (List Char)) × Nat))
  | _, [] => return .ok ([], 0)
  | i, operand :: rest => do
    if operand = "-" then
      return (← columns stop dashes input (i + 1) rest).map
        fun (more, status) => (everyNth dashes i input :: more, status)
    match ← content operand with
    | .ok cs =>
      return (← columns stop dashes input i rest).map
        fun (more, status) => (partsBy stop cs :: more, status)
    | .error u =>
      if u.isFound then
        blameUnread "paste" operand u
        return (← columns stop dashes input i rest).map fun (more, _) => ([] :: more, 1)
      else return .error (operand, u)

end Paste

def paste : Tool := fun _ arguments =>
  withOptions "paste" 1 ⟨"d:sz", [("delimiters", 'd'), ("serial", 's'),
    ("zero-terminated", 'z')], false⟩ arguments fun g => do
    let list := (g.text? 'd').getD "\t"
    match Paste.separators? list.toList with
    | none =>
      blame "paste" ("delimiter list ends with an unescaped backslash: " ++ list)
      return 1
    | some separators =>
      let separators := if separators.isEmpty then [""] else separators
      let stop := if g.has 'z' then '\x00' else '\n'
      let operands := if g.operands.isEmpty then ["-"] else g.operands
      if g.has 's' then
        let (read, status) ← contentsWith true "paste" operands
        emitWith "paste" status
          (endAll stop (read.map fun r => Paste.row separators (partsBy stop r.2)))
      else
        let dashes := operands.count "-"
        let mut input : List (List Char) := []
        let mut status := 0
        if dashes != 0 then
          match ← content "-" with
          | .ok cs => input := partsBy stop cs
          | .error u =>
            blameUnread "paste" "-" u
            status := 1
        match ← Paste.columns stop dashes input 0 operands with
        | .error (operand, u) =>
          blameUnread "paste" operand u
          return 1
        | .ok (columns, unread) =>
          let height := columns.foldl (fun n c => max n c.length) 0
          emitWith "paste" (max status unread) (endAll stop (Paste.rows separators (height + 1) columns))

namespace Uniq

structure Choice where
  counted : Bool
  single : Bool
  repeated : Bool
  all : Bool

structure Key where
  fields : Nat
  chars : Nat
  width : Option Nat
  ignoreCase : Bool

def isGap (c : Char) : Bool := c == ' ' || c == '\t' || c == '\n'

def skipFields : Nat → List Char → List Char
  | 0, cs => cs
  | n + 1, cs =>
    if cs.isEmpty then cs else skipFields n ((cs.dropWhile isGap).dropWhile fun c => !isGap c)

def Key.of (k : Key) (line : List Char) : List Char :=
  let cs := (skipFields k.fields line).drop k.chars
  let cs := match k.width with
    | some n => cs.take n
    | none => cs
  if k.ignoreCase then cs.map Char.toLower else cs

def groups (k : Key) : List (List Char) → List (List (List Char))
  | [] => []
  | line :: rest =>
    match groups k rest with
    | (next :: more) :: others =>
      if k.of line = k.of next then (line :: next :: more) :: others
      else [line] :: (next :: more) :: others
    | others => [line] :: others

def Choice.shown (c : Choice) (group : List (List Char)) : List (List Char) :=
  let count := fun (n : Nat) => if c.counted then (padLeft 7 (toString n) ++ " ").toList else []
  match group with
  | [] => []
  | [line] => if c.single then [count 1 ++ line] else []
  | first :: rest =>
    if c.all then group.dropLast ++ (if c.repeated then [rest.getLastD first] else [])
    else if c.repeated then [count group.length ++ first]
    else []

def delimit (method : String) (groups : List (List (List Char))) : List (List Char) :=
  if groups.isEmpty then []
  else
    let between := groups.zipIdx.flatMap fun (g, i) => (if i = 0 then [] else [[]]) ++ g
    match method with
    | "prepend" => [] :: between
    | "append" => between ++ [[]]
    | "both" => [] :: between ++ [[]]
    | "separate" => between
    | _ => groups.flatten

def count (what text : String) : Except String Nat :=
  match Numeral.read "" false text with
  | .ok n => .ok n.toNat
  | .error .beyond => .ok (Numeral.highest false).toNat
  | .error .malformed => .error (text ++ ": invalid number of " ++ what)

def method (option : String) (names : List String) (text : String) : Except String String :=
  (chooseRow option (names.map fun n => [n]) text).map fun n => (names[n]?).getD ""

def fieldCount : Nat → Bool → List (Char × String) → Except String Nat
  | n, _, [] => .ok n
  | n, isOld, (c, text) :: rest =>
    if c = 'f' then do fieldCount (← count "fields to skip" text) false rest
    else if c.isDigit then
      fieldCount ((if isOld then n * 10 else 0) + (c.toNat - '0'.toNat)) true rest
    else fieldCount n isOld rest

def skips (operand : String) : Bool :=
  match operand.toList with
  | '+' :: d :: ds => (d :: ds).all Char.isDigit
  | _ => false

def options : Options :=
  ⟨"0123456789Dcdf:is:uw:zα::β::", [("count", 'c'), ("repeated", 'd'), ("all-repeated", 'α'),
    ("group", 'β'), ("ignore-case", 'i'), ("unique", 'u'), ("skip-fields", 'f'),
    ("skip-chars", 's'), ("check-chars", 'w'), ("zero-terminated", 'z')], false⟩

end Uniq

def uniq : Tool := fun _ arguments =>
  withOptions "uniq" 1 Uniq.options arguments fun given => do
    let old := if arguments.contains "--" then [] else given.operands.filter Uniq.skips
    let g : Given := ⟨given.options ++ old.map fun t => ('s', (t.drop 1).toString),
      given.operands.filter fun t => !old.contains t⟩
    let repeatMethods := ["none", "prepend", "separate"]
    let groupMethods := ["prepend", "append", "separate", "both"]
    let read := do
      let repeats ← g.read 'α' "none" fun t =>
        if t = "" then .ok "none" else Uniq.method "--all-repeated" repeatMethods t
      let grouping ← g.read 'β' "" fun t =>
        if t = "" then .ok "separate" else Uniq.method "--group" groupMethods t
      return (repeats, grouping)
    settleWithHint "uniq" 1 read fun (repeats, grouping) => do
      let counts := do
        let fields ← Uniq.fieldCount 0 true g.options
        let chars ← g.read 's' 0 (Uniq.count "bytes to skip")
        let width ← g.read 'w' none fun t => (Uniq.count "bytes to compare" t).map some
        return (⟨fields, chars, width, g.has 'i'⟩ : Uniq.Key)
      settle "uniq" 1 counts fun key => do
        let all := g.has 'D' || g.has 'α'
        let isChosen := g.has 'c' || g.has 'd' || all || g.has 'u'
        if let some extra := g.operands[2]? then
          return ← refuse "uniq" 1 ("extra operand " ++ quotedText extra)
        if grouping != "" && isChosen then
          return ← refuse "uniq" 1 "--group is mutually exclusive with -c/-d/-D/-u"
        if g.has 'c' && all then
          return ← refuse "uniq" 1
            "printing all duplicated lines and repeat counts is meaningless"
        let (read, status) ← contents "uniq" (g.operands.take 1)
        if status ≠ 0 then return status
        if let some path := g.operands[1]? then
          if path != "-" then
            match ← Shell.openForWriting .fresh path with
            | .ok sink => modify fun s => s.withDescriptor 1 sink
            | .error e =>
              blame "uniq" (shownName path ++ ": " ++ reason e)
              return 1
        let stop := if g.has 'z' then '\x00' else '\n'
        let choice : Uniq.Choice := ⟨g.has 'c', !(g.has 'd' || all), !g.has 'u', all⟩
        let groups := Uniq.groups key (partsBy stop (together read))
        let shown :=
          if grouping != "" then Uniq.delimit grouping groups
          else if all then
            Uniq.delimit repeats ((groups.filter fun l => 1 < l.length).map choice.shown)
          else groups.flatMap choice.shown
        emit "uniq" (endAll stop shown)

namespace Comm

def rows : Nat → List String → List String → List (Nat × String)
  | 0, _, _ => []
  | _, [], bs => bs.map fun b => (1, b)
  | _, as, [] => as.map fun a => (0, a)
  | n + 1, a :: as, b :: bs =>
    if a < b then (0, a) :: rows n as (b :: bs)
    else if b < a then (1, b) :: rows n (a :: as) bs
    else (2, a) :: rows n as bs

structure Progress where
  before : Option String
  current : Option String
  left : List String

def Progress.start (lines : List String) : Progress := ⟨none, lines.head?, lines.tail⟩

/-- Whether a step shows that the lines are not in order, and what is known behind it. At the
end the last two lines are looked at again. -/
def Progress.step (p : Progress) : Bool × Progress :=
  match p.left with
  | next :: left => (p.current.any fun c => decide (next < c), ⟨p.current, some next, left⟩)
  | [] =>
    let wrong := match p.before, p.current with
      | some b, some c => decide (c < b)
      | _, _ => false
    (wrong, ⟨p.before, none, []⟩)

/-- Which of two lists is seen not to be in order first, while they are gone through side by
side, each with the number of rows up to there. Nothing is looked at, unless it is asked for, up
to a line that has no partner. -/
def disorder (strict : Bool) :
    Nat → Nat → Bool → Bool × Bool → Progress → Progress → List (Nat × Nat)
  | 0, _, _, _, _, _ => []
  | fuel + 1, row, unpaired, seen, a, b =>
    let order : Option Ordering := match a.current, b.current with
      | some x, some y => some (Ord.compare x y)
      | some _, none => some .lt
      | none, some _ => some .gt
      | none, none => none
    match order with
    | none => []
    | some order =>
      let unpaired := unpaired || order != .eq
      let (wrongA, a) := if order != .gt then a.step else (false, a)
      let (wrongB, b) := if order != .lt then b.step else (false, b)
      let reports := unpaired || strict
      let newA := wrongA && reports && !seen.1
      let newB := wrongB && reports && !seen.2
      (if newA then [(1, row)] else []) ++ (if newB then [(2, row)] else []) ++
        disorder strict fuel (row + 1) unpaired (seen.1 || newA, seen.2 || newB) a b

def options : Options :=
  ⟨"123zαβγ:δ", [("check-order", 'α'), ("nocheck-order", 'β'), ("output-delimiter", 'γ'),
    ("total", 'δ'), ("zero-terminated", 'z')], false⟩

end Comm

def showCommon (g : Given) (between : String) (x y : List String) : Sh Nat := do
  let stop := if g.has 'z' then "\x00" else "\n"
  let size := x.length + y.length + 2
  let isShown := fun (column : Nat) => !g.has (Char.ofNat (49 + column))
  let indent := fun (column : Nat) =>
    String.join ((List.range column).map fun c => if isShown c then between else "")
  let shown := fun (rows : List (Nat × String)) =>
    String.join ((rows.filter fun r => isShown r.1).map fun r => indent r.1 ++ r.2 ++ stop)
  let rows := Comm.rows size x y
  let strict := g.last? "αβ" == some 'α'
  let disorder := if g.last? "αβ" == some 'β' then []
    else Comm.disorder strict size 1 false (false, false) (.start x) (.start y)
  let complaint := fun (n : Nat) => "file " ++ toString n ++ " is not in sorted order"
  match strict, disorder with
  | true, (n, row) :: _ =>
    blame "comm" (complaint n)
    emitWith "comm" 1 (shown (rows.take row))
  | _, _ =>
    for (n, _) in disorder do blame "comm" (complaint n)
    if !disorder.isEmpty then blame "comm" "input is not in sorted order"
    let total := fun (column : Nat) => toString (rows.countP fun r => r.1 == column)
    let totals := if g.has 'δ'
      then String.intercalate between [total 0, total 1, total 2, "total"] ++ stop else ""
    emitWith "comm" (if disorder.isEmpty then 0 else 1) (shown rows ++ totals)

def comm : Tool := fun _ arguments =>
  withOptions "comm" 1 Comm.options arguments fun g => do
    let delimiters := (g.options.filter fun o => o.1 == 'γ').map Prod.snd
    let isNew := fun (d : String) => delimiters.head?.any fun e => e != "" && e != d
    if delimiters.any isNew then
      blame "comm" "multiple output delimiters specified"
      return 1
    let between := match delimiters.getLast? with
      | none => "\t"
      | some d => if d = "" then "\x00" else d
    match g.operands with
    | [a, b] =>
      let lines := fun (cs : List Char) =>
        (partsBy (if g.has 'z' then '\x00' else '\n') cs).map String.ofList
      match ← content a with
      | .error u =>
        blameUnread "comm" a u
        return 1
      | .ok x =>
        match ← content b with
        | .error u =>
          blameUnread "comm" b u
          return 1
        | .ok y => showCommon g between (lines x) (lines y)
    | [] => refuse "comm" 1 "missing operand"
    | [a] => refuse "comm" 1 ("missing operand after " ++ quotedText a)
    | _ :: _ :: c :: _ => refuse "comm" 1 ("extra operand " ++ quotedText c)

end Assay.Utility
