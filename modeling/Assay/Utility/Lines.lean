import Assay.Utility.Numbers
import Assay.Utility.RegexReader

/-!
# Lines of a text

Utilities that choose, change or number the lines of a text.
-/

set_option autoImplicit false

namespace Assay.Utility

/-!
## Utilities on lines

Files are shown, turned around, and broken into shorter lines.
-/

open Shell (Sh octets readable)

structure CatLook where
  numbers : Bool
  onlyFull : Bool
  squeeze : Bool
  ends : Bool
  tabs : Bool
  controls : Bool

def visible (c : Char) : String :=
  let n := c.toNat
  let low := fun (n : Nat) =>
    if n < 32 then "^" ++ String.singleton (Char.ofNat (n + 64))
    else if n = 127 then "^?"
    else String.singleton (Char.ofNat n)
  if n < 128 then low n else "M-" ++ low (n - 128)

def CatLook.char (l : CatLook) (c : Char) : String :=
  if c = '\t' then if l.tabs then "^I" else "\t"
  else if l.controls then visible c
  else String.singleton c

def CatLook.line (l : CatLook) (ended : Bool) (line : List Char) : String :=
  let text := String.join (line.map l.char)
  if l.ends && ended && !l.controls && line.getLast? == some '\x0d'
  then (text.dropEnd 1).toString ++ "^M" else text

def CatLook.show (l : CatLook) : Nat → Bool → List (List Char) → List String
  | _, _, [] => []
  | _, _, [[]] => []
  | n, afterEmpty, line :: rest =>
    if l.squeeze && afterEmpty && line.isEmpty && !rest.isEmpty then l.show n true rest
    else
      let counted := l.numbers && !(l.onlyFull && line.isEmpty)
      let number := if counted then padLeft 6 (toString n) ++ "\t" else ""
      let body := l.line (!rest.isEmpty) line
      let stop := if rest.isEmpty then "" else if l.ends then "$\n" else "\n"
      (number ++ body ++ stop) :: l.show (if counted then n + 1 else n) line.isEmpty rest

/-- Splits at line ends; what follows the last one is a part as well. -/
def splitLines (cs : List Char) : List (List Char) :=
  let (line, rest) := cs.foldr (fun c p => if c = '\n' then ([], p.1 :: p.2) else (c :: p.1, p.2))
    (([], []) : List Char × List (List Char))
  line :: rest

def catContents : List String → Sh (List (String × List Char) × Nat)
  | [] => return ([], 0)
  | operand :: rest => do
    match ← content operand with
    | .ok cs =>
      let circular := (← isOutput operand) && !cs.isEmpty
      if circular then blame "cat" (shownName operand ++ ": input file is output file")
      let (more, status) ← catContents rest
      return if circular then (more, 1) else ((operand, cs) :: more, status)
    | .error u =>
      blameUnread "cat" operand u
      let (more, _) ← catContents rest
      return (more, 1)

def cat : Tool := fun _ arguments =>
  withOptions "cat" 1 ⟨"AbeEnstTuv", [("show-all", 'A'), ("number-nonblank", 'b'),
    ("show-ends", 'E'), ("number", 'n'), ("squeeze-blank", 's'), ("show-tabs", 'T'),
    ("show-nonprinting", 'v')], false⟩ arguments fun g => do
    if ((← get).sink? 1).isNone then
      blame "cat" ("standard output: " ++ SystemError.badDescriptor.text)
      return 1
    let (read, status) ← catContents (if g.operands.isEmpty then ["-"] else g.operands)
    let look : CatLook :=
      { numbers := g.has 'n' || g.has 'b'
        onlyFull := g.has 'b'
        squeeze := g.has 's'
        ends := g.has 'A' || g.has 'e' || g.has 'E'
        tabs := g.has 'A' || g.has 't' || g.has 'T'
        controls := g.has 'A' || g.has 'e' || g.has 't' || g.has 'v' }
    let text := if g.options.isEmpty then String.ofList (together read)
      else String.join (look.show 1 false (splitLines (together read)))
    let status ← emitWith "cat" status text
    if ← (if g.operands.isEmpty then ["-"] else g.operands).anyM isEndless then throw .never
    return status

def endedLines (stop : Char) (cs : List Char) : List (List Char) :=
  match ((String.ofList cs).splitOn (String.singleton stop)).reverse with
  | [] => []
  | last :: before =>
    (before.reverse.map fun l => l.toList ++ [stop]) ++ if last.isEmpty then [] else [last.toList]

def lastText (input : Array Char) (part : Array Char) (limit : Nat) : Option (Nat × Nat) :=
  (List.range (limit + 1 - part.size)).reverse.findSome? fun i =>
    if i + part.size ≤ limit && input.extract i (i + part.size) == part
    then some (i, i + part.size) else none

def lastMatch (r : Regex) (input : Array Char) (limit : Nat) : Option (Nat × Nat) :=
  let part := input.extract 0 limit
  (List.range limit).reverse.findSome? fun i =>
    (r.matchAt part i).map fun f => (f.start, f.stop)

/-- Records of a text from the last one to the first. A separator ends a record, or begins one;
`find` looks for the last separator before a place. -/
def recordsBack (find : Nat → Option (Nat × Nat)) (leads : Bool) (input : Array Char) :
    Nat → Bool → Nat → Nat → List Char
  | 0, _, stop, _ => (input.extract 0 stop).toList
  | fuel + 1, first, stop, limit =>
    match find limit with
    | none => (input.extract 0 stop).toList
    | some (start, behind) =>
      if leads then
        (input.extract start stop).toList ++ recordsBack find leads input fuel first start start
      else if first && behind == stop then
        recordsBack find leads input fuel false behind start
      else
        (input.extract behind stop).toList ++ recordsBack find leads input fuel false behind start

def turned (find : Array Char → Nat → Option (Nat × Nat)) (leads : Bool) (cs : List Char) :
    List Char :=
  let input := cs.toArray
  recordsBack (find input) leads input (cs.length + 1) true input.size input.size

def tac : Tool := fun _ arguments =>
  withOptions "tac" 1 ⟨"brs:", [("before", 'b'), ("regex", 'r'), ("separator", 's')], false⟩
    arguments fun g => do
    let separator := (g.text? 's').getD "\n"
    let flavour : Regex.Flavour :=
      { extended := false, ignoreCase := false, emptyRanges := true, plainSigns := true,
        innerLines := true }
    let find? := if g.has 'r'
      then (Regex.parse flavour separator).map fun r => lastMatch r.1
      else .ok fun input => lastText input (if separator = "" then #['\x00']
        else separator.toList.toArray)
    if g.has 'r' && separator = "" then
      blame "tac" "separator cannot be empty"
      return 1
    settle "tac" 1 find? fun find => do
      let (read, status) ← contentsWith true "tac" g.operands
      let isPlain := separator = "\n" && !g.has 'b'
      let text := read.flatMap fun r =>
        if isPlain then (endedLines '\n' r.2).reverse.flatten else turned find (g.has 'b') r.2
      emitWith "tac" status (String.ofList text)

/-- The contents of operands that are turned around; `none` where reading never ends. -/
def revContents (status : Nat) : List String → Sh (Option (List (List Char) × Nat))
  | [] => return some ([], status)
  | operand :: rest => do
    let (path, isFile) := if operand = "-" then ("./-", true) else (operand, true)
    match ← content (if isFile then path else operand) with
    | .ok cs => return (← revContents status rest).map fun more => (cs :: more.1, more.2)
    | .error u =>
      if u.isFound then return none
      blame "rev" ("cannot open " ++ operand ++ ": " ++ u.text)
      revContents 1 rest

def rev : Tool := fun _ arguments =>
  withOptions "rev" 1 ⟨"0", [("zero", '0')], false⟩ arguments fun g => do
    let stop := if g.has '0' then '\x00' else '\n'
    let turn := fun (line : List Char) =>
      if line.getLast? == some stop then line.dropLast.reverse ++ [stop] else line.reverse
    let wide ← isWide
    let read? ← if g.operands.isEmpty then do
        match ← content "-" with
        | .ok cs => pure (some ([cs], 0))
        | .error _ => pure none
      else revContents 0 g.operands
    let some (read, status) := read? | throw .never
    let texts := read.map fun cs => if wide then widen cs else cs
    if texts.any fun cs => cs.any isStray then throw .never
    let text := texts.flatMap fun cs => (endedLines stop cs).flatMap turn
    emitWith "rev" status (String.ofList (if wide then narrow text else text))

def columnAfter (bytes : Bool) (column : Nat) (c : Char) : Nat :=
  if bytes then column + 1
  else if c = '\t' then column / 8 * 8 + 8
  else if c = '\x08' then column - 1
  else if c = '\x0d' then 0
  else column + 1

/-- Breaks a line, of which some characters have been read, last first. -/
def foldLine (bytes atBlanks : Bool) (width : Nat) : Nat → List Char → Nat → List Char →
    List (List Char)
  | 0, held, _, cs => [held.reverse ++ cs]
  | _, held, _, [] => [held.reverse]
  | fuel + 1, held, column, c :: cs =>
    let next := columnAfter bytes column c
    if width < next && !held.isEmpty then
      let (after, before) := if atBlanks then held.span fun c => c != ' ' && c != '\t'
        else ([], held)
      if atBlanks && !before.isEmpty then
        let column := after.reverse.foldl (columnAfter bytes) 0
        before.reverse :: foldLine bytes atBlanks width fuel after column (c :: cs)
      else held.reverse :: foldLine bytes atBlanks width fuel [] 0 (c :: cs)
    else foldLine bytes atBlanks width fuel (c :: held) next cs

def foldWidth (g : Given) : Except String Nat :=
  let texts := g.options.filterMap fun (c, text) =>
    if c = 'w' then some text
    else if c.isDigit then some (String.singleton c ++ text) else none
  texts.foldlM (fun _ text => Numeral.natural "" 1 "invalid number of columns" text) 80

def fold : Tool := fun _ arguments =>
  withOptions "fold" 1 ⟨"bsw:0::1::2::3::4::5::6::7::8::9::", [("bytes", 'b'),
    ("spaces", 's'), ("width", 'w')], false⟩ arguments fun g =>
    settle "fold" 1 (foldWidth g) fun width => do
      let (read, status) ← contentsWith true "fold" g.operands
      let broken := read.map fun r =>
        let lines := (splitLines r.2).map fun line =>
          foldLine (g.has 'b') (g.has 's') width (3 * line.length + 3) [] 0 line
        String.intercalate "\n" (lines.flatten.map String.ofList)
      emitWith "fold" status (String.join broken)

end Assay.Utility

namespace Assay.Utility

/-!
## The nl utility

Lines are numbered. Certain lines divide a file into pages, each with a header,
a body and a footer, and every part has a style of its own.
-/

namespace Numbering

/-- Which lines of a part are numbered. -/
inductive Style where
  | all
  | full
  | none
  | matching (r : Regex)

def Style.read (part text : String) : Except String Style :=
  let flavour : Regex.Flavour := { extended := false, ignoreCase := false, emptyRanges := true }
  match text.toList with
  | 'a' :: _ => .ok .all
  | 't' :: _ => .ok .full
  | 'n' :: _ => .ok .none
  | 'p' :: cs => (Regex.parse flavour (String.ofList cs)).map fun r => .matching r.1
  | _ => .error ("invalid " ++ part ++ " numbering style: " ++ quotedText text)

inductive Part where
  | header
  | body
  | footer
deriving DecidableEq, Repr

structure Layout where
  styles : Part → Style
  start : Int
  step : Int
  width : Nat
  between : String
  format : String
  blanks : Nat
  renumbers : Bool
  delimiter : List Char

def number (l : Layout) (n : Int) : String :=
  let digits := toString n.natAbs
  let sign := if n < 0 then "-" else ""
  let pad := fun (c : Char) =>
    String.ofList (List.replicate (l.width - digits.length - sign.length) c)
  if l.format = "ln" then sign ++ digits ++ pad ' '
  else if l.format = "rz" then sign ++ pad '0' ++ digits
  else pad ' ' ++ sign ++ digits

def part? (l : Layout) (line : List Char) : Option Part :=
  let d := l.delimiter
  if d.length < 2 then none
  else if line = d ++ d ++ d then some .header
  else if line = d ++ d then some .body
  else if line = d then some .footer
  else none

structure State where
  part : Part
  next : Int
  blanks : Nat

def largest : Int := 9223372036854775807

def isNumbered (l : Layout) (s : State) (line : List Char) : Bool × Nat :=
  match l.styles s.part with
  | .all =>
    if l.blanks ≤ 1 then (true, s.blanks)
    else if !line.isEmpty || s.blanks + 1 = l.blanks then (true, 0)
    else (false, s.blanks + 1)
  | .full => (!line.isEmpty, s.blanks)
  | .none => (false, s.blanks)
  | .matching r => (r.isMatch (String.ofList line), s.blanks)

def lines (l : Layout) : State → List (List Char) → List String × Option State
  | s, [] => ([], some s)
  | s, line :: rest =>
    match part? l line with
    | some part =>
      let (more, state) :=
        lines l { s with part := part, next := if l.renumbers then l.start else s.next } rest
      ("" :: more, state)
    | none =>
      let (numbered, blanks) := isNumbered l s line
      let text := String.ofList line
      if numbered then
        if largest < s.next then ([], none)
        else
          let (more, state) := lines l { s with next := s.next + l.step, blanks := blanks } rest
          ((number l s.next ++ l.between ++ text) :: more, state)
      else
        let (more, state) := lines l { s with blanks := blanks } rest
        let gap := String.ofList (List.replicate (l.width + l.between.length) ' ')
        ((gap ++ text) :: more, state)

/-- The delimiter of parts that a text asks for; a second colon is understood. -/
def delimiterOf (text : String) : List Char :=
  match text.toList with
  | [c] => [c, ':']
  | cs => cs

def styleFaults (g : Given) : List String :=
  g.options.filterMap fun (c, text) =>
    let fault := fun (part : String) => match Style.read part text with
      | .error e => some e
      | .ok _ => none
    match c with
    | 'h' => fault "header"
    | 'b' => fault "body"
    | 'f' => fault "footer"
    | 'n' => if ["ln", "rn", "rz"].contains text then none
      else some ("invalid line numbering format: " ++ quotedText text)
    | _ => none

/-- The first option that ends everything at once: a number that is none, or an expression. -/
def fatal? (g : Given) : Option String :=
  g.options.findSome? fun (c, text) =>
    let fault := fun (low high : Int) (what : String) =>
      match Numeral.bounded "" true low high what text with
      | .error e => some e
      | .ok _ => none
    match c with
    | 'v' => fault (Numeral.lowest true) largest "invalid starting line number"
    | 'i' => fault (Numeral.lowest true) largest "invalid line number increment"
    | 'l' => fault 1 largest "invalid line number of blank lines"
    | 'w' => fault 1 2147483647 "invalid line number field width"
    | 'h' | 'b' | 'f' =>
      if text.startsWith "p" then
        match Style.read "" text with
        | .error e => some e
        | .ok _ => none
      else none
    | _ => none

def layout (g : Given) : Layout :=
  let style := fun (c : Char) (default : Style) =>
    match (g.text? c).map (Style.read "") with
    | some (.ok s) => s
    | _ => default
  let count := fun (c : Char) (default : Int) =>
    match (g.text? c).map (Numeral.read "" true) with
    | some (.ok n) => n
    | _ => default
  { styles := fun
      | .header => style 'h' .none
      | .body => style 'b' .full
      | .footer => style 'f' .none
    start := count 'v' 1
    step := count 'i' 1
    width := (count 'w' 6).toNat
    between := (g.text? 's').getD "\t"
    format := (g.text? 'n').getD "rn"
    blanks := (count 'l' 1).toNat
    renumbers := !g.has 'p'
    delimiter := ((g.text? 'd').map delimiterOf).getD ['\\', ':'] }

end Numbering

def nlOptions : Options :=
  ⟨"b:d:f:h:i:l:n:ps:v:w:", [("header-numbering", 'h'), ("body-numbering", 'b'),
    ("footer-numbering", 'f'), ("starting-line-number", 'v'), ("line-increment", 'i'),
    ("no-renumber", 'p'), ("join-blank-lines", 'l'), ("number-separator", 's'),
    ("number-width", 'w'), ("number-format", 'n'), ("section-delimiter", 'd')], false⟩

def nl : Tool := fun _ arguments =>
  withOptions "nl" 1 nlOptions arguments fun g => do
    if let some text := Numbering.fatal? g then
      blame "nl" text
      return 1
    let faults := Numbering.styleFaults g
    match faults.getLast? with
    | some last =>
      for text in faults.dropLast do blame "nl" text
      refuse "nl" 1 last
    | none =>
      let l := Numbering.layout g
      let (read, status) ← contentsWith true "nl" g.operands
      let all := read.flatMap fun r => partsBy '\n' r.2
      let (text, state) := Numbering.lines l ⟨.body, l.start, 0⟩ all
      let status ← emitWith "nl" status (joinLines text)
      if state.isNone then
        blame "nl" "line number overflow"
        return 1
      return status

end Assay.Utility
