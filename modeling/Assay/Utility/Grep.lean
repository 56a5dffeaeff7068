import Assay.Utility.Numbers
import Assay.Utility.RegexReader

/-!
# The grep utility

Lines that match one of some expressions are shown, counted, or told from the
others, with lines around them if that is asked for.
-/

set_option autoImplicit false

namespace Assay.Utility

open Shell (Sh octets readable)

namespace Grep

structure Search where
  patterns : List Regex
  wholeWords : Bool
  wholeLines : Bool

def Search.fits (s : Search) (input : Array Char) (start stop : Nat) : Bool :=
  if s.wholeLines then start == 0 && stop == input.size
  else !s.wholeWords ||
    (!(start != 0 && Regex.isWordAt input (start - 1)) && !Regex.isWordAt input stop)

def matchFrom (s : Search) (input : Array Char) (r : Regex) : Nat → Nat → Option Regex.Found
  | 0, _ => none
  | fuel + 1, start =>
    if input.size < start || (s.wholeLines && start != 0) then none
    else
      match r.fittingAt input (s.fits input) start with
      | some f => some f
      | none => matchFrom s input r fuel (start + 1)

def find (s : Search) (input : Array Char) (start : Nat) : Option Regex.Found :=
  (s.patterns.filterMap fun r => matchFrom s input r (input.size + 2) start).foldl
    (fun best f =>
      match best with
      | none => some f
      | some b =>
        if f.start < b.start || (f.start == b.start && b.stop < f.stop) then some f else best)
    none

def parts (s : Search) (input : Array Char) : Nat → Nat → List (Nat × Nat)
  | 0, _ => []
  | fuel + 1, start =>
    if input.size ≤ start then []
    else
      match find s input start with
      | none => []
      | some f =>
        if f.stop = f.start then parts s input fuel (f.start + 1)
        else (f.start, f.stop) :: parts s input fuel f.stop

/-- Which names of files are shown instead of lines. -/
inductive Names where
  | none
  | matching
  | others
deriving DecidableEq, Repr

inductive Binary where
  | announced
  | skipped
  | text
deriving DecidableEq, Repr

structure Look where
  numbers : Bool
  offsets : Bool
  onlyParts : Bool
  inverted : Bool
  coloured : Bool
  aligned : Bool
  before : Nat
  after : Nat
  gap : Option String
  nameEnd : Option Char
  stop : Char
  checks : Bool

def Look.paint (l : Look) (colour text : String) : String :=
  if l.coloured && text != "" then
    "\x1b[" ++ colour ++ "m\x1b[K" ++ text ++ "\x1b[m\x1b[K" else text

def nameColour : String := "35"

def numberColour : String := "32"

def markColour : String := "36"

def matchColour : String := "01;31"

/-- A line of a file, with its number, and how many octets stand before it. -/
structure Line where
  number : Nat
  offset : Nat
  chars : List Char

def Look.head (l : Look) (name : Option String) (width number offset : Nat) (mark : String)
    (isEmpty : Bool) : String :=
  let numeral := fun (n : Nat) => l.paint numberColour (padLeft width (toString n))
  let painted := l.paint markColour mark
  let named := match name with
    | some n => l.paint nameColour n ++ (match l.nameEnd with
      | some c => String.singleton c
      | none => painted)
    | none => ""
  let shown := named ++ (if l.numbers then numeral number ++ painted else "") ++
    (if l.offsets then numeral offset ++ painted else "")
  if l.aligned && shown != "" && !isEmpty then shown ++ "\t" else shown

def coloured (l : Look) (matched : List (Nat × Nat)) (input : Array Char) : String :=
  let (text, last) := matched.foldl (fun (out : String × Nat) p =>
    (out.1 ++ String.ofList (input.extract out.2 p.1).toList ++
      l.paint matchColour (String.ofList (input.extract p.1 p.2).toList), p.2)) ("", 0)
  text ++ String.ofList (input.extract last input.size).toList

def sizeOf (cs : List Char) : Nat := cs.foldl (fun n c => n + (narrowChar c).length) 0

structure State where
  output : List String
  last : Nat
  pending : Nat
  left : Option Nat
  used : Bool
  spoilt : Bool
  count : Nat
  passed : List Line
  /-- How many octets stand before the end of the last line that counted. -/
  reached : Nat

def shown (l : Look) (s : Search) (name : Option String) (width : Nat) (selected : Bool)
    (line : Line) : Option (List String) :=
  let mark := if selected then ":" else "-"
  let isHit := selected != l.inverted
  let input := line.chars.toArray
  if l.onlyParts then
    if !isHit then some []
    else
      let found := parts s input (line.chars.length + 1) 0
      let texts := found.map fun (a, b) =>
        let text := (input.extract a b).toList
        if l.checks && text.any isStray then none
        else some (l.head name width line.number
          (line.offset + sizeOf (line.chars.take a)) (if l.inverted then "-" else ":") false ++
            l.paint matchColour (String.ofList text) ++ String.singleton l.stop)
      if texts.all Option.isSome then some (texts.filterMap id) else none
  else if l.checks && line.chars.any isStray then none
  else
    let body := if l.coloured && isHit
      then coloured l (parts s input (line.chars.length + 1) 0) input
      else String.ofList line.chars
    some [l.head name width line.number line.offset mark line.chars.isEmpty ++ body ++
      String.singleton l.stop]

def State.show (st : State) (l : Look) (s : Search) (name : Option String) (width : Nat)
    (selected : Bool) (line : Line) : State :=
  match shown l s name width selected line with
  | some texts => { st with output := texts.reverse ++ st.output, last := line.number }
  | none => { st with spoilt := true }

def State.select (st : State) (l : Look) (s : Search) (name : Option String) (width : Nat)
    (line : Line) : State :=
  let before := ((st.passed.take l.before).takeWhile fun p => decide (st.last < p.number)).reverse
  let first := (before.head?.getD line).number
  let gap := match l.gap with
    | some text => if st.used && first != st.last + 1 || (st.used && st.last = 0)
        then [l.paint markColour text ++ "\n"] else []
    | none => []
  let st := { st with output := gap ++ st.output }
  let st := before.foldl (fun st p => st.show l s name width false p) st
  let st := st.show l s name width true line
  { st with used := true, pending := l.after, left := st.left.map (· - 1),
            count := st.count + 1, reached := line.offset + sizeOf line.chars + 1 }

/-- Goes through the lines of a file. The flag tells whether they are only counted. -/
def go (l : Look) (s : Search) (name : Option String) (width : Nat) (quiet : Bool) :
    State → List Line → State
  | st, [] => st
  | st, line :: rest =>
    if st.left = some 0 then
      if st.pending = 0 || quiet then st
      else go l s name width quiet
        { st.show l s name width false line with pending := st.pending - 1 } rest
    else
      let isHit := (find s line.chars.toArray 0).isSome != l.inverted
      let st :=
        if isHit then
          if quiet then
            { st with count := st.count + 1, left := st.left.map (· - 1),
                      reached := line.offset + sizeOf line.chars + 1 }
          else st.select l s name width line
        else if st.pending = 0 || quiet then st
        else { st.show l s name width false line with pending := st.pending - 1 }
      go l s name width quiet { st with passed := line :: st.passed.take l.before } rest

def linesOf (stop : Char) (cs : List Char) : List Line :=
  ((partsBy stop cs).foldl (fun (out : List Line × Nat × Nat) chars =>
    (⟨out.2.1, out.2.2, chars⟩ :: out.1, out.2.1 + 1, out.2.2 + sizeOf chars + 1))
    (([], 1, 0) : List Line × Nat × Nat)).1.reverse

/-- Patterns that choose among names of files; a pattern may hold for any end of a path. -/
structure Filter where
  included : List (List Shell.PatternItem)
  excluded : List (List Shell.PatternItem)
  folders : List (List Shell.PatternItem)

def endsOf : List String → List (List String)
  | [] => []
  | p :: ps => (p :: ps) :: endsOf ps

def holdsFor (patterns : List (List Shell.PatternItem)) (path : String) : Bool :=
  let ends := (endsOf (path.splitOn "/")).map fun ps => (String.intercalate "/" ps).toList
  patterns.any fun p => ends.any fun e => Shell.PatternItem.matchesAll p e

def Filter.admits (f : Filter) (path : String) : Bool :=
  !holdsFor f.excluded path && (f.included.isEmpty || holdsFor f.included path)

def patternOf (text : String) : List Shell.PatternItem :=
  Shell.PatternItem.read (text.toList.map fun c => ⟨false, c⟩)

structure Target where
  path : String
  named : Bool

def filesBelow (t : FileTree) (folder : Place) (f : Filter) (follows : Bool) :
    Nat → String → List String
  | 0, _ => []
  | fuel + 1, path =>
    match t.list folder (readable path) with
    | .error _ => []
    | .ok names =>
      names.flatMap fun n =>
        let child := (if path.endsWith "/" then path else path ++ "/") ++ octets n
        match t.nodeAt follows folder (readable child) with
        | .error _ => []
        | .ok node =>
          match node.entry with
          | .folder => if holdsFor f.folders child then []
              else filesBelow t folder f follows fuel child
          | e => if e.isRegular && f.admits child then [child] else []

structure Request where
  search : Search
  look : Look
  counting : Bool
  silent : Bool
  stopsAtHit : Bool
  hushed : Bool
  names : Names
  binary : Binary
  limit : Option Nat
  label : String
  wide : Bool
  warnings : List String

def warnings : Nat → Bool → List Char → List String
  | 0, _, _ => []
  | _, _, [] => []
  | fuel + 1, first, '\\' :: c :: cs =>
    warnings fuel (first && "<>bB\x60'".contains c) cs
  | fuel + 1, first, c :: cs =>
    let warn := fun (sign : String) (rest : List Char) =>
      (if first then ["warning: " ++ sign ++ " at start of expression"] else []) ++
        warnings fuel first rest
    match c with
    | '[' =>
      let body := match cs with
        | '^' :: ']' :: rest => rest
        | ']' :: rest => rest
        | rest => rest
      warnings fuel false ((body.dropWhile (· != ']')).drop 1)
    | '(' | '|' => warnings fuel true cs
    | '^' | '$' => warnings fuel first cs
    | '*' => warn "*" cs
    | '+' => warn "+" cs
    | '?' => warn "?" cs
    | '\x7b' =>
      let (low, rest) := cs.span Char.isDigit
      let (comma, rest) := match rest with
        | ',' :: more => (true, more.dropWhile Char.isDigit)
        | _ => (false, rest)
      match rest with
      | '\x7d' :: rest =>
        if low.isEmpty && !comma then warnings fuel false cs else warn "\x7b...\x7d" rest
      | _ => warnings fuel false cs
    | _ => warnings fuel false cs

def isConfused : Nat → List Char → Bool
  | 0, _ => false
  | _, [] => false
  | fuel + 1, '\\' :: _ :: cs => isConfused fuel cs
  | fuel + 1, '[' :: ':' :: cs =>
    let (body, rest) := cs.span (· != ']')
    (body.getLast? == some ':' && body.any (· != ':') && !body.contains '-' &&
      !body.contains '[') || isConfused fuel (rest.drop 1)
  | fuel + 1, '[' :: cs =>
    let body := match cs with
      | '^' :: ']' :: rest => rest
      | ']' :: rest => rest
      | rest => rest
    isConfused fuel (skipSet body)
  | fuel + 1, _ :: cs => isConfused fuel cs
where
  skipSet : List Char → List Char
    | [] => []
    | ']' :: cs => cs
    | '[' :: d :: cs => if d = ':' ∨ d = '.' ∨ d = '=' then skipClass d cs else skipSet (d :: cs)
    | _ :: cs => skipSet cs
  skipClass (d : Char) : List Char → List Char
    | a :: b :: cs => if a = d && b = ']' then skipSet cs else skipClass d (b :: cs)
    | _ => []

end Grep

open Grep in
def grepOptions : Options :=
  ⟨"0123456789A:B:C:D:EFGHILPTUVX:abcd:e:f:hiLlm:noqRrsuvwxyZzαβ:γδ:εζ::η:θ:κ:λ:μ:ν",
    [("basic-regexp", 'G'), ("extended-regexp", 'E'), ("fixed-regexp", 'F'),
    ("fixed-strings", 'F'), ("perl-regexp", 'P'), ("after-context", 'A'),
    ("before-context", 'B'), ("binary-files", 'β'), ("binary", 'U'),
    ("line-buffered", 'γ'), ("byte-offset", 'b'), ("context", 'C'),
    ("color", 'ζ'), ("colour", 'ζ'), ("count", 'c'), ("devices", 'D'), ("directories", 'd'),
    ("exclude", 'η'), ("exclude-from", 'θ'), ("exclude-dir", 'κ'), ("file", 'f'),
    ("files-with-matches", 'l'), ("files-without-match", 'L'), ("group-separator", 'δ'),
    ("include", 'λ'), ("ignore-case", 'i'), ("no-ignore-case", 'ν'), ("initial-tab", 'T'),
    ("label", 'μ'), ("line-number", 'n'), ("line-regexp", 'x'), ("max-count", 'm'),
    ("no-filename", 'h'), ("no-group-separator", 'ε'), ("no-messages", 's'), ("null", 'Z'),
    ("null-data", 'z'), ("only-matching", 'o'), ("quiet", 'q'), ("silent", 'q'),
    ("recursive", 'r'), ("dereference-recursive", 'R'), ("regexp", 'e'), ("invert-match", 'v'),
    ("text", 'a'), ("unix-byte-offsets", 'u'), ("version", 'V'), ("with-filename", 'H'),
    ("word-regexp", 'w')], false⟩

def grepUsage (status : Nat) : Sh Nat := do
  Shell.note ("Usage: grep [OPTION]... PATTERNS [FILE]...\n" ++
    "Try 'grep --help' for more information.\n")
  return status

namespace Grep

def fieldWidth (l : Look) (size : Option Nat) : Nat :=
  if !l.aligned then 0
  else
    match size with
    | none => 19
    | some n => (toString (if l.numbers then n + 1 else n)).length

def fileSize? (operand : String) : Sh (Option Nat) := do
  let s ← get
  if operand = "-" then
    match s.sink? 0 with
    | some (.file n) => return ((s.opened? n).bind s.contentOf?).map List.length
    | _ => return none
  match s.files.stat s.folder (readable operand) with
  | .ok e => return if e.isRegular then (e.content?).map List.length else none
  | .error _ => return none

structure Progress where
  hit : Bool
  missing : Bool
  used : Bool
  broken : Bool

def searchText (q : Request) (target : Target) (cs : List Char) (p : Progress) :
    Sh Progress := do
  let name := if target.path = "-" then q.label else target.path
  let isBinary := cs.contains '\x00' && q.binary != .text && q.look.stop == '\n'
  if isBinary && q.binary = .skipped then return p
  let listing := q.silent || q.names != .none
  let silent := q.counting || listing
  let chars := if isBinary then cs.map fun c => if c = '\x00' then '\n' else c else cs
  let chars := if q.wide then widen chars else chars
  let quiet := silent || isBinary
  let firstOnly := listing || (isBinary && !q.counting)
  let limit := if firstOnly then some (min 1 (q.limit.getD 1)) else q.limit
  let width := fieldWidth q.look (← fileSize? target.path)
  let st := go q.look q.search (if target.named then some name else none) width quiet
    ⟨[], 0, 0, limit, p.used, false, 0, [], 0⟩ (linesOf q.look.stop chars)
  let text := String.join st.output.reverse
  let text := if q.wide then String.ofList (narrow text.toList) else text
  let found := st.count != 0
  let shownName := q.look.paint nameColour name
  let summary :=
    if q.counting && !listing then
      (if target.named then shownName ++ (match q.look.nameEnd with
        | some c => String.singleton c
        | none => q.look.paint markColour ":") else "") ++ toString st.count ++ "\n"
    else if !q.silent && q.names != .none && found == decide (q.names = .matching) then
      shownName ++ String.singleton (q.look.nameEnd.getD '\n')
    else ""
  let status ← emit "grep" (text ++ summary)
  if status != 0 then return { p with broken := true }
  if !silent && q.binary = .announced && (st.spoilt || (isBinary && found)) then
    blame "grep" (name ++ ": binary file matches")
  if target.path = "-" && !firstOnly && q.limit = some st.count then
    leaveBehind 98304 st.reached cs
  return { p with hit := p.hit || found, used := st.used }

def searchAll (q : Request) : List Target → Progress → Sh Progress
  | [], p => return p
  | target :: rest, p => do
    let shows := !(q.counting || q.silent || q.names != .none)
    if shows && (q.limit.all fun n => decide (1 < n)) && (← isOutput target.path) then
      let name := if target.path = "-" then q.label else target.path
      blame "grep" (name ++ ": input file is also the output")
      return ← searchAll q rest { p with missing := true }
    match ← content target.path with
    | .error u =>
      if !q.hushed then blameUnread "grep" target.path u
      let p := { p with missing := true }
      let p ← if u.isFound then searchText q target [] p else pure p
      searchAll q rest p
    | .ok cs =>
      let p ← searchText q target cs p
      if (p.hit && q.stopsAtHit) || p.broken then return p
      searchAll q rest p

/-- Takes away the start of a path that stands for the current folder. -/
def withoutDot (path : String) : String :=
  if path.startsWith "./" then (path.drop 2).toString else path

def targets (g : Given) (f : Filter) (operands : List String) : Sh (List Target) := do
  let s ← get
  let mode := g.options.foldl (fun mode (c, text) =>
    if c = 'r' || c = 'R' then "recurse" else if c = 'd' then text else mode) "read"
  let recursive := "recurse".startsWith mode && mode != "" && mode != "read"
  let follows := g.last? "rR" == some 'R'
  let implied := operands.isEmpty && recursive
  let operands := if !operands.isEmpty then operands else if recursive then ["."] else ["-"]
  let named := match g.last? "hH" with
    | some c => c == 'H'
    | none => decide (1 < operands.length)
  return operands.flatMap fun operand =>
    let isFolder := operand != "-" && match s.files.stat s.folder (readable operand) with
      | .ok .folder => true
      | _ => false
    if isFolder && recursive then
      if holdsFor f.folders operand then []
      else (filesBelow s.files s.folder f follows 64 operand).map fun p =>
        ⟨if implied then withoutDot p else p, !g.has 'h' || g.last? "hH" == some 'H'⟩
    else if isFolder && "skip".startsWith mode && mode != "" then []
    else if operand != "-" && !f.admits operand then []
    else [⟨operand, named⟩]

/-- Lines around a match that are shown, as options ask for; numbers may stand alone. -/
def context (g : Given) : Except String (Option Nat × Option Nat) := do
  let read := fun (text : String) =>
    match Numeral.read "" true text with
    | .ok (.ofNat n) => Except.ok n
    | .error .beyond => .ok (Numeral.highest true).toNat
    | _ => .error (text ++ ": invalid context length argument")
  let (both, before, after, _) ← g.options.foldlM
    (fun (found : Option Nat × Option Nat × Option Nat × Bool) (c, text) => do
      let (both, before, after, isOld) := found
      if c.isDigit then
        let d := c.toNat - '0'.toNat
        return (some (if isOld then (both.getD 0) * 10 + d else d), before, after, true)
      else if c = 'A' then return (both, before, some (← read text), false)
      else if c = 'B' then return (both, some (← read text), after, false)
      else if c = 'C' then return (some (← read text), before, after, false)
      else return (both, before, after, false)) (none, none, none, false)
  return (before.orElse fun _ => both, after.orElse fun _ => both)

def limit (g : Given) : Except String (Option Nat) :=
  match g.text? 'm' with
  | none => .ok none
  | some text =>
    match Numeral.read "" true text with
    | .ok (.ofNat n) => .ok (some n)
    | .ok _ | .error .beyond => .ok none
    | .error .malformed => .error "invalid max count"

def binaryMode (g : Given) : Except String Binary :=
  g.options.foldlM (fun mode (c, text) =>
    match c with
    | 'a' => .ok .text
    | 'I' => .ok .skipped
    | 'β' =>
      match text with
      | "binary" => .ok .announced
      | "text" => .ok .text
      | "without-match" => .ok .skipped
      | _ => .error "unknown binary-files type"
    | _ => .ok mode) Binary.announced

/-- Words that options accept, of which one that is wrong calls for the usage. -/
def misuse? (g : Given) : Option String :=
  g.options.findSome? fun (c, text) =>
    let check := fun (option : String) (rows : List (List String)) =>
      match chooseRow option rows text with
      | .error e => some e
      | .ok _ => none
    match c with
    | 'd' => check "--directories" [["read"], ["recurse"], ["skip"]]
    | 'D' => if ["read", "skip"].contains text then none else some "unknown devices method"
    | _ => none

def matchers : List (String × Char) := [
  ("grep", 'G'), ("egrep", 'E'), ("fgrep", 'F'), ("awk", 'E'), ("gawk", 'E'), ("posixawk", 'E'),
  ("perl", 'P')]

def style (g : Given) (implied : Option String) : Except String Char := do
  let chosen := g.options.filterMap fun (c, text) =>
    match c with
    | 'E' => some "egrep"
    | 'F' => some "fgrep"
    | 'G' => some "grep"
    | 'P' => some "perl"
    | 'X' => some text
    | _ => none
  match implied.toList ++ chosen with
  | [] => return 'G'
  | first :: rest =>
    for name in first :: rest do
      if (matchers.find? fun m => m.1 == name).isNone then throw ("invalid matcher " ++ name)
      if name != first then throw "conflicting matchers specified"
    return ((matchers.find? fun m => m.1 == first).map Prod.snd).getD 'G'

def patterns (style : Char) (ignoreCase : Bool) (lines : List String) :
    Except String (List Regex) := do
  let extended := style == 'E' || style == 'P'
  let flavour : Regex.Flavour :=
    { extended := extended, ignoreCase := ignoreCase, looseBounds := extended,
      looseClose := extended, moreEscapes := style == 'P' }
  if style = 'F' then return lines.map (Regex.literal flavour)
  let found ← lines.mapM fun t => (Regex.parse flavour t).map Prod.fst
  if style != 'P' && lines.any fun t => isConfused (t.length + 1) t.toList then
    throw "character class syntax is [[:space:]], not [:space:]"
  return found

def sources (g : Given) : Sh (Except Nat (List String × List String)) := do
  let given := g.options.filter fun o => o.1 == 'e' || o.1 == 'f'
  if given.isEmpty then
    match g.operands with
    | [] => return .error (← grepUsage 2)
    | text :: rest => return .ok (text.splitOn "\n", rest)
  else readAll [] given
where
  readAll (sofar : List String) :
      List (Char × String) → Sh (Except Nat (List String × List String))
    | [] => return .ok (sofar, g.operands)
    | (c, text) :: rest => do
      if c = 'e' then readAll (sofar ++ text.splitOn "\n") rest
      else
        match ← content text with
        | .ok cs => readAll (sofar ++ (partsBy '\n' cs).map String.ofList) rest
        | .error u =>
          blameUnread "grep" text u
          return .error 2

def isColoured (g : Given) : Bool :=
  match g.text? 'ζ' with
  | some text => ["always", "yes", "force"].contains text
  | none => false

def filter (g : Given) : Filter :=
  let all := fun (c : Char) =>
    (g.options.filter fun o => o.1 == c).map fun o => patternOf o.2
  ⟨all 'λ', all 'η', all 'κ'⟩

def look (g : Given) (around : Option Nat × Option Nat) (checks : Bool) : Look :=
  { numbers := g.has 'n'
    offsets := g.has 'b'
    onlyParts := g.has 'o'
    inverted := g.has 'v'
    coloured := isColoured g
    aligned := g.has 'T'
    before := around.1.getD 0
    after := around.2.getD 0
    gap :=
      if around.1.isNone && around.2.isNone then none
      else
        match g.options.reverse.find? fun o => o.1 == 'δ' || o.1 == 'ε' with
        | some (c, text) => if c = 'δ' then some text else none
        | none => some "--"
    nameEnd := if g.has 'Z' then some '\x00' else none
    stop := if g.has 'z' then '\x00' else '\n'
    checks := checks }

def request (g : Given) (implied : Option String) (lines : List String) (wide nulled : Bool) :
    Except String Request := do
  let style ← style g implied
  let around ← context g
  let limit ← limit g
  let binary ← binaryMode g
  let ignoreCase := match g.last? "iyν" with
    | some 'ν' | none => false
    | _ => true
  let widened := lines.map fun t => if wide then String.ofList (widen t.toList) else t
  let patterns ← patterns style ignoreCase widened
  let names := match g.last? "lL" with
    | some 'l' => Names.matching
    | some _ => .others
    | none => .none
  return {
    search := ⟨patterns, g.has 'w', g.has 'x'⟩
    look := look g around (wide && binary != .text)
    counting := g.has 'c'
    silent := g.has 'q' || nulled
    stopsAtHit := g.has 'q'
    hushed := g.has 's'
    names := names
    binary := binary
    limit := limit
    label := (g.text? 'μ').getD "(standard input)"
    wide := wide
    warnings := if style = 'E'
      then lines.flatMap fun line => warnings (line.length + 1) true line.toList else [] }

end Grep

def grepWith (implied : Option String) : Tool := fun _ arguments => do
  match grepOptions.parseAll arguments with
  | .error text =>
    blame "grep" text
    grepUsage 2
  | .ok (options, operands) =>
    let g : Given := ⟨options, operands⟩
    if g.has 'V' then return ← emit "grep" "grep (GNU grep) 3.11\n"
    if g.has 'u' then blame "grep" "warning: --unix-byte-offsets (-u) is obsolete"
    if let some text := Grep.misuse? g then
      blame "grep" text
      return ← grepUsage 1
    -- Options are settled before any pattern is read.
    let settled := do
      let _ ← Grep.style g implied
      let _ ← Grep.context g
      let _ ← Grep.limit g
      let _ ← Grep.binaryMode g
    settle "grep" 2 settled fun _ => do
      match ← Grep.sources g with
      | .error status => return status
      | .ok (lines, operands) =>
        let nulled := (← get).sink? 1 == some (.device .null)
        settle "grep" 2 (Grep.request g implied lines (← isWide) nulled) fun q => do
          if q.limit = some 0 && q.names != .others then return 1
          for text in q.warnings do blame "grep" text
          let targets ← Grep.targets g (Grep.filter g) operands
          let p ← Grep.searchAll q targets ⟨false, false, false, false⟩
          if p.broken then return 2
          return if p.hit && (q.stopsAtHit || !p.missing) then 0 else if p.missing then 2 else 1

end Assay.Utility
