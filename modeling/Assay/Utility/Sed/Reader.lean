import Assay.Utility.Quoted
import Assay.Utility.RegexReader
import Assay.Utility.Sed.Script

/-!
# Reading scripts

A script comes in parts, which are arguments or files. A block or an added text
may begin in one part and end in a later one.
-/

set_option autoImplicit false

namespace Assay.Utility.Sed

/-- Where a part of a script comes from. -/
inductive Origin where
  | argument (number : Nat)
  | file (name : String)

structure Pending where
  command : Command
  make : List Char → Action
  text : List Char

structure Scan where
  rest : List Char
  place : Nat
  line : Nat
  origin : Origin
  isFirst : Bool
  extended : Bool
  wide : Bool
  pending : Option Pending
  blocks : List (Origin × Nat)
  commands : List Command
  quiet : Bool
  files : List String

abbrev Reading := ExceptT String (StateM Scan)

def shownPlace (origin : Origin) (line place : Nat) : String :=
  match origin with
  | .argument n => "-e expression #" ++ toString n ++ ", char " ++ toString place
  | .file name => "file " ++ name ++ " line " ++ toString line

def fail {α : Type} (text : String) : Reading α := do
  let s ← get
  throw (shownPlace s.origin s.line s.place ++ ": " ++ text)

def goTo (rest : List Char) : Reading Unit :=
  modify fun s =>
    let read := s.rest.take (s.rest.length - rest.length)
    { s with rest := rest, place := s.place + read.length, line := s.line + read.count '\n' }

def peek? : Reading (Option Char) := do return (← get).rest.head?

def next? : Reading (Option Char) := do
  match (← get).rest with
  | [] => return none
  | c :: cs =>
    goTo cs
    return some c

def skip : Reading Unit := do
  let _ ← next?

def isBlank (c : Char) : Bool := c == ' ' || c == '\t'

def isSpace (c : Char) : Bool := c == ' ' || decide ('\t' ≤ c ∧ c ≤ '\x0d')

def takeWhile (p : Char → Bool) : Reading (List Char) := do
  let (taken, rest) := (← get).rest.span p
  goTo rest
  return taken

def skipBlanks : Reading Unit := do
  let _ ← takeWhile isBlank

def number : Reading Nat := do
  return (← takeWhile Char.isDigit).foldl (fun n c => n * 10 + (c.toNat - '0'.toNat)) 0

/-- Where a delimited text is with respect to the sets of an expression. -/
inductive Within where
  | plain
  | opened (caret : Bool)
  | set
  | entered
  | named (delimiter : Char) (isLast : Bool)

/-- Text up to a delimiter on the same line, what follows, and whether there is a delimiter.
A delimiter behind a backslash is a plain one, and so is one in a set of an expression. -/
def delimited (d : Char) (isPattern : Bool) : Within → List Char → List Char × List Char × Bool
  | _, [] => ([], [], false)
  | w, c :: cs =>
    if c = '\n' then ([], c :: cs, false)
    else
      let keep := fun (w : Within) =>
        let (text, rest) := delimited d isPattern w cs
        (c :: text, rest)
      match w with
      | .plain =>
        if c = d then ([], cs, true)
        else if c = '\\' then
          match cs with
          | [] => ([], [], false)
          | e :: cs =>
            let (text, rest) := delimited d isPattern .plain cs
            let taken :=
              if e = '\n' ∨ (e = 'n' ∧ isPattern) then ['\n']
              else if e = d && (isPattern || e != '&') then [e]
              else ['\\', e]
            (taken ++ text, rest)
        else keep (if isPattern && c == '[' then .opened true else .plain)
      | .opened caret => keep (if caret && c == '^' then .opened false else inSet c cs)
      | .set => keep (if c = ']' then .plain else inSet c cs)
      | .entered => keep (.named c false)
      | .named e isLast => keep (if isLast && c == ']' then .set else .named e (c == e))
where
  inSet (c : Char) (cs : List Char) : Within :=
    match c, cs with
    | '[', e :: _ => if e = ':' ∨ e = '.' ∨ e = '=' then .entered else .set
    | _, _ => .set

def part? (d : Char) (isPattern : Bool) : Reading (Option (List Char)) := do
  if (← get).wide && decide (0x80 ≤ d.toNat) then
    fail "delimiter character is not a single-byte character"
  let (text, rest, isEnded) := delimited d isPattern .plain (← get).rest
  goTo rest
  return if isEnded then some text else none

def resolve (r : Role) (cs : List Char) : Reading (List Char) := do
  match r.resolve cs with
  | .ok cs => return if (← get).wide then widen cs else cs
  | .error text => fail text

def expression (cs : List Char) (ignoreCase innerLines : Bool) :
    Reading (Option Regex × Option Nat) := do
  if cs.isEmpty then
    if ignoreCase || innerLines then fail "cannot specify modifiers on empty regexp"
    return (none, none)
  let extended := (← get).extended
  let flavour : Regex.Flavour :=
    { extended := extended, ignoreCase := ignoreCase, strictBounds := !extended,
      strictRepeats := extended, innerLines := innerLines }
  match Regex.parse flavour (String.ofList (← resolve .expression cs)) with
  | .ok (r, groups) => return (some r, some groups)
  | .error text => fail text

def addressMarks : Nat → Bool × Bool → Reading (Bool × Bool)
  | 0, marks => return marks
  | fuel + 1, (ignoreCase, innerLines) => do
    skipBlanks
    match ← peek? with
    | some 'I' =>
      skip
      addressMarks fuel (true, innerLines)
    | some 'M' =>
      skip
      addressMarks fuel (ignoreCase, true)
    | _ => return (ignoreCase, innerLines)

def patternAddress (d : Char) : Reading Address := do
  match ← part? d true with
  | none => fail "unterminated address regex"
  | some cs =>
    let (ignoreCase, innerLines) ← addressMarks ((← get).rest.length + 1) (false, false)
    return .pattern (← expression cs ignoreCase innerLines).1

def address? : Reading (Option Address) := do
  match ← peek? with
  | some '$' =>
    skip
    return some .last
  | some '/' =>
    skip
    return some (← patternAddress '/')
  | some '\\' =>
    skip
    match ← next? with
    | some d => return some (← patternAddress d)
    | none => fail "unterminated address regex"
  | some '+' => return some (.plus (← numberBehind))
  | some '~' => return some (.multiple (← numberBehind))
  | some c =>
    if !c.isDigit then return none
    let n ← number
    skipBlanks
    if (← peek?) != some '~' then return some (.line n)
    let every ← numberBehind
    return some (if every = 0 then .line n else .step n every)
  | none => return none
where
  numberBehind : Reading Nat := do
    skip
    skipBlanks
    number

def Address.isRelative : Address → Bool
  | .plus _ | .multiple _ => true
  | _ => false

def addresses : Reading (Option Address × Option Address) := do
  match ← address? with
  | none => return (none, none)
  | some first =>
    if first.isRelative then fail "invalid usage of +N or ~N as first address"
    skipBlanks
    if (← peek?) != some ',' then return (some first, none)
    skip
    skipBlanks
    match ← address? with
    | none =>
      skip
      fail "unexpected \x60,'"
    | some second =>
      skipBlanks
      return (some first, some second)

def isMisplaced (first second : Option Address) (c : Option Char) : Bool :=
  match first, second with
  | some (.line 0), none => c != some 'r'
  | some (.line 0), some (.pattern _) => false
  | some (.line 0), some _ => true
  | _, _ => false

def commandEnd : Reading Unit := do
  skipBlanks
  match ← peek? with
  | none | some '\x7d' | some '#' => return
  | some c =>
    skip
    if c != ';' && c != '\n' then fail "extra characters after command"

def fileName : Reading String := do
  skipBlanks
  let cs ← takeWhile (· != '\n')
  skip
  if cs.isEmpty then fail "missing filename in r/R/w/W commands"
  return String.ofList cs

def port : Reading Port := do
  match ← fileName with
  | "/dev/stdout" => return .output
  | "/dev/stderr" => return .errors
  | name =>
    modify fun s => if s.files.contains name then s else { s with files := name :: s.files }
    return .file name

def label : Reading String := do
  skipBlanks
  return String.ofList (← takeWhile fun c => !isSpace c && c != ';' && c != '\x7d')

structure Marks where
  ignoreCase : Bool := false
  innerLines : Bool := false
  everywhere : Bool := false
  print : Option Printing := none
  runs : Bool := false
  nth : Option Nat := none
  port : Option Port := none

def marks : Nat → Marks → Reading Marks
  | 0, m => return m
  | fuel + 1, m => do
    match ← peek? with
    | none | some '\x7d' | some '#' => return m
    | some c =>
      if c.isDigit then
        if m.nth.isSome then
          skip
          fail "multiple number options to \x60s' command"
        let n ← number
        if n = 0 then fail "number option to \x60s' command may not be zero"
        return ← marks fuel { m with nth := some n }
      skip
      match c with
      | '\n' | ';' => return m
      | 'i' | 'I' => marks fuel { m with ignoreCase := true }
      | 'm' | 'M' => marks fuel { m with innerLines := true }
      | 'e' => marks fuel { m with runs := true }
      | 'p' =>
        if m.print.isSome then fail "multiple \x60p' options to \x60s' command"
        marks fuel { m with print := some (if m.runs then .late else .early) }
      | 'g' =>
        if m.everywhere then fail "multiple \x60g' options to \x60s' command"
        marks fuel { m with everywhere := true }
      | 'w' => return { m with port := some (← port) }
      | '\x0d' =>
        if (← next?) = some '\n' then return m
        fail "unknown option to \x60s'"
      | _ =>
        if isBlank c then marks fuel m else fail "unknown option to \x60s'"

def missingGroup (wanted : Nat) : String :=
  "invalid reference \\" ++ toString wanted ++ " on \x60s' command's RHS"

def substitution : Reading Action := do
  let unterminated := "unterminated \x60s' command"
  match ← next? with
  | none => fail unterminated
  | some d =>
    match ← part? d true with
    | none => fail unterminated
    | some pattern =>
      match ← part? d false with
      | none => fail unterminated
      | some text =>
        let pieces := piecesOf (← resolve .replacement text)
        let m ← marks ((← get).rest.length + 1) {}
        let (r, groups) ← expression pattern m.ignoreCase m.innerLines
        let wanted := highestGroup pieces
        if groups.any (· < wanted) then
          fail (missingGroup wanted)
        return .substitute
          ⟨r, pieces, m.nth.getD 1, m.everywhere, m.print, m.runs, m.port⟩

def translation : Reading Action := do
  let unterminated := "unterminated \x60y' command"
  match ← next? with
  | none => fail unterminated
  | some d =>
    match ← part? d false with
    | none => fail unterminated
    | some source =>
      let source ← resolve .characters source
      match ← part? d false with
      | none => fail unterminated
      | some target =>
        let source := listed source
        let target := listed (← resolve .characters target)
        if source.length ≠ target.length then
          fail "strings for \x60y' command are different lengths"
        commandEnd
        return .translate (source.zip target)

/-- A text that is added up to the end of its line, as it is written and last first; what
follows; and whether it goes on in the next part. -/
def addedText : List Char → List Char → List Char × List Char × Bool
  | [], sofar => ('\n' :: sofar, [], false)
  | ['\\'], sofar => ('\n' :: sofar, [], true)
  | '\\' :: c :: cs, sofar => addedText cs (c :: '\\' :: sofar)
  | c :: cs, sofar => if c = '\n' then (c :: sofar, cs, false) else addedText cs (c :: sofar)

def push (c : Command) : Reading Unit :=
  modify fun s => { s with commands := c :: s.commands }

def goOn (p : Pending) : Reading Unit := do
  let (text, rest, goesOn) := addedText (← get).rest p.text
  goTo rest
  if goesOn then modify fun s => { s with pending := some { p with text := text } }
  else
    match Role.added.resolve text.reverse with
    | .ok text => push { p.command with action := p.make text }
    | .error text => fail text

def adding (c : Command) (make : List Char → Action) : Reading Unit := do
  let p : Pending := ⟨c, make, []⟩
  skipBlanks
  match ← peek? with
  | none => fail "expected \\ after \x60a', \x60c' or \x60i'"
  | some '\\' =>
    skip
    match ← peek? with
    | none => modify fun s => { s with pending := some p }
    | some lead =>
      -- The first character is never escaped.
      skip
      goOn { p with text := if lead = '\n' then [] else [lead] }
  | some _ => goOn p

def version : List Nat := [4, 9]

def isNewer (wanted : String) : Bool :=
  let parts := (wanted.splitOn ".").map fun p => if p.all Char.isDigit then p.toNat? else none
  if parts.all Option.isSome then decide (version < parts.filterMap id) else wanted != ""

def command (first second : Option Address) (negated : Bool) (c : Char) : Reading Unit := do
  let bare : Command := ⟨first, second, negated, .closeBlock⟩
  let keep := fun (a : Action) => push { bare with action := a }
  match c with
  | '#' =>
    if first.isSome then fail "comments don't accept any addresses"
    let s ← get
    if s.isFirst && s.place == 1 && s.rest.head? == some 'n' then
      set { s with quiet := true }
    let _ ← takeWhile (· != '\n')
  | 'v' =>
    if isNewer (← label) then fail "expected newer version of sed"
  | '\x7b' =>
    modify fun s => { s with blocks := (s.origin, s.line) :: s.blocks }
    keep .openBlock
  | '\x7d' =>
    match (← get).blocks with
    | [] => fail "unexpected \x60\x7d'"
    | _ :: rest =>
      if first.isSome then fail "\x60\x7d' doesn't want any addresses"
      commandEnd
      modify fun s => { s with blocks := rest }
      keep .closeBlock
  | 'e' =>
    skipBlanks
    match ← peek? with
    | none => keep (.execute [])
    | some '\n' =>
      skip
      keep (.execute [])
    | some _ => adding bare fun text => .execute text.dropLast
  | 'a' => adding bare .append
  | 'i' => adding bare .insert
  | 'c' => adding bare .change
  | ':' =>
    if first.isSome then fail ": doesn't want any addresses"
    let name ← label
    if name = "" then fail "\":\" lacks a label"
    keep (.label name)
  | 'b' => keep (.jump .always (← label))
  | 't' => keep (.jump .replaced (← label))
  | 'T' => keep (.jump .unreplaced (← label))
  | 's' => keep (← substitution)
  | 'y' => keep (← translation)
  | 'r' => keep (.readFile (← fileName))
  | 'R' => keep (.readLine (← fileName))
  | 'w' => keep (.write true (← port))
  | 'W' => keep (.write false (← port))
  | 'q' | 'Q' =>
    if second.isSome then fail "command only uses one address"
    let n ← argument?
    keep (.quit (n.getD 0) (c == 'q'))
  | 'l' => keep (.reveal (← argument?))
  | 'L' =>
    let _ ← argument?
    keep (.unknown c)
  | _ =>
    match Action.ofLetter? c with
    | some a =>
      commandEnd
      keep a
    | none => fail ("unknown command: \x60" ++ String.singleton c ++ "'")
where
  argument? : Reading (Option Nat) := do
    skipBlanks
    let digits ← takeWhile Char.isDigit
    commandEnd
    return if digits.isEmpty then none
      else some (digits.foldl (fun n d => n * 10 + (d.toNat - '0'.toNat)) 0)

def commands : Nat → Reading Unit
  | 0 => return
  | fuel + 1 => do
    let _ ← takeWhile fun c => isSpace c || c == ';'
    if (← peek?).isNone then return
    let (first, second) ← addresses
    skipBlanks
    let c ← next?
    if isMisplaced first second c then fail "invalid usage of line address 0"
    let negated := c == some '!'
    let c ← if negated then do
        skipBlanks
        let c ← next?
        if c = some '!' then fail "multiple \x60!'s"
        pure c
      else pure c
    match c with
    | none => fail "missing command"
    | some c => command first second negated c
    commands fuel

def part : Reading Unit := do
  match (← get).pending with
  | some p =>
    modify fun s => { s with pending := none }
    goOn p
  | none => pure ()
  commands ((← get).rest.length + 1)

def conclude : Reading Unit := do
  let s ← get
  match s.pending with
  | some p => push { p.command with action := p.make p.text.reverse }
  | none => pure ()
  match s.blocks with
  | (origin, line) :: _ => throw (shownPlace origin line 0 ++ ": unmatched \x60\x7b'")
  | [] => pure ()

end Assay.Utility.Sed
