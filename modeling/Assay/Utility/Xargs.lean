import Assay.Utility.Basic
import Assay.Utility.Numbers

/-!
# The xargs utility

Words are read, and a command is carried out with as many of them as it may have
each time. What is to be done is settled from the text alone: runs of the command,
warnings, and a fault that ends it all.
-/

set_option autoImplicit false

namespace Assay.Utility

open Shell (Sh Runner)

namespace Xargs

structure Settings where
  /-- The character that ends words, in place of blanks and quotes. -/
  stop : Option Char
  ending : Option String
  mark : Option String
  lines : Nat
  words : Nat
  size : Nat
  isFirm : Bool
  runsEmpty : Bool
  verbose : Bool
  parallel : Nat
  /-- The name that is bound to the place of a run among those that go on at once. -/
  slotName : Option String
  file : Option String

/-- Characters of a command, as far as nobody asks for more. -/
def usualSize : Nat := 131072

def Settings.fresh : Settings :=
  { stop := none, ending := none, mark := none, lines := 0, words := 0, size := usualSize
    isFirm := false, runsEmpty := true, verbose := false, parallel := 1, slotName := none
    file := none }

inductive Step where
  | run (arguments : List String)
  | warn (text : String)
  | fail (text : String)

inductive Piece where
  | word (w : String)
  | lineEnd
  | null
  | unmatched (quote : Char)

inductive Mode where
  | blank
  | usual
  | quoted (c : Char)
  | escaped
deriving DecidableEq

/-- A reader of words: the characters of the one that has been started, last first, whether
anything has been seen of it, and the character before. -/
structure Reader where
  mode : Mode
  word : List Char
  seen : Bool
  later : Bool
  before : Option Char
  warned : Bool

def Reader.fresh (warned : Bool) : Reader := ⟨.blank, [], false, false, none, warned⟩

def Reader.text (r : Reader) : String :=
  String.ofList (r.word.reverse.takeWhile (· != '\x00'))

def isBlank (c : Char) : Bool := c == ' ' || c == '\t'

def isSpace (c : Char) : Bool := c == ' ' || decide ('\t' ≤ c ∧ c ≤ '\x0d')

def readWords (byLines : Bool) (ending : Option String) : Reader → List Char → List Piece
  | r, [] =>
    match r.mode with
    | .quoted c => if r.word.isEmpty then [] else [.unmatched c]
    | _ =>
      if r.word.isEmpty then []
      else if !r.later && some r.text == ending then []
      else [.word r.text]
  | r, c :: cs =>
    let read := fun (r : Reader) => readWords byLines ending r cs
    let r' := { r with before := some c }
    let add := fun (_ : Unit) =>
      let next := { r' with mode := .usual, word := c :: r.word, seen := true
                            warned := r.warned || c == '\x00' }
      if c = '\x00' && !r.warned then .null :: read next else read next
    match r.mode with
    | .quoted q =>
      if c = '\n' then [.unmatched q]
      else if c = q then read { r' with mode := .usual, seen := true }
      else
        let next := { r' with word := c :: r.word, warned := r.warned || c == '\x00' }
        if c = '\x00' && !r.warned then .null :: read next else read next
    | .escaped => add ()
    | mode =>
      if mode = .blank && isSpace c then read r'
      else if c = '\n' then
        if r.word.isEmpty && !r.seen then read { r' with mode := .blank }
        else if some r.text == ending then []
        else
          let rest := read (.fresh r.warned)
          .word r.text :: if r.before.any isBlank then rest else .lineEnd :: rest
      else if !byLines && isBlank c then
        if some r.text == ending then []
        else .word r.text ::
          read ⟨.blank, [], true, true, some c, r.warned⟩
      else if c = '\\' then read { r' with mode := .escaped, seen := true }
      else if c = '\'' || c = '"' then read { r' with mode := .quoted c, seen := true }
      else add ()

def readParts (stop : Char) (cs : List Char) : List Piece :=
  let parts := partsBy stop cs
  let isEnded := cs.getLast? == some stop
  let pieces := parts.flatMap fun part =>
    [.word (String.ofList (part.takeWhile (· != '\x00'))), .lineEnd]
  if isEnded then pieces else pieces.dropLast

def quoteFault (c : Char) : String :=
  "unmatched " ++ (if c = '"' then "double" else "single") ++
    " quote; by default quotes are special to xargs unless you use the -0 option"

def nullWarning : String :=
  "WARNING: a NUL character occurred in the input.  It cannot be passed through in the " ++
    "argument list.  Did you mean to use the --null option?"

/-- Words that have been gathered for a run, last first, with the characters that they take,
the lines they come from, and all that is to be done, last first. -/
structure Batch where
  gathered : List String
  size : Nat
  lines : Nat
  steps : List Step
  ran : Bool

namespace Batch

def flush (base : Nat) (b : Batch) : Batch :=
  { gathered := [], size := base, lines := b.lines, steps := .run b.gathered.reverse :: b.steps
    ran := true }

def fail (b : Batch) (text : String) : List Step := (Step.fail text :: b.steps).reverse

end Batch

def sizeOf (words : List String) : Nat := words.foldl (fun n w => n + w.length + 1) 0

def plan (s : Settings) (base : Nat) : Batch → List Piece → List Step
  | b, [] =>
    let b := if !b.gathered.isEmpty || (s.runsEmpty && !b.ran) then b.flush base else b
    b.steps.reverse
  | b, .null :: rest => plan s base { b with steps := .warn nullWarning :: b.steps } rest
  | b, .lineEnd :: rest =>
    let b := { b with lines := b.lines + 1 }
    if s.lines != 0 && s.lines ≤ b.lines then plan s base { b.flush base with lines := 0 } rest
    else plan s base b rest
  | b, .unmatched c :: _ =>
    (if b.gathered.isEmpty || s.isFirm then b else b.flush base).fail (quoteFault c)
  | b, .word w :: rest =>
    let tooLong := s.size < b.size + w.length + 1
    if tooLong && b.gathered.isEmpty then
      b.fail "cannot fit single argument within argument list size limit"
    else if tooLong && s.isFirm && (s.lines != 0 || s.words != 0) then
      b.fail "argument list too long"
    else
      let b := if tooLong then b.flush base else b
      let b := { b with gathered := w :: b.gathered, size := b.size + w.length + 1 }
      plan s base (if s.words != 0 && b.gathered.length = s.words then b.flush base else b) rest

def planLines (mark : String) (fixed : List String) : List Piece → List Step
  | [] => []
  | .word w :: rest => .run (fixed.map (Launch.fill mark w)) :: planLines mark fixed rest
  | .lineEnd :: rest => planLines mark fixed rest
  | .null :: rest => .warn nullWarning :: planLines mark fixed rest
  | .unmatched c :: _ => [.fail (quoteFault c)]

def steps (s : Settings) (name : String) (fixed : List String) (cs : List Char) : List Step :=
  let pieces := match s.stop with
    | some c => readParts c cs
    | none => readWords s.mark.isSome s.ending (.fresh false) cs
  match s.mark with
  | some mark =>
    if mark = "" then (if pieces.isEmpty then [] else [.fail "command too long"])
    else planLines mark fixed pieces
  | none =>
    let base := sizeOf (name :: fixed)
    if s.size < base then [.fail "cannot fit single argument within argument list size limit"]
    else
      (plan s base ⟨[], base, 0, [], false⟩ pieces).map fun step => match step with
        | .run words => .run (fixed ++ words)
        | step => step

abbrev Refusal := String × Bool

abbrev Reading := StateT (List String) (Except Refusal)

def number (c : Char) (low : Int) (text : String) : Reading Nat :=
  let option := " for -" ++ String.singleton c ++ " option"
  match Numeral.read "" true text with
  | .ok n =>
    if n < low then
      throw ("value " ++ text ++ option ++ " should be >= " ++ toString low, true)
    else return n.toNat
  | .error .beyond => return 2147483647
  | .error .malformed => throw ("invalid number \"" ++ text ++ "\"" ++ option, true)

def displace (before now : String) : Reading Unit :=
  modify fun ws => ws ++ ["warning: options " ++ before ++ " and " ++ now ++
    " are mutually exclusive, ignoring previous " ++ before ++ " value"]

def readStop (text : String) : Except Refusal Char :=
  let wrong := "Invalid escape sequence " ++ text ++ " in input delimiter specification"
  match text.toList with
  | [c] => .ok c
  | ['\\', c] =>
    match [('a', '\x07'), ('b', '\x08'), ('f', '\x0c'), ('n', '\n'), ('r', '\x0d'), ('t', '\t'),
      ('v', '\x0b'), ('\\', '\\')].find? fun l => l.1 == c with
    | some (_, d) => .ok d
    | none =>
      if '0' ≤ c ∧ c ≤ '7' then .ok (Char.ofNat (c.toNat - '0'.toNat))
      else .error (wrong ++ ".", false)
  | '\\' :: c :: cs =>
    let base := if c = 'x' then 16 else 8
    let (n, rest) := Shell.readDigits base (if c = 'x' then cs else c :: cs)
    if c != 'x' && !c.isDigit then .error (wrong ++ ".", false)
    else if 255 < n then
      .error (wrong ++ "; character values must not exceed " ++
        String.ofList (Nat.toDigits base 255) ++ ".", false)
    else if !rest.isEmpty then
      .error (wrong ++ "; trailing characters " ++ String.ofList rest ++ " not recognised.", false)
    else .ok (Char.ofNat n)
  | _ => .error ("Invalid input delimiter specification " ++ text ++
      ": the delimiter must be either a single character or an escape sequence starting with \\.",
      false)

/-- Puts options about lines out of force for one about words, and the other way around. -/
def takeLines (s : Settings) (now : String) (n : Nat) : Reading Settings := do
  if s.words != 0 then displace "--max-args" now
  if s.mark.isSome then displace "--replace" now
  return { s with lines := n, words := 0, mark := none }

def takeMark (s : Settings) (mark : String) : Reading Settings := do
  if s.words != 0 then displace "--max-args" "--replace/-I/-i"
  if s.lines != 0 then displace "--max-lines" "--replace/-I/-i"
  return { s with words := 0, lines := 0, mark := some mark }

def takeWords (s : Settings) (n : Nat) : Reading Settings := do
  if s.lines != 0 then displace "--max-lines" "--max-args/-n"
  let s := { s with lines := 0 }
  if s.mark.isNone then return { s with words := n }
  else if n = 1 then return { s with words := 0 }
  else
    displace "--replace" "--max-args/-n"
    return { s with words := n, mark := none }

def take (s : Settings) (option : Char × String) : Reading Settings := do
  let (c, text) := option
  match c with
  | '0' => return { s with stop := some '\x00' }
  | 'd' => return { s with stop := some (← readStop text) }
  | 'E' | 'e' => return { s with ending := if text = "" then none else some text }
  | 'I' => takeMark s text
  | 'i' => takeMark s (if text = "" then "\x7b\x7d" else text)
  | 'L' => takeLines s "-L" (← number 'L' 1 text)
  | 'l' => takeLines s "--max-lines/-l" (← if text = "" then pure 1 else number 'l' 1 text)
  | 'n' => takeWords s (← number 'n' 1 text)
  | 's' => return { s with size := min usualSize (← number 's' 1 text) }
  | 'P' => return { s with parallel := ← number 'P' 0 text }
  | 'a' => return { s with file := some text }
  | 't' => return { s with verbose := true }
  | 'x' => return { s with isFirm := true }
  | 'r' => return { s with runsEmpty := false }
  | 'π' =>
    if text.contains '=' then
      throw ("option --process-slot-var may not be set to a value which includes '='", false)
    else return { s with slotName := some text }
  | _ => return s

def options : Options :=
  ⟨"0a:E:e::i::I:l::L:n:prs:txP:d:oπ:σ", [("null", '0'), ("arg-file", 'a'), ("delimiter", 'd'),
    ("eof", 'e'), ("replace", 'i'), ("max-lines", 'l'), ("max-args", 'n'), ("open-tty", 'o'),
    ("interactive", 'p'), ("no-run-if-empty", 'r'), ("max-chars", 's'), ("verbose", 't'),
    ("show-limits", 'σ'), ("exit", 'x'), ("max-procs", 'P'), ("process-slot-var", 'π')], true⟩

/-- Waits until a run may start among those that end at some times, and tells when the others
end and which place is free. -/
def awaitPlace (parallel : Nat) (ends : List (Nat × Nat)) : Sh (List (Nat × Nat) × Nat) := do
  let now := (← get).clock
  let going := ends.filter fun e => decide (now < e.2)
  let free := fun (going : List (Nat × Nat)) =>
    ((List.range (going.length + 1)).find? fun i => !(going.any fun e => e.1 == i)).getD 0
  if parallel = 0 || going.length < parallel then return (going, free going)
  let next := going.foldl (fun n e => min n e.2) Shell.forever
  Shell.waitUntil next
  let going := going.filter fun e => decide (next < e.2)
  return (going, free going)

/-- Says what became of a run; what it leaves may end it all. -/
def judge (name : String) (w : WaitStatus) : Sh (Option Nat × Bool) := do
  match w.code?, w.signal? with
  | some 0, _ => return (none, false)
  | some 255, _ =>
    blame "xargs" (name ++ ": exited with status 255; aborting")
    return (some 124, true)
  | none, some n =>
    blame "xargs" (name ++ ": terminated by signal " ++ toString n)
    return (some 125, true)
  | _, _ => return (some 123, false)

def doAll (run : Runner) (s : Settings) (name : String) :
    Nat → List (Nat × Nat) → List Step → Sh Nat
  | status, ends, [] => do
    Shell.waitUntil (ends.foldl (fun n e => max n e.2) (← get).clock)
    return status
  | status, ends, .warn text :: rest => do
    blame "xargs" text
    doAll run s name status ends rest
  | _, _, .fail text :: _ => do
    blame "xargs" text
    return 1
  | status, ends, .run words :: rest => do
    let (going, place) ← awaitPlace s.parallel ends
    if s.verbose then Shell.note (String.intercalate " " ((name :: words).map shownName) ++ "\n")
    if let some slot := s.slotName then
      modify fun t => t.bind slot ⟨some (toString place), true, false⟩
    let before := (← get).clock
    match ← start run name words with
    | .error u =>
      blame "xargs" (name ++ ": " ++ u.said)
      return u.status
    | .ok w =>
      let (left?, isLast) ← judge name w
      if isLast then return left?.getD status
      let stop := (← get).clock
      if s.parallel != 1 then modify fun t => { t with clock := before + 1 }
      doAll run s name (left?.getD status) ((place, stop) :: going) rest

end Xargs

open Xargs in
def xargs : Tool := fun run arguments =>
  withOptions "xargs" 1 Xargs.options arguments fun g => do
    match (g.options.foldlM take Settings.fresh).run [] with
    | .error (text, true) => refuse "xargs" 1 text
    | .error (text, false) =>
      blame "xargs" text
      return 1
    | .ok (s, warnings) =>
      for text in warnings do blame "xargs" text
      if s.ending.isSome && s.stop.isSome then
        blame "xargs" "warning: the -E option has no effect if -0 or -d is used.\n"
      let given ← content (s.file.getD "-")
      match given, s.file with
      | .error ⟨text, false⟩, some path =>
        blame "xargs" ("Cannot open input file " ++ quotedText path ++ ": " ++ text)
        return 1
      | given, _ =>
        let name := g.operands.headD "echo"
        let all := steps s name g.operands.tail (given.toOption.getD [])
        let status ← doAll run s name 0 [] all
        match given with
        | .ok _ => return status
        | .error u =>
          if s.file.isSome then return status
          blameUnread "xargs" "-" u
          return 1

end Assay.Utility
