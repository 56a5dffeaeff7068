import Assay.Utility.Basic
import Assay.Utility.Numbers
import Assay.Utility.Sed.Reader
import Assay.Utility.Sed.Script

/-!
# Rounds of a script

The commands of a script are carried out for each line of the input. What is
added to a line is written behind it, when the next one is read. A line without
an end is given one only if something follows.
-/

set_option autoImplicit false

namespace Assay.Utility.Sed

open Shell (Sh Runner Sink readable bytesOf)

structure Setup where
  program : List (Nat × Command)
  quiet : Bool
  separate : Bool
  suffix : Option String
  stop : Char
  unbuffered : Bool
  strict : Bool
  wide : Bool
  width : Nat
  place : String
  run : Runner

/-- What is written behind a line. -/
inductive Addition where
  | text (cs : List Char)
  | file (path : String)

/-- A file that commands write to, and what is still to be written, last first. -/
structure Outlet where
  name : String
  sink : Sink
  texts : List String

structure Supply where
  path : String
  whole : List Char
  rest : List Char

structure State where
  line : Space
  hold : Space
  number : Nat
  replaced : Bool
  /-- Commands whose range is open, with the line where it ends if that is known. -/
  ranges : List (Nat × Option Nat)
  lastPattern : Option Regex
  appended : List Addition
  name : String
  current : Option String
  whole : List Char
  lines : List Space
  operands : List String
  output : List String
  edited : List String
  unended : List Port
  outlets : List Outlet
  supplies : List Supply
  status : Nat

abbrev Editing := ReaderT Setup (ExceptT Nat (StateT State Sh))

/-- Ranges that are open from the start: those that begin in front of the first line. -/
def startRanges (program : List (Nat × Command)) : List (Nat × Option Nat) :=
  program.filterMap fun (place, c) =>
    match c.first, c.second with
    | some (.line 0), some _ => some (place, none)
    | _, _ => none

def panic {α : Type} (status : Nat) (text : String) : Editing α := do
  blame "sed" text
  throw status

def octetsOfSpace (cs : List Char) : Editing (List Char) := do
  return if (← read).wide then narrow cs else cs

def spaceOf (cs : List Char) : Editing (List Char) := do
  return if (← read).wide then widen cs else cs

def flushOutlets : Editing Unit := do
  for o in (← getThe State).outlets do
    let t ← getThe Shell.Session
    match t.write (bytesOf (String.join o.texts.reverse).toList) (some o.sink) with
    | .ok t => set t
    | .error e => panic 4 ("couldn't flush <unknown>: " ++ e.text)
  modifyThe State fun s => { s with outlets := s.outlets.map fun o => { o with texts := [] } }

def put (p : Port) (cs : List Char) : Editing Unit := do
  let text := String.ofList cs
  match p with
  | .main =>
    if (← read).suffix.isSome && (← getThe State).current.isSome then
      modifyThe State fun s => { s with edited := text :: s.edited }
    else modifyThe State fun s => { s with output := text :: s.output }
  | .output => modifyThe State fun s => { s with output := text :: s.output }
  | .errors => liftM (m := Sh) (Shell.note text)
  | .file name =>
    modifyThe State fun s => { s with
      outlets := s.outlets.map fun o =>
        if o.name = name then { o with texts := text :: o.texts } else o }
    if (← read).unbuffered then flushOutlets

def endLine (p : Port) : Editing Unit := do
  if (← getThe State).unended.contains p then
    put p [(← read).stop]
    modifyThe State fun s => { s with unended := s.unended.filter (· != p) }

def putText (p : Port) (cs : List Char) : Editing Unit := do
  endLine p
  put p cs

def putSpace (p : Port) (line : Space) : Editing Unit := do
  let cs ← octetsOfSpace line.text
  if line.isEnded then putText p (cs ++ [(← read).stop])
  else
    putText p cs
    modifyThe State fun s => { s with unended := p :: s.unended }

def firstLine (line : Space) : Editing Space := do
  let stop := (← read).stop
  let (first, rest) := line.text.span (· != stop)
  return ⟨first, line.isEnded || !rest.isEmpty⟩

def contentAt (path : String) : Editing (List Char) := do
  let path := if path = "/dev/stdin" then "-" else if path = "-" then "./-" else path
  match ← liftM (m := Sh) (content path) with
  | .ok cs => return cs
  | .error u =>
    if u.isFound && path != "-" then
      blameUnread "sed" path u
      throw 4
    return []

def dumpAppended : Editing Unit := do
  let appended := (← getThe State).appended.reverse
  if appended.isEmpty then return
  modifyThe State fun s => { s with appended := [] }
  endLine .main
  for a in appended do
    match a with
    | .text cs => put .main cs
    | .file path => put .main (← contentAt path)

/-- The path under which a file is kept that is replaced, if it is. A star in the suffix
stands for its name. -/
def backupPath (suffix path : String) : Option String :=
  if suffix = "" then none
  else
    let name := String.ofList (path.toList.reverse.takeWhile (· != '/')).reverse
    let folder := (path.take (path.length - name.length)).toString
    let kept := if suffix.contains '*' then String.intercalate name (suffix.splitOn "*")
      else name ++ suffix
    some (if kept.contains '/' then kept else folder ++ kept)

def replaceFile (s : Shell.Session) (path : String) (kept : Option String) (content : Bytes) :
    Shell.Session :=
  match s.files.entrance s.folder (readable path), s.files.nodeAt true s.folder (readable path) with
  | .ok place, .ok n =>
    let files := match kept.map fun k => s.files.target s.folder (readable k) with
      | some (.ok other) => s.files.rename place other
      | _ => s.files
    s.withFiles (files.put place ⟨.file content, n.mode, s.now⟩)
  | _, _ => s

def closeCurrent : Editing Unit := do
  let s ← getThe State
  match s.current, (← read).suffix with
  | some path, some suffix =>
    let bytes := bytesOf (String.join s.edited.reverse).toList
    modifyThe Shell.Session fun t => replaceFile t path (backupPath suffix path) bytes
    modifyThe State fun s =>
      { s with current := none, edited := [], unended := s.unended.filter (· != .main) }
  | _, _ => modifyThe State fun s => { s with current := none }

def spacesOf (stop : Char) (cs : List Char) : List Space :=
  let isEnded := cs.getLast? == some stop
  match ((partsBy stop cs).map fun line => (⟨line, true⟩ : Space)).reverse with
  | [] => []
  | last :: before => ({ last with isEnded := isEnded } :: before).reverse

def openInput (operand : String) : Editing Unit := do
  let setup ← read
  let inPlace := setup.suffix.isSome
  let path := if inPlace && operand = "-" then "./-" else operand
  let t ← getThe Shell.Session
  let isOdd := match t.files.stat t.folder (readable path) with
    | .ok e => !e.isRegular
    | .error _ => false
  if inPlace && isOdd then panic 4 ("couldn't edit " ++ operand ++ ": not a regular file")
  match ← liftM (m := Sh) (content path) with
  | .ok cs =>
    let lines := spacesOf setup.stop (← spaceOf cs)
    modifyThe State fun s => { s with current := some operand, whole := cs, lines := lines }
    if setup.separate then
      modifyThe State fun s => { s with
        number := 0
        ranges := startRanges setup.program
        supplies := s.supplies.map fun x => { x with rest := x.whole } }
  | .error u =>
    blameUnread "sed" operand u
    if u.isFound then throw 4
    modifyThe State fun s => { s with status := 2 }

def advance : Nat → Editing Bool
  | 0 => return false
  | fuel + 1 => do
    let s ← getThe State
    if !s.lines.isEmpty then return true
    match s.operands with
    | [] => return false
    | operand :: rest =>
      closeCurrent
      modifyThe State fun s => { s with operands := rest }
      openInput operand
      advance fuel

def isLast : Editing Bool := do
  let s ← getThe State
  if !s.lines.isEmpty then return false
  if (← read).separate then return true
  return !(← advance (s.operands.length + 1))

def readLine (append : Bool) : Editing Bool := do
  dumpAppended
  if !(← advance ((← getThe State).operands.length + 1)) then return false
  let setup ← read
  let s ← getThe State
  match s.lines with
  | [] => return false
  | line :: rest =>
    set { s with
      line := if append then s.line.join setup.stop line else line
      lines := rest
      number := s.number + 1
      name := s.current.getD "-"
      replaced := false }
    if s.number = 0 then
      for (_, c) in setup.program do
        match c.first, c.second, c.action with
        | some (.line 0), none, .readFile path => putText .main (← contentAt path)
        | _, _, _ => pure ()
    return true

def settlePattern (r : Option Regex) : Editing Regex := do
  match r.or (← getThe State).lastPattern with
  | some r =>
    modifyThe State fun s => { s with lastPattern := some r }
    return r
  | none => panic 1 ((← read).place ++ ": no previous regular expression")

def holdsAt (a : Address) : Editing Bool := do
  let s ← getThe State
  match a with
  | .line n => return s.number == n
  | .step first every =>
    return decide (first ≤ s.number) && (s.number - first) % every == 0
  | .last => isLast
  | .plus _ | .multiple _ => return false
  | .pattern r =>
    let r ← settlePattern r
    return (r.search s.line.text.toArray 0).isSome

def rangeEnd? (n : Nat) : Address → Option Nat
  | .line m => some m
  | .plus k => some (n + k)
  | .multiple k => some (if k = 0 then n else (n / k + 1) * k)
  | _ => none

def applies (place : Nat) (c : Command) : Editing Bool := do
  match c.first, c.second with
  | none, _ => return true
  | some a, none => holdsAt a
  | some a, some b =>
    let s ← getThe State
    let close : Editing Unit := modifyThe State fun s =>
      { s with ranges := s.ranges.filter fun r => r.1 != place }
    match s.ranges.find? fun r => r.1 == place with
    | some (_, some n) =>
      if n ≤ s.number then close
      return decide (s.number ≤ n)
    | some (_, none) =>
      if ← holdsAt b then close
      return true
    | none =>
      if !(← holdsAt a) then return false
      let stop := rangeEnd? s.number b
      if stop.all fun n => decide (s.number < n) then
        modifyThe State fun s => { s with ranges := (place, stop) :: s.ranges }
      return true

inductive Step where
  | next
  | goTo (rest : List (Nat × Command))
  | again
  | over (prints : Bool)
  | quit (status : Nat) (prints : Bool)

def output (text : List Char) : Editing (List Char) := do
  let run := (← read).run
  let arguments := ["-c", String.ofList text]
  let body : Sh Unit := do
    match (← get).findProgram "/bin/sh" with
    | .ok p =>
      let _ ← Shell.asProcess run (run (.program p "sh" arguments))
    | .error _ => return
  let (_, bytes) ← liftM (m := Sh) (Shell.gather body)
  return Shell.octetsOf bytes

/-- Runs the line as a command, whose output takes its place. -/
def runLine : Editing Unit := do
  let s ← getThe State
  let found ← output (← octetsOfSpace s.line.text)
  let text := if found.getLast? == some (← read).stop then found.dropLast else found
  let text ← spaceOf text
  modifyThe State fun s => { s with line := ⟨text, true⟩ }

def substitute (x : Substitution) : Editing Unit := do
  let r ← settlePattern x.pattern
  let wanted := highestGroup x.pieces
  if r.groups < wanted then
    panic 1 ((← read).place ++ ": " ++ missingGroup wanted)
  match x.replace r (← getThe State).line.text with
  | none => return
  | some text =>
    modifyThe State fun s => { s with line := { s.line with text := text }, replaced := true }
    let printAt := fun (p : Printing) => do
      if x.print = some p then putSpace .main (← getThe State).line
    printAt .early
    if x.runs then runLine
    printAt .late
    match x.port with
    | some p => putSpace p (← getThe State).line
    | none => return

def takeSupply (path : String) : Editing (List Char) := do
  let s ← getThe State
  let x ← match s.supplies.find? fun x => x.path == path with
    | some x => pure x
    | none => do
      let whole ← contentAt path
      pure ⟨path, whole, whole⟩
  let stop := (← read).stop
  let (line, rest) := x.rest.span (· != stop)
  modifyThe State fun s => { s with
    supplies := { x with rest := rest.drop 1 } :: s.supplies.filter fun x => x.path != path }
  return line ++ rest.take 1

def behindBlock : Nat → List (Nat × Command) → List (Nat × Command)
  | _, [] => []
  | depth, (_, c) :: rest =>
    match c.action with
    | .openBlock => behindBlock (depth + 1) rest
    | .closeBlock => if depth = 0 then rest else behindBlock (depth - 1) rest
    | _ => behindBlock depth rest

def behindLabel (name : String) (program : List (Nat × Command)) : List (Nat × Command) :=
  if name = "" then []
  else ((program.reverse.takeWhile fun c => !c.2.isLabel name).reverse)

def jump (condition : Condition) (name : String) : Editing Step := do
  let replaced := (← getThe State).replaced
  if condition != .always then modifyThe State fun s => { s with replaced := false }
  let taken := match condition with
    | .always => true
    | .replaced => replaced
    | .unreplaced => !replaced
  if taken then return .goTo (behindLabel name (← read).program)
  return .next

def alter (f : State → State) : Editing Step := do
  modifyThe State f
  return .next

def write (p : Port) (line : Space) : Editing Step := do
  putSpace p line
  return .next

def writeText (cs : List Char) : Editing Step := do
  putText .main cs
  return .next

def nextLine (append : Bool) : Editing Step := do
  let setup ← read
  if ← isLast then return .over (!setup.strict)
  if !append && !setup.quiet then putSpace .main (← getThe State).line
  if ← readLine append then return .next
  return .over false

def perform (place : Nat) (c : Command) : Editing Step := do
  let s ← getThe State
  let setup ← read
  match c.action with
  | .substitute x =>
    substitute x
    return .next
  | .translate pairs =>
    alter fun s => { s with line := { s.line with text := s.line.text.map (translated pairs) } }
  | .append text => alter fun s => { s with appended := .text text :: s.appended }
  | .insert text => writeText text
  | .change text =>
    let isOpen := c.second.isSome && s.ranges.any fun r => r.1 == place
    if !isOpen then putText .main text
    return .over false
  | .label _ | .openBlock | .closeBlock => return .next
  | .jump condition name => jump condition name
  | .readFile path => alter fun s => { s with appended := .file path :: s.appended }
  | .readLine path =>
    let text ← takeSupply path
    if text.isEmpty then return .next
    alter fun s => { s with appended := .text text :: s.appended }
  | .write true p => write p s.line
  | .write false p => write p (← firstLine s.line)
  | .quit status prints => return .quit status prints
  | .reveal width =>
    let cs ← octetsOfSpace s.line.text
    writeText (revealAll (width.getD setup.width) cs ++ [setup.stop])
  | .execute [] =>
    runLine
    return .next
  | .execute text =>
    endLine .main
    put .main (← output text)
    return .next
  | .delete => return .over false
  | .deleteLine =>
    match s.line.text.dropWhile (· != setup.stop) with
    | [] => return .over false
    | _ :: rest =>
      modifyThe State fun s => { s with line := { s.line with text := rest } }
      return .again
  | .number => writeText ((toString s.number).toList ++ [setup.stop])
  | .name => writeText (s.name.toList ++ [setup.stop])
  | .get => alter fun s => { s with line := s.hold }
  | .getMore => alter fun s => { s with line := s.line.join setup.stop s.hold }
  | .hold => alter fun s => { s with hold := s.line }
  | .holdMore => alter fun s => { s with hold := s.hold.join setup.stop s.line }
  | .next => nextLine false
  | .nextMore => nextLine true
  | .print => write .main s.line
  | .printLine => write .main (← firstLine s.line)
  | .exchange => alter fun s => { s with line := s.hold, hold := s.line }
  | .clear => alter fun s => { s with line := { s.line with text := [] } }
  | .unknown letter => panic 4 ("INTERNAL ERROR: Bad cmd " ++ String.singleton letter)

def runFrom : Nat → List (Nat × Command) → Editing Step
  | 0, _ => liftM (m := Sh) Shell.standStill
  | _, [] => return .over true
  | fuel + 1, (place, c) :: rest => do
    liftM (m := Sh) (Shell.spend 1)
    if (← applies place c) == c.negated then
      match c.action with
      | .openBlock => runFrom fuel (behindBlock 0 rest)
      | _ => runFrom fuel rest
    else
      match ← perform place c with
      | .next => runFrom fuel rest
      | .goTo rest => runFrom fuel rest
      | .again => runFrom fuel (← read).program
      | step => return step

/-- Commands that are carried out for a line before a script counts as endless. -/
def roundLength : Nat := 2000000

def rounds : Nat → Editing Unit
  | 0 => liftM (m := Sh) Shell.standStill
  | fuel + 1 => do
    if !(← readLine false) then return
    let setup ← read
    let finish := fun (prints : Bool) => do
      if prints && !setup.quiet then putSpace .main (← getThe State).line
    match ← runFrom roundLength setup.program with
    | .over prints =>
      finish prints
      rounds fuel
    | .quit status prints =>
      finish prints
      dumpAppended
      modifyThe State fun s => if s.status = 0 then { s with status := status } else s
    | _ => return

end Assay.Utility.Sed
