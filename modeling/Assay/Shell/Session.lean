import Assay.Host.Basic
import Assay.Shell.OpenFile
import Assay.Shell.Source

/-!
# Shell sessions

A session is what the processes of a shell share, together with the state of
the one that is running. Its clock goes only while a process waits. What is
written carries the time at which, and the process by which, it was written,
so that processes that run side by side may be worked out one after the other.
-/

set_option autoImplicit false

namespace Assay.Shell

inductive Sink where
  | stream (s : Stream)
  | buffer (depth : Nat)
  | file (number : Nat)
  | input (number : Nat)
  | device (d : Device)
deriving DecidableEq, Repr

structure Input where
  rest : List Char
  ready : Nat

structure Written where
  time : Nat
  process : Nat
  bytes : Bytes

structure Binding where
  value : Option String
  exported : Bool
  fixed : Bool
deriving DecidableEq, Repr

structure Background where
  process : Nat
  finish : Nat
  status : WaitStatus
  held : List Sink
  noticed : Bool
deriving DecidableEq, Repr

/-- What a shell has left in the background, under a number, whether it has waited for it,
and how many pipes it consists of. -/
structure Job where
  number : Nat
  process : Nat
  waited : Bool
  pipes : Nat
deriving DecidableEq, Repr

structure OptionCursor where
  next : Nat
  offset : Option Nat
deriving DecidableEq, Repr

structure Found where
  name : String
  path : String
  isOld : Bool
deriving DecidableEq, Repr

/-- What a local name stood for before; the options may be local as well. -/
inductive Saved where
  | binding (name : String) (before : Option Binding)
  | options (before : List Char)
deriving DecidableEq, Repr

structure Limit where
  soft : Option Nat
  hard : Option Nat
deriving DecidableEq, Repr

structure ShellState where
  folder : Place
  folderPath : String
  name : String
  arguments : List String
  bindings : List (String × Binding)
  functions : List (String × Command)
  found : List Found
  aliases : List (String × String)
  options : List Char
  traps : List (Nat × String)
  frames : List (List Saved)
  loops : Nat
  cursor : OptionCursor
  status : Nat
  substituted : Nat
  line : Nat
  reached : Nat
  command : Option String
  descriptors : List (Nat × Sink)
  children : List Nat
  jobs : List Job
  leader : Nat
  process : Nat
  above : List Nat
  mask : Nat
  niceness : Int
  limits : List (Char × Limit)

structure Session extends ShellState where
  stored : FileTree
  pending : Option Addition
  opened : List (Nat × OpenFile)
  clock : Nat
  inputs : List (Nat × Input)
  documents : List (Nat × Word)
  nextNumber : Nat
  stdout : List Written
  stderr : List Written
  buffers : List (List Written)
  background : List Background
  received : List (Nat × Nat)
  nextProcess : Nat
  /-- How many commands may still be carried out before a script counts as endless. -/
  steps : Nat
  deadline : Nat
  epoch : Int

/-- Why the commands that follow are not carried out. -/
inductive Halt where
  | exit
  | fail
  | killed (signal : Nat)
  /-- Nothing further happens: the process is stopped, or goes on forever. -/
  | never
  | leave (loops : Nat)
  | again (loops : Nat)
  | back
deriving DecidableEq, Repr

abbrev Sh := EStateM Halt Session

def firstProcess : Nat := 4000

def ticks : Nat := 1000

def forever : Nat := Nat.pow 10 30

def endless : Nat := 1500000

def stepsUntil (deadline : Nat) : Nat := min endless (200000 + 5 * deadline)

def processCost : Nat := 100

def textCost (length : Nat) : Nat := length / 4

/-- Places for the names in the order in which an environment lists them. -/
def bucketCount : Nat := 39

def bucket (name : String) : Nat :=
  let codes := name.toList.map Char.toNat
  (codes.foldl (· + ·) (codes.headD 0 * 16)) % bucketCount

namespace Session

def bindingsOf (env : Environment) : List (String × Binding) :=
  env.bindings.reverse.filterMap fun b =>
    if isName b.1 then some (b.1, ⟨some (octets b.2), true, false⟩) else none

def usualPath : String := "/usr/local/sbin:/usr/local/bin:/usr/sbin:/usr/bin:/sbin:/bin"

def initialBindings : List (String × Binding) :=
  [("IFS", ⟨some " \t\n", false, false⟩), ("PATH", ⟨some usualPath, false, false⟩),
    ("PS1", ⟨some "# ", false, false⟩), ("PS2", ⟨some "> ", false, false⟩),
    ("PS4", ⟨some "+ ", false, false⟩), ("OPTIND", ⟨some "1", false, false⟩),
    ("PPID", ⟨some "1", false, false⟩)]

def isBound (bs : List (String × Binding)) (name : String) : Bool :=
  bs.any fun b => b.1 == name

def bindIn (bs : List (String × Binding)) (name : String) (v : Binding) :
    List (String × Binding) :=
  if isBound bs name then bs.map fun b => if b.1 == name then (name, v) else b
  else bs ++ [(name, v)]

/-- The path of the folder that a shell starts in: the one that the environment names, if
it leads there. -/
def startPath (files : FileTree) (env : List (String × Binding)) (folder : Place) : String :=
  match (env.find? fun b => b.1 == "PWD").bind fun b => b.2.value with
  | some path =>
    if Path.isAbsolute path && (files.resolve folder (readable path)).toOption == some folder then
      path
    else octets folder.toPath
  | none => octets folder.toPath

def startBindings (imported : List (String × Binding)) (folderPath : String) (parent : Nat) :
    List (String × Binding) :=
  let own := ["IFS", "OPTIND", "PPID"]
  let bs := (imported.filter fun b => !own.contains b.1).foldl
    (fun bs b => bindIn bs b.1 b.2) initialBindings
  bindIn (bindIn bs "PPID" ⟨some (toString parent), false, false⟩) "PWD"
    ⟨some folderPath, true, false⟩

def initial (h : Host) (name : String) (deadline : Nat) : Session where
  folder := h.folder
  folderPath := octets h.folder.toPath
  name := octets name
  arguments := []
  bindings := bindingsOf h.environment
  functions := []
  found := []
  aliases := []
  options := []
  traps := []
  frames := []
  loops := 0
  cursor := ⟨1, none⟩
  status := 0
  substituted := 0
  line := 0
  reached := 0
  command := none
  descriptors := [(0, .input 0), (1, .stream .stdout), (2, .stream .stderr)]
  children := []
  jobs := []
  leader := firstProcess
  process := firstProcess
  above := []
  mask := Host.usualMask
  niceness := 0
  limits := []
  stored := h.files
  pending := none
  opened := []
  clock := 0
  inputs := []
  documents := []
  nextNumber := 1
  stdout := []
  stderr := []
  buffers := []
  background := []
  received := []
  nextProcess := firstProcess + 1
  steps := stepsUntil deadline
  deadline := deadline
  epoch := h.time

def tickLength : Nat := 1000000 / ticks

def now (s : Session) : Int := s.epoch + s.clock * tickLength

def making (s : Session) : Making := ⟨s.now, s.mask⟩

def files (s : Session) : FileTree :=
  match s.pending with
  | some a => a.apply s.making s.stored
  | none => s.stored

def withFiles (s : Session) (files : FileTree) : Session :=
  { s with stored := files, pending := none }

def sizeOf (s : Session) (node : Nat) : Nat :=
  match s.pending with
  | some a => if a.node = node then a.size else stored
  | none => stored
where
  stored : Nat := ((s.stored.contentOf? node).getD []).length

def append (s : Session) (node : Nat) (bytes : Bytes) : Session :=
  let size := s.sizeOf node + bytes.length
  match s.pending with
  | some a =>
    if a.node = node then { s with pending := some ⟨node, bytes :: a.texts, size⟩ }
    else { s with stored := s.files, pending := some ⟨node, [bytes], size⟩ }
  | none => { s with pending := some ⟨node, [bytes], size⟩ }

def opened? (s : Session) (number : Nat) : Option OpenFile :=
  (s.opened.find? fun f => f.1 == number).map Prod.snd

def reopen (s : Session) (number : Nat) (f : OpenFile) : Session :=
  { s with opened := s.opened.map fun x => if x.1 == number then (number, f) else x }

def contentOf? (s : Session) (f : OpenFile) : Option Bytes := s.files.contentOf? f.node

def rewrite (s : Session) (node : Nat) (f : Bytes → Bytes) : Session :=
  s.withFiles (s.files.rewrite s.making node f)

def writeFile (s : Session) (number : Nat) (f : OpenFile) (bytes : Bytes) : Session :=
  let size := s.sizeOf f.node
  let offset := if f.atEnd then size else f.offset
  let t := if offset = size then s.append f.node bytes
    else s.rewrite f.node fun content => overwrite content offset bytes
  t.reopen number { f with offset := offset + bytes.length }

def sink? (s : Session) (descriptor : Nat) : Option Sink :=
  (s.descriptors.find? fun d => d.1 == descriptor).map Prod.snd

def extendBuffer (buffers : List (List Written)) (depth : Nat) (w : Written) :
    List (List Written) :=
  buffers.modify (buffers.length - 1 - depth) (w :: ·)

/-- Writes to where a descriptor leads, or tells why that is impossible. -/
def write (s : Session) (bytes : Bytes) (sink : Option Sink) : Except SystemError Session :=
  let w : Written := ⟨s.clock, s.process, bytes⟩
  if bytes.isEmpty then .ok s
  else
    match sink with
    | some (.stream .stdout) => .ok { s with stdout := w :: s.stdout }
    | some (.stream .stderr) => .ok { s with stderr := w :: s.stderr }
    | some (.buffer depth) => .ok { s with buffers := extendBuffer s.buffers depth w }
    | some (.file n) =>
      match s.opened? n with
      | some f => if f.forWriting then .ok (s.writeFile n f bytes) else .error .badDescriptor
      | none => .error .badDescriptor
    | some (.device .full) => .error .noSpace
    | some (.device _) => .ok s
    | some (.input _) => .error .badDescriptor
    | none => .error .badDescriptor

def flag (b : Bool) : Nat := if b then 0 else 1

def binding? (s : Session) (name : String) : Option Binding :=
  (s.bindings.find? fun b => b.1 == name).map Prod.snd

def get? (s : Session) (name : String) : Option String := (s.binding? name).bind Binding.value

def getD (s : Session) (name : String) : String := (s.get? name).getD ""

def bind (s : Session) (name : String) (v : Binding) : Session :=
  { s with bindings := bindIn s.bindings name v }

def drop (s : Session) (name : String) : Session :=
  { s with bindings := s.bindings.filter fun b => b.1 != name }

def has (s : Session) (option : Char) : Bool := s.options.contains option

def cursorAt (value : String) : OptionCursor :=
  ⟨max 1 (if value.all Char.isDigit then value.toNat?.getD 1 else 1), none⟩

def assign (s : Session) (name value : String) : Session :=
  let v := (s.binding? name).getD ⟨none, false, false⟩
  let s := s.bind name ⟨some value, v.exported || s.has 'a', v.fixed⟩
  if name = "OPTIND" then { s with cursor := cursorAt value }
  else if name = "PATH" then { s with found := [] }
  else s

def passOn (s : Session) (name : String) : Session :=
  s.bind name { (s.binding? name).getD ⟨none, true, false⟩ with exported := true }

def restoreOne (s : Session) : Saved → Session
  | .binding name (some v) => s.bind name v
  | .binding name none => s.drop name
  | .options before => { s with options := before }

def restore (s : Session) (saved : List Saved) : Session := saved.foldl restoreOne s

def optionLetters (s : Session) : String :=
  String.ofList ("efIimnsxvVECabu".toList.filter s.has).reverse

def parameter? (s : Session) (name : String) : Option String :=
  match name with
  | "#" => some (toString s.arguments.length)
  | "?" => some (toString s.status)
  | "$" => some (toString s.leader)
  | "!" => s.children.head?.map toString
  | "-" => some s.optionLetters
  | "0" => some s.name
  | _ =>
    match if name.all Char.isDigit then name.toNat? else none with
    | some n => if n = 0 then some s.name else s.arguments[n - 1]?
    | none => s.get? name

def splitters (s : Session) : List Char := ((s.get? "IFS").getD " \t\n").toList

def environment (s : Session) : List (String × String) :=
  let exported := s.bindings.filterMap fun (name, v) =>
    if v.exported then v.value.map fun value => (name, value) else none
  exported.mergeSort fun a b => decide (bucket a.1 ≤ bucket b.1)

def heldUntil (s : Session) (sink : Sink) : Nat :=
  s.background.foldl (fun time b => if b.held.contains sink then max time b.finish else time) 0

end Session

def Written.gathered (ws : List Written) : Bytes :=
  ((ws.reverse.mergeSort fun a b => decide (a.time ≤ b.time)).map Written.bytes).flatten

def spend (steps : Nat) : Sh Unit := do
  let s ← get
  if s.steps < steps then throw .never
  else set { s with steps := s.steps - steps }

def noteTo (sink : Option Sink) (text : String) : Sh Unit :=
  modify fun s =>
    match s.write (bytesOf text.toList) sink with
    | .ok s => s
    | .error _ => s

def note (text : String) : Sh Unit := do noteTo ((← get).sink? 2) text

/-- Writes a diagnostic, in front of which the command is named that is carried out. -/
def complain (text : String) : Sh Unit := do
  let s ← get
  let about := match s.command with
    | some c => c ++ ": "
    | none => ""
  note (s.name ++ ": " ++ toString s.line ++ ": " ++ about ++ text ++ "\n")

def setStatus (status : Nat) : Sh Unit := modify fun s => { s with status := status }

def abort {α : Type} (text : String) : Sh α := do
  complain text
  setStatus 2
  throw .fail

def standStill {α : Type} : Sh α := do
  modify fun s => { s with clock := max s.clock s.deadline }
  throw .never

def waitUntil (time : Nat) : Sh Unit := do
  let s ← get
  if s.deadline ≤ max s.clock time then standStill
  else set { s with clock := max s.clock time }

def pass (milliseconds : Nat) : Sh Unit := do
  waitUntil ((← get).clock + milliseconds * ticks)

def setVariable (name value : String) : Sh Unit := do
  let s ← get
  if (s.binding? name).any Binding.fixed then abort (name ++ ": is read only")
  if !isName name then abort (name ++ ": bad variable name")
  if name = "OPTIND" && (value.isEmpty || !value.all Char.isDigit) then
    abort ("Illegal number: " ++ value)
  set (s.assign name value)

def underName {α : Type} (name : String) (body : Sh α) : Sh α := do
  let before := (← get).command
  modify fun s => { s with command := some name }
  try
    let a ← body
    modify fun s => { s with command := before }
    return a
  catch h =>
    modify fun s => { s with command := before }
    throw h

end Assay.Shell
