import Assay.Shell.Signal
import Assay.Shell.Source

/-!
# Processes and programs

A process is worked out to its end, and a program is looked up for it.
-/

set_option autoImplicit false

namespace Assay.Shell

/-!
## Processes

A process is worked out from its start to its end before the one that has
started it goes on, and the clock is set back where both run side by side.
Nothing of a process stays but what processes share.
-/

/-- How a command is carried out: whether its failure is allowed for, and whether nothing
follows it, so that a program may take the place of the shell. -/
structure Mode where
  tested : Bool
  last : Bool
deriving DecidableEq, Repr

namespace Mode

def usual : Mode := ⟨false, false⟩

def final : Mode := ⟨false, true⟩

end Mode

inductive Work where
  | command (mode : Mode) (c : Command)
  | script (mode : Mode) (source : Source)
  | program (p : Program) (name : String) (arguments : List String)

abbrev Runner := Work → Sh Unit

namespace Session

def source (s : Session) (text : List Char) : Source :=
  .start text 1 s.documents s.nextNumber s.aliases

/-- The state that a process starts with which is split off. Signals are only ignored. -/
def forked (s : Session) : Session :=
  { s with
    process := s.nextProcess
    nextProcess := s.nextProcess + 1
    above := s.process :: s.above
    children := []
    jobs := []
    traps := s.traps.filter fun t => t.2 == "" }

def withDescriptor (s : Session) (descriptor : Nat) (sink : Sink) : Session :=
  { s with descriptors := (descriptor, sink) :: s.descriptors.filter fun d => d.1 != descriptor }

def withoutDescriptor (s : Session) (descriptor : Nat) : Session :=
  { s with descriptors := s.descriptors.filter fun d => d.1 != descriptor }

def sinks (s : Session) : List Sink := (s.descriptors.map Prod.snd).eraseDups

end Session

def runText (run : Runner) (mode : Mode) (text : String) : Sh Unit := do
  run (.script mode ((← get).source text.toList))

def runEndTrap (run : Runner) : Sh Unit := do
  let s ← get
  match s.trap? 0 with
  | some text =>
    set (s.setTrap 0 none)
    runText run .usual text
    setStatus s.status
  | none => return

def runTraps (run : Runner) : Sh Unit := do
  let s ← get
  if s.received.isEmpty then return
  let (own, others) := s.received.partition fun r => r.1 == s.process
  if own.isEmpty then return
  set { s with received := others }
  for signal in ((own.map Prod.snd).mergeSort fun a b => decide (a ≤ b)).eraseDups do
    match (← get).trap? signal with
    | some text =>
      if text ≠ "" then
        let status := (← get).status
        runText run .usual text
        setStatus status
    | none => takeSignal signal

def ending (run : Runner) (body : Sh Unit) : Sh WaitStatus := do
  try body
  catch
    | .killed n => return .ofSignal n
    | .never => throw .never
    | _ => pure ()
  try
    runTraps run
    runEndTrap run
  catch
    | .killed n => return .ofSignal n
    | .never => throw .never
    | _ => pure ()
  return .ofExitCode (← get).status

def asProcess (run : Runner) (body : Sh Unit) : Sh WaitStatus := do
  spend processCost
  modify Session.clearJob
  let s ← get
  set s.forked
  let status ← ending run body
  modify fun t => { t with toShellState := s.toShellState }
  let time := (← get).clock
  noticeEnds fun b => decide (b.finish ≤ time)
  tellOfChild
  return status

/-- Lets something write to a buffer of its own in place of standard output, and yields
what has been written once nobody can write to it any more. -/
def gather {α : Type} (body : Sh α) : Sh (α × Bytes) := do
  let s ← get
  let sink := Sink.buffer s.buffers.length
  set { s with buffers := [] :: s.buffers }
  modify fun t => t.withDescriptor 1 sink
  let a ← body
  waitUntil ((← get).heldUntil sink)
  let t ← get
  let written := Written.gathered (t.buffers.headD [])
  set { t with buffers := t.buffers.tail, descriptors := s.descriptors }
  return (a, written)

def outermost (buffers : List (List Written)) (n : Nat) : List (List Written) :=
  buffers.drop (buffers.length - n)

/-- Carries something out that may never come to an end, on which only a share of the
steps is spent. Tells whether it ended. -/
def attempt (body : Sh Unit) : Sh Bool := do
  let s ← get
  let share := s.steps / 2
  set { s with steps := s.steps - share }
  let ended ← try
      body
      pure true
    catch
      | .never => pure false
      | h => throw h
  modify fun t => { t with
    steps := t.steps + share
    buffers := outermost t.buffers s.buffers.length }
  return ended

def settle (process time : Nat) (status : WaitStatus) (bs : List Background) :
    List Background :=
  bs.map fun b =>
    if b.process == process then { b with finish := time, status := status } else b

/-- Leaves something in the background. It starts a moment later. -/
def runBackground (run : Runner) (pipes : Nat) (opening body : Sh Unit) : Sh Unit := do
  modify Session.clearJob
  let s ← get
  set { s.forked.withDescriptor 0 (.device .null) with clock := s.clock + 1 }
  let process := s.nextProcess
  let body : Sh Unit := do
    opening
    let inner ← get
    set { inner with background := ⟨process, forever, .ofExitCode 0, inner.sinks, false⟩ ::
      inner.background }
    let status ← ending run body
    modify fun t => { t with background := settle process t.clock status t.background }
  let _ ← attempt body
  modify fun t => { t with
    toShellState := { s.toShellState with
      children := process :: s.children
      jobs := ⟨s.freeNumber, process, false, pipes⟩ :: s.jobs
      status := 0 }
    clock := s.clock }

def isUsedUp (number : Nat) : Sh Bool := do
  match (← get).inputs.find? fun i => i.1 == number with
  | some (_, i) => return i.rest.isEmpty
  | none => return true

/-- Lets something write what something else reads at the same time. A source without
end is given up as soon as nobody reads from it. -/
def runPipe (run : Runner) (source target : Sh Unit) : Sh WaitStatus := do
  let s ← get
  let sink := Sink.buffer s.buffers.length
  set { s with buffers := [] :: s.buffers }
  let ended ← attempt do
    modify fun t => t.withDescriptor 1 sink
    let _ ← asProcess run source
  let t ← get
  if !ended && decide (s.deadline ≤ t.clock) then throw .never
  let written := Written.gathered (t.buffers.headD [])
  let ready := if ended then max t.clock (t.heldUntil sink) else s.clock
  set { t with
    toShellState := s.toShellState
    buffers := t.buffers.tail
    clock := s.clock }
  let number ← addInput ⟨octetsOf written, ready⟩
  modify fun u => u.withDescriptor 0 (.input number)
  let status ← asProcess run target
  if !ended && (← isUsedUp number) then throw .never
  modify fun u => { u with descriptors := s.descriptors }
  if ended then waitUntil t.clock
  return status

/-!
## Looking programs up

A name with a slash in it is a path. Any other name is looked up in the folders
of the search path, and the first file of that name is taken.
-/

/-- Why a program cannot be started: the status that this leaves and the reason. -/
structure Unstartable where
  status : Nat
  reason : String
deriving DecidableEq, Repr

namespace Unstartable

def missing : Unstartable := ⟨127, "not found"⟩

def forbidden : Unstartable := ⟨126, SystemError.permissionDenied.text⟩

def ofError : FileError → Unstartable
  | .system e =>
    if e = .notFound ∨ e = .notADirectory then missing
    else if e = .nameTooLong then ⟨127, e.text⟩
    else ⟨126, e.text⟩
  | _ => missing

def said (u : Unstartable) : String :=
  if u.status = 127 ∧ u.reason ≠ SystemError.nameTooLong.text then SystemError.notFound.text
  else u.reason

end Unstartable

namespace Session

def programAt (s : Session) (path : String) : Except Unstartable Program :=
  match s.files.nodeAt true s.folder (readable path) with
  | .error e => .error (.ofError e)
  | .ok n =>
    match n.program? with
    | some p => .ok p
    | none => .error .forbidden

def searchPaths (s : Session) (name : String) : List String :=
  ((s.getD "PATH").splitOn ":").map fun folder =>
    octets (Path.join (readable folder) (readable name))

def searchFile? (s : Session) (name : String) : Option String :=
  (s.searchPaths name).find? fun path => s.files.isFile s.folder (readable path)

def locate? (s : Session) (name : String) : Option String :=
  if name.contains '/' then
    if s.files.exists? s.folder (readable name) then some name else none
  else s.searchFile? name

def keepFound (s : Session) (name : String) : Session :=
  if name.contains '/' then s
  else
    match s.searchFile? name with
    | some path =>
      let f : Found := ⟨name, path, false⟩
      { s with found :=
          if s.found.any fun g => g.name == name then
            s.found.map fun g => if g.name == name then f else g
          else s.found ++ [f] }
    | none => s

def findProgram (s : Session) (name : String) : Except Unstartable Program :=
  if name = "" then .error ⟨127, SystemError.permissionDenied.text⟩
  else if name.contains '/' then s.programAt name
  else
    match (s.searchPaths name).find? fun path => (s.programAt path).toBool with
    | some path => s.programAt path
    | none => .error (if (s.searchFile? name).isSome then .forbidden else .missing)

end Session

end Assay.Shell
