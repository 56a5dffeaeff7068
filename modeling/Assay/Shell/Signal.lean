import Assay.Shell.Session

/-!
# Reading and signals

What a process waits for: texts that are not there yet, and signals.
-/

set_option autoImplicit false

namespace Assay.Shell

/-!
## Reading

What a descriptor leads to is read from where it was left. A text that is not
there yet is waited for. What has been taken without need is given back where
that is possible.
-/

def manyZeros : List Char := List.replicate 65536 '\x00'

def readFault? (sink : Option Sink) : Sh (Option SystemError) := do
  let s ← get
  match sink with
  | some (.file n) =>
    match s.opened? n with
    | some f =>
      if !f.forReading then return some .badDescriptor
      else if (s.contentOf? f).isNone then return some .isADirectory
      else return none
    | none => return some .badDescriptor
  | some (.input _) | some (.device _) => return none
  | _ => return some .badDescriptor

def remaining (sink : Option Sink) : Sh (List Char) := do
  match sink with
  | some (.input n) =>
    match (← get).inputs.find? fun i => i.1 == n with
    | some (_, i) =>
      waitUntil i.ready
      return i.rest
    | none => return []
  | some (.file n) =>
    let s ← get
    match s.opened? n with
    | some f =>
      if f.forReading then return octetsOf (((s.contentOf? f).getD []).drop f.offset)
      else return []
    | none => return []
  | some (.device .zeros) | some (.device .full) => return manyZeros
  | _ => return []

def leave (sink : Option Sink) (rest : List Char) : Sh Unit :=
  modify fun s =>
    match sink with
    | some (.input n) =>
      { s with
        inputs := s.inputs.map fun i => if i.1 == n then (n, { i.2 with rest := rest }) else i }
    | some (.file n) =>
      match s.opened? n with
      | some f =>
        let size := ((s.contentOf? f).getD []).length
        s.reopen n
          { f with offset := if rest.isEmpty then max f.offset size else size - rest.length }
      | none => s
    | _ => s

def take (sink : Option Sink) : Sh (List Char) := do
  let rest ← remaining sink
  leave sink []
  return rest

def Sink.isEndless : Option Sink → Bool
  | some (.device .zeros) | some (.device .full) => true
  | _ => false

def Sink.isSeekable : Option Sink → Bool
  | some (.file _) => true
  | _ => false

def standardInput : Sh (Option Sink) := do return (← get).sink? 0

def remainingInput : Sh (List Char) := do remaining (← standardInput)

def leaveInput (rest : List Char) : Sh Unit := do leave (← standardInput) rest

def takeInput : Sh (List Char) := do take (← standardInput)

def addInput (i : Input) : Sh Nat := do
  let s ← get
  set { s with inputs := (s.nextNumber, i) :: s.inputs, nextNumber := s.nextNumber + 1 }
  return s.nextNumber

def addFile (f : OpenFile) : Sh Sink := do
  let s ← get
  set { s with opened := (s.nextNumber, f) :: s.opened, nextNumber := s.nextNumber + 1 }
  return .file s.nextNumber

def dropInputs (number : Nat) : Sh Unit := do
  let s ← get
  if number < s.nextNumber then
    let isHeld := fun (n : Nat) (sink : Sink) =>
      decide (n < number) || s.descriptors.any fun d => d.2 == sink
    set { s with
      inputs := s.inputs.filter fun i => isHeld i.1 (.input i.1)
      opened := s.opened.filter fun f => isHeld f.1 (.file f.1) }

/-!
## Signals

A signal goes to a process by its number. The process that is running takes it
at once; one that waits for it takes it when it goes on; and one in the
background ends.
-/

def signalTexts : List String := [
  "Hangup", "Interrupt", "Quit", "Illegal instruction", "Trace/breakpoint trap", "Aborted",
  "Bus error", "Floating point exception", "Killed", "User defined signal 1",
  "Segmentation fault", "User defined signal 2", "Broken pipe", "Alarm clock", "Terminated",
  "Stack fault", "Child exited", "Continued", "Stopped (signal)", "Stopped",
  "Stopped (tty input)", "Stopped (tty output)", "Urgent I/O condition",
  "CPU time limit exceeded", "File size limit exceeded", "Virtual timer expired",
  "Profiling timer expired", "Window changed", "I/O possible", "Power failure",
  "Bad system call"]

def signalText (n : Nat) : String :=
  if 34 ≤ n ∧ n ≤ 64 then "Real-time signal " ++ toString (n - 34)
  else
    match n with
    | 0 => "Unknown signal 0"
    | k + 1 => (signalTexts[k]?).getD ("Unknown signal " ++ toString n)

def ignoredSignals : List Nat := [17, 18, 23, 28]

def stoppingSignals : List Nat := [19, 20, 21, 22]

def firmSignals : List Nat := [9, 19]

def silentSignals : List Nat := [2, 13]

/-- The status that a process leaves behind: that of a signal follows 128. -/
def statusOf (w : WaitStatus) : Nat :=
  match w.signal? with
  | some n => 128 + n
  | none => (w.code?).getD 0

def report (w : WaitStatus) : Sh Nat := do
  match w.signal? with
  | some n => if !silentSignals.contains n then note (signalText n ++ "\n")
  | none => pure ()
  return statusOf w

namespace Session

def trap? (s : Session) (signal : Nat) : Option String :=
  (s.traps.find? fun t => t.1 == signal).map Prod.snd

def setTrap (s : Session) (signal : Nat) (action : Option String) : Session :=
  let others := s.traps.filter fun t => t.1 != signal
  match action with
  | some text => { s with traps := others ++ [(signal, text)] }
  | none => { s with traps := others }

def silence (process time : Nat) (ws : List Written) : List Written :=
  ws.filter fun w => w.process != process || decide (w.time ≤ time)

def endBackground (s : Session) (process signal : Nat) : Session :=
  { s with
    stdout := silence process s.clock s.stdout
    stderr := silence process s.clock s.stderr
    buffers := s.buffers.map (silence process s.clock)
    background := s.background.map fun b =>
      if b.process == process && decide (s.clock < b.finish) then
        { b with finish := s.clock, status := .ofSignal signal }
      else b }

end Session

def takeSignal (signal : Nat) : Sh Unit := do
  let s ← get
  match if firmSignals.contains signal then none else s.trap? signal with
  | some "" => return
  | some _ => set { s with received := s.received ++ [(s.process, signal)] }
  | none =>
    if ignoredSignals.contains signal then return
    if stoppingSignals.contains signal then standStill
    throw (.killed signal)

def noticeEnds (ended : Background → Bool) : Sh Unit :=
  modify fun s => { s with
    background := s.background.map fun b =>
      if s.children.contains b.process && ended b then { b with noticed := true } else b }

namespace Session

def isNoticed (s : Session) (j : Job) : Bool :=
  s.background.any fun b => b.process == j.process && b.noticed

def isSpent (s : Session) (number : Nat) : Bool :=
  match s.jobs.find? fun j => j.number == number with
  | some j => j.waited && s.isNoticed j
  | none => true

def freeNumber (s : Session) : Nat :=
  ((List.range s.jobs.length).find? fun n => s.isSpent (n + 1)).getD s.jobs.length + 1

def clearJob (s : Session) : Session :=
  { s with jobs := s.jobs.filter fun j => j.number != s.freeNumber }

end Session

/-- Tells the running process that one which it has started has ended, if it wants to know. -/
def tellOfChild : Sh Unit := do
  if ((← get).trap? 17).isSome then takeSignal 17

def sendSignal (signal process : Nat) : Sh Bool := do
  let s ← get
  if process = s.process then
    if signal ≠ 0 then takeSignal signal
    return true
  else if s.above.contains process then
    if signal ≠ 0 then set { s with received := s.received ++ [(process, signal)] }
    return true
  else if s.background.any fun b => b.process == process && !b.noticed then
    if signal ≠ 0 && !ignoredSignals.contains signal then set (s.endBackground process signal)
    return true
  else return false

end Assay.Shell
