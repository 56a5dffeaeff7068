import Assay.Shell.Builtin.Basic
import Assay.Shell.Redirect

/-!
# Commands that lead elsewhere

Loops are left, functions and scripts come back, texts are carried out, and
signals are sent, waited for and prepared for.
-/

set_option autoImplicit false

namespace Assay.Shell

def loopCount : List String → Sh Nat
  | [] => return min 1 (← get).loops
  | a :: _ => do
    let n ← requireNumber a
    if n = 0 then badNumber a
    return min n (← get).loops

def jump (halt : Nat → Halt) (arguments : List String) : Sh Nat := do
  let n ← loopCount (← withoutOptions arguments)
  setStatus 0
  if n = 0 then return 0 else throw (halt n)

/-- Sets the status that a command leaves behind: a given one, or the last. -/
def leaveStatus : List String → Sh Unit
  | [] => return
  | a :: _ => do setStatus (← requireNumber a)

def comeBack (arguments : List String) : Sh Nat := do
  leaveStatus arguments
  throw .back

def exit (arguments : List String) : Sh Nat := do
  leaveStatus arguments
  modify fun s => { s with status := s.status % 256 }
  throw .exit

def eval (run : Runner) (mode : Mode) (arguments : List String) : Sh Nat := do
  let text := String.intercalate " " arguments
  if text.toList.all isArithmeticBlank then return 0
  runText run { mode with last := false } text
  return (← get).status

def source (run : Runner) (mode : Mode) (arguments : List String) : Sh Nat := do
  match ← withoutOptions arguments with
  | [] => return 0
  | name :: _ =>
    let s ← get
    let path ← if name.contains '/' then pure name
      else
        match (((s.getD "PATH").splitOn ":").map fun f => f ++ "/" ++ name).find? fun path =>
          s.files.isFile s.folder (readable path) with
        | some path => pure path
        | none => abort (name ++ ": not found")
    match s.files.readBytes s.folder (readable path) with
    | .error (.system .isADirectory) => return 0
    | .error e => abort (cannotOpen path e)
    | .ok bytes =>
      try
        underName path (runText run { mode with last := false } (String.ofList (octetsOf bytes)))
      catch
        | .back => pure ()
        | h => throw h
      let status := (← get).status
      return if bytes.isEmpty then 0 else status

def signalNumber? (text : String) : Option Nat :=
  match if text.all Char.isDigit then text.toNat? else none with
  | some n => if n < 65 then some n else none
  | none =>
    match WaitStatus.signalNames.findIdx? (· == text.toUpper) with
    | some i => if i = 15 then none else some (i + 1)
    | none => if text.toUpper = "EXIT" then some 0 else none

def signalName (n : Nat) : String :=
  if n = 0 then "EXIT"
  else if n = 16 then "16"
  else if n = 34 then "RTMIN"
  else if n = 64 then "RTMAX"
  else if 34 < n ∧ n < 50 then "RTMIN+" ++ toString (n - 34)
  else if 50 ≤ n ∧ n < 64 then "RTMAX-" ++ toString (64 - n)
  else (WaitStatus.signalName? n).getD (toString n)

def setTraps (action : Option String) : List String → Sh Nat
  | [] => return 0
  | name :: rest => do
    match signalNumber? name with
    | some n =>
      modify fun s => s.setTrap n action
      setTraps action rest
    | none =>
      note ("trap: " ++ name ++ ": bad trap\n")
      return 1

/-- Lays down what is done when signals come, or shows what has been laid down. -/
def trapCommand (arguments : List String) : Sh Nat := do
  match ← withoutOptions arguments with
  | [] =>
    let traps := (← get).traps.mergeSort fun a b => decide (a.1 ≤ b.1)
    putLines (traps.map fun t => "trap -- " ++ singleQuoted t.2 ++ " " ++ signalName t.1)
  | [name] => setTraps none [name]
  | action :: names =>
    if (signalNumber? action).isSome then setTraps none (action :: names)
    else setTraps (if action = "-" then none else some action) names

def killUsage {α : Type} : Sh α :=
  abort ("Usage: kill [-s sigspec | -signum | -sigspec] [pid | job]... or\n" ++
    "kill -l [exitstatus]")

def jobOf (text : String) : Sh Job := do
  let s ← get
  let found := fun (fault : String) (j : Option Job) => match j with
    | some j => pure j
    | none => abort fault
  match text.toList with
  | ['%'] => found "No current job" s.jobs.head?
  | ['%', c] =>
    if c = '%' ∨ c = '+' then found "No current job" s.jobs.head?
    else if c = '-' then found "No previous job" (s.jobs[1]?)
    else found ("No such job: " ++ text) (numbered s (String.singleton c))
  | _ => found ("No such job: " ++ text) (numbered s (text.drop 1).toString)
where
  numbered (s : Session) (text : String) : Option Job :=
    (if text.all Char.isDigit then text.toNat? else none).bind fun n => s.jobs.find? fun j => j.number == n

def targetProcess (target : String) : Sh Nat := do
  let s ← get
  match target.toList with
  | '%' :: _ => do
    let _ ← jobOf target
    return 0
  | '-' :: cs => requireNumber (String.ofList cs)
  | _ =>
    let n ← requireNumber target
    return if n = 0 then s.process else n

def sendAll (signal status : Nat) : List String → Sh Nat
  | [] => return status
  | target :: rest => do
    let process ← targetProcess target
    if process ≠ 0 && (← sendSignal signal process) then sendAll signal status rest
    else
      complain (SystemError.noProcess.text ++ "\n")
      sendAll signal 1 rest

def listSignals : List String → Sh Nat
  | [] => putLines ("0" :: (List.range 64).map fun n => signalName (n + 1))
  | text :: _ => do
    let n ← requireNumber text
    let signal := if 128 < n then n - 128 else n
    if 0 < signal ∧ signal < 65 then putLines [signalName signal]
    else abort ("invalid signal number or exit status: " ++ text)

def killCommand (arguments : List String) : Sh Nat := do
  let send := fun (signal : Nat) (targets : List String) =>
    if targets.isEmpty then killUsage else sendAll signal 0 targets
  match arguments with
  | [] => killUsage
  | first :: targets =>
    match first.toList with
    | '-' :: cs =>
      match if cs.isEmpty then none else signalNumber? (String.ofList cs) with
      | some n => send n targets
      | none =>
        let (options, targets) ← optionsOf "ls:" arguments
        if options.any fun o => o.1 == 'l' then listSignals targets
        else
          match options.getLast? with
          | some (_, name) =>
            match signalNumber? name with
            | some n => send n targets
            | none => abort ("invalid signal number or name: " ++ name)
          | none => send 15 targets
    | _ => send 15 arguments

def waitForJob (j : Job) : Sh Nat := do
  match (← get).background.find? fun b => b.process == j.process with
  | none => return 127
  | some b =>
    waitUntil b.finish
    noticeEnds fun c => c.process == j.process
    if !b.noticed then tellOfChild
    modify fun s => { s with
      jobs := s.jobs.map fun (k : Job) =>
        if k.number = j.number then { k with waited := true } else k }
    match (← get).background.find? fun c => c.process == j.process with
    | some c => if b.noticed then return statusOf c.status else report c.status
    | none => return 127

def waitEach (status : Nat) : List String → Sh Nat
  | [] => return status
  | target :: rest => do
    if target.startsWith "%" then waitEach (← waitForJob (← jobOf target)) rest
    else
      let process ← requireNumber target
      match (← get).jobs.find? fun j => j.process == process with
      | some j => waitEach (← waitForJob j) rest
      | none => waitEach status rest

def waitCommand (arguments : List String) : Sh Nat := do
  match ← withoutOptions arguments with
  | [] =>
    let s ← get
    waitUntil (s.background.foldl (fun time b =>
      if s.jobs.any fun j => j.process == b.process then max time b.finish else time) 0)
    noticeEnds fun _ => true
    tellOfChild
    modify fun s => { s with jobs := s.jobs.map fun (j : Job) => { j with waited := true } }
    return 0
  | targets => waitEach 127 targets

def progress (b : Background) : String :=
  if !b.noticed then "Running"
  else
    match b.status.signal?, b.status.code? with
    | some n, _ => signalText n
    | none, some 0 => "Done"
    | none, code => "Done(" ++ toString (code.getD 0) ++ ")"

def jobLine (s : Session) (withProcess : Bool) (j : Job) : String :=
  let isAt := fun (n : Nat) => (s.jobs[n]?).any fun k => k.number == j.number
  let front := "[" ++ toString j.number ++ "] " ++
    (if isAt 0 then "+ " else if isAt 1 then "- " else "  ") ++
    (if withProcess then toString j.process ++ " " else "") ++
    ((s.background.find? fun b => b.process == j.process).map progress).getD ""
  front ++ String.ofList (List.replicate (33 - front.length) ' ') ++
    String.join (List.replicate j.pipes " | ")

def showJobs (form : Option Char) : List Job → Sh Nat
  | [] => return 0
  | j :: rest => do
    let s ← get
    let _ ← putLines [if form = some 'p' then toString j.process else jobLine s form.isSome j]
    if form ≠ some 'p' && s.isNoticed j then
      modify fun t => { t with jobs := t.jobs.filter fun k => k.number != j.number }
    showJobs form rest

def jobsCommand (arguments : List String) : Sh Nat := do
  let (options, words) ← optionsOf "lp" arguments
  let time := (← get).clock
  noticeEnds fun b => decide (b.finish ≤ time)
  let jobs ← if words.isEmpty then pure (← get).jobs else words.mapM jobOf
  showJobs (options.getLast?.map Prod.fst) jobs

def bringJob (arguments : List String) : Sh Nat := do
  let name := (← withoutOptions arguments).head?
  let _ ← jobOf (name.getD "%")
  abort ("job " ++ name.getD "(null)" ++ " not created under job control")

def flowBuiltins : List Builtin := [
  .special "break" (jump .leave),
  .special "continue" (jump .again),
  .special "return" comeBack,
  .special "exit" exit,
  ⟨"eval", true, false, eval⟩,
  ⟨".", true, false, source⟩,
  .special "trap" trapCommand,
  .plain "kill" killCommand,
  .plain "wait" waitCommand,
  .plain "jobs" jobsCommand,
  .plain "fg" bringJob,
  .plain "bg" bringJob]

end Assay.Shell
