/-!
# Outcomes

What one invocation of the interpreter leaves behind before any comparison:
its trimmed output, or a failure of one of four kinds with its diagnostic.

A wait status packs into one word how a process ended: its exit code, or the
signal that ended or stopped it. Success is the word zero.
-/

set_option autoImplicit false

namespace Assay

structure WaitStatus where
  raw : Int32
deriving DecidableEq, Repr

/-- What a wait status says. -/
inductive ProcessState where
  | exited (code : Nat)
  | signaled (signal : Nat) (coreDumped : Bool)
  | stopped (signal : Nat)
  | continued
  | unrecognised
deriving DecidableEq, Repr

namespace WaitStatus

def ofExitCode (code : Nat) : WaitStatus := ⟨Int32.ofNat (code % 256 * 256)⟩

def ofSignal (signal : Nat) : WaitStatus := ⟨Int32.ofNat (signal % 128)⟩

def bits (s : WaitStatus) : Nat := s.raw.toUInt32.toNat

def isSuccess (s : WaitStatus) : Bool := s.raw == 0

def state (s : WaitStatus) : ProcessState :=
  let low := s.bits % 0x80
  let second := s.bits / 0x100 % 0x100
  if low = 0 then .exited second
  else if low < 0x7f then .signaled low (s.bits / 0x80 % 2 = 1)
  else if s.bits % 0x100 = 0x7f then .stopped second
  else if s.bits = 0xffff then .continued
  else .unrecognised

def code? (s : WaitStatus) : Option Nat :=
  match s.state with
  | .exited code => some code
  | _ => none

def signal? (s : WaitStatus) : Option Nat :=
  match s.state with
  | .signaled n _ => some n
  | _ => none

def signalNames : List String := [
  "HUP", "INT", "QUIT", "ILL", "TRAP", "ABRT", "BUS", "FPE", "KILL", "USR1", "SEGV",
  "USR2", "PIPE", "ALRM", "TERM", "STKFLT", "CHLD", "CONT", "STOP", "TSTP", "TTIN",
  "TTOU", "URG", "XCPU", "XFSZ", "VTALRM", "PROF", "WINCH", "IO", "PWR", "SYS"
]

def signalName? : Nat → Option String
  | 0 => none
  | n + 1 => signalNames[n]?

def describeSignal (n : Nat) : String :=
  match signalName? n with
  | some name => toString n ++ " (SIG" ++ name ++ ")"
  | none => toString n

def hexText (n : Nat) : String := "0x" ++ String.ofList (Nat.toDigits 16 n)

def describe (s : WaitStatus) : String :=
  match s.state with
  | .exited code => "exit status: " ++ toString code
  | .signaled n core =>
    "signal: " ++ describeSignal n ++ (if core then " (core dumped)" else "")
  | .stopped n => "stopped (not terminated) by signal: " ++ describeSignal n
  | .continued => "continued (WIFCONTINUED)"
  | .unrecognised =>
    "unrecognised wait status: " ++ toString s.raw.toInt ++ " " ++ hexText s.bits

end WaitStatus

inductive FailureReason where
  | nonZeroExit
  | timeout
  | spawn
  | capture
deriving DecidableEq, Repr

structure InvocationFailure where
  reason : FailureReason
  message : String
deriving DecidableEq, Repr

inductive Outcome where
  | output (text : String)
  | failed (failure : InvocationFailure)
deriving DecidableEq, Repr

namespace Outcome

def output? : Outcome → Option String
  | output text => some text
  | failed _ => none

def timedOut : Outcome := failed ⟨.timeout, "Timeout"⟩

def notSpawned (message : String) : Outcome := failed ⟨.spawn, message⟩

def streamBroken (stream message : String) : Outcome :=
  failed ⟨.capture, "Failed to read " ++ stream ++ ": " ++ message⟩

end Outcome

end Assay
