import Assay.Invocation.Outcome
import Assay.Text.Word
import Assay.Text.Utf8

/-!
# Capturing a run

A run shows itself as a sequence of events: pieces of output, the ends of its
two streams, its exit, the deadline. The run is over when it has exited and
both streams have ended or broken, or when the deadline comes first. What was
captured by then decides the outcome.
-/

set_option autoImplicit false

namespace Assay

abbrev Bytes := List UInt8

inductive Stream where
  | stdout
  | stderr
deriving DecidableEq, Repr

namespace Stream

def name : Stream → String
  | stdout => "stdout"
  | stderr => "stderr"

end Stream

inductive RunEvent where
  | spawnError (message : String)
  | waitError (message : String)
  | chunk (stream : Stream) (bytes : Bytes)
  | streamEnd (stream : Stream)
  | streamError (stream : Stream) (message : String)
  | exit (status : WaitStatus)
  | deadline
deriving DecidableEq, Repr

inductive StreamState where
  | reading (sofar : Bytes)
  | ended (all : Bytes)
  | broken (message : String)
deriving DecidableEq, Repr

namespace StreamState

def take : StreamState → Bytes → StreamState
  | reading sofar, bytes => reading (sofar ++ bytes)
  | s, _ => s

def finish : StreamState → StreamState
  | reading sofar => ended sofar
  | s => s

def fail (message : String) : StreamState → StreamState
  | reading _ => broken message
  | s => s

end StreamState

inductive Captured where
  | exited (status : WaitStatus) (stdout stderr : Bytes)
  | timedOut
  | streamBroken (stream : Stream) (message : String)
  | notRun (message : String)
deriving DecidableEq, Repr

/-- A run as far as its events tell. -/
structure Progress where
  status : Option WaitStatus
  stdout : StreamState
  stderr : StreamState
deriving DecidableEq, Repr

namespace Progress

def initial : Progress := ⟨none, .reading [], .reading []⟩

def update (p : Progress) (stream : Stream) (f : StreamState → StreamState) : Progress :=
  match stream with
  | .stdout => { p with stdout := f p.stdout }
  | .stderr => { p with stderr := f p.stderr }

/-- What was captured, once the process has exited and both streams are over. A
broken standard output is named before a broken standard error. -/
def result? (p : Progress) : Option Captured :=
  match p.status with
  | none => none
  | some status =>
    match p.stdout, p.stderr with
    | .reading _, _ => none
    | _, .reading _ => none
    | .broken m, _ => some (.streamBroken .stdout m)
    | .ended _, .broken m => some (.streamBroken .stderr m)
    | .ended out, .ended err => some (.exited status out err)

end Progress

def captureStep (p : Progress) : RunEvent → Progress ⊕ Captured
  | .spawnError m => refuse m
  | .waitError m => refuse m
  | .deadline => .inr .timedOut
  | .chunk stream bytes => .inl (p.update stream (fun s => s.take bytes))
  | .streamEnd stream => settle (p.update stream StreamState.finish)
  | .streamError stream m => settle (p.update stream (StreamState.fail m))
  | .exit status => settle { p with status := p.status.or (some status) }
where
  /-- A process that has exited has been waited for, and nothing else is heard of it. -/
  refuse (m : String) : Progress ⊕ Captured :=
    match p.status with
    | none => .inr (.notRun m)
    | some _ => .inl p
  settle (p : Progress) : Progress ⊕ Captured :=
    match p.result? with
    | some c => .inr c
    | none => .inl p

def captureFrom (p : Progress) : List RunEvent → Option Captured
  | [] => none
  | e :: es =>
    match captureStep p e with
    | .inl q => captureFrom q es
    | .inr c => some c

def capture (events : List RunEvent) : Option Captured := captureFrom .initial events

namespace Outcome

def lossyTrimmed (bytes : Bytes) : String :=
  String.ofList (Text.trimChars (Text.decodeLossy bytes))

/-- Outcome of a finished process. Success yields the trimmed output; anything else
its trimmed diagnostics, or the way it ended when there are none. -/
def ofExit (status : WaitStatus) (stdout stderr : Bytes) : Outcome :=
  if status.isSuccess then output (lossyTrimmed stdout)
  else
    let diagnostics := lossyTrimmed stderr
    failed ⟨.nonZeroExit,
      if diagnostics ≠ "" then diagnostics
      else match status.code? with
        | some code => "Exit code " ++ toString code
        | none => "Process terminated: " ++ status.describe⟩

def ofCaptured : Captured → Outcome
  | .exited status stdout stderr => ofExit status stdout stderr
  | .timedOut => timedOut
  | .streamBroken stream message => streamBroken stream.name message
  | .notRun message => notSpawned message

/-- Outcome of a sequence of events. A run whose events do not end it is one that
the deadline ends. -/
def ofEvents (events : List RunEvent) : Outcome :=
  match capture events with
  | some c => ofCaptured c
  | none => timedOut

end Outcome

end Assay
