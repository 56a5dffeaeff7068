import Assay.Invocation.Interpreter
import Assay.Shell.Start

/-!
# Starting processes

A host starts those programs that stand in its file tree. The run of one is
worked out at once, with the times at which it exits and at which its streams
end; the deadline cuts off what comes later.
-/

set_option autoImplicit false

namespace Assay

namespace Host

/-- Folders in which a bare name is looked for where the environment names none. -/
def usualFolders : String := "/bin:/usr/bin"

def programAt (h : Host) (path : String) : Except FileError Program :=
  match h.files.nodeAt true h.folder path with
  | .error e => .error e
  | .ok n =>
    match n.program? with
    | some p => .ok p
    | none => .error (.system .permissionDenied)

/-- The first program among some paths. What stands in its place but cannot be started
is remembered. -/
def firstProgram (h : Host) (problem : FileError) : List String → Except FileError Program
  | [] => .error problem
  | path :: rest =>
    match h.programAt path with
    | .ok p => .ok p
    | .error (.system e) =>
      if e = .permissionDenied then h.firstProgram (.system e) rest
      else h.firstProgram problem rest
    | .error _ => h.firstProgram problem rest

def program (h : Host) (name : String) : Except FileError Program :=
  if name = "" then .error .notFound
  else if name.contains '/' then h.programAt name
  else
    let folders := ((h.environment.get? "PATH").getD usualFolders).splitOn ":"
    h.firstProgram .notFound (folders.map fun f => Path.join f name)

end Host

def argumentLimit : Nat := 131072

/-- A run that has been worked out, with times in ticks. The exit is absent where the
process goes on. -/
structure Trace where
  stdout : Bytes
  stderr : Bytes
  exit : Option (Nat × WaitStatus)
  stdoutEnd : Nat
  stderrEnd : Nat
deriving DecidableEq, Repr

namespace Trace

open Shell in
def ofSession (s : Session) (status : Option WaitStatus) : Trace where
  stdout := Written.gathered s.stdout
  stderr := Written.gathered s.stderr
  exit := status.map fun w => (s.clock, w)
  stdoutEnd := max s.clock (s.heldUntil (.stream .stdout))
  stderrEnd := max s.clock (s.heldUntil (.stream .stderr))

def ends (t : Trace) : List (Nat × RunEvent) :=
  match t.exit with
  | none => []
  | some (time, status) =>
    [(time, .exit status), (t.stdoutEnd, .streamEnd .stdout),
      (t.stderrEnd, .streamEnd .stderr)].mergeSort fun a b => decide (a.1 ≤ b.1)

def events (t : Trace) (deadline : Nat) : List RunEvent :=
  [.chunk .stdout t.stdout, .chunk .stderr t.stderr] ++
    ((t.ends.takeWhile fun e => decide (e.1 < deadline)).map Prod.snd) ++ [.deadline]

end Trace

open Shell in
def Host.after (h : Host) (s : Session) : Host :=
  { h with files := s.files, time := s.now + 1000000 }

open Shell in
def Host.trace (h : Host) (p : Program) (name : String) (arguments : List String)
    (deadline : Nat) : Trace × Host :=
  let run := perform depthLimit
  let work := Work.program p (octets name) (arguments.map octets)
  match (ending run (run work)).run (.initial h name deadline) with
  | .ok status s => (.ofSession s (some status), h.after s)
  | .error _ s => (.ofSession s none, h.after s)

def Host.spawn : Spawner := fun r h =>
  if (r.program :: r.arguments).any Path.holdsNul then
    ([.spawnError "nul byte found in provided data"], h)
  else
    match h.program r.program with
    | .error e => ([.spawnError e.message], h)
    | .ok p =>
      if r.arguments.any fun a => decide (argumentLimit ≤ a.utf8ByteSize) then
        ([.spawnError (SystemError.mk 7).message], h)
      else
        let deadline := r.timeoutMillis * Shell.ticks
        let (trace, h) := h.trace p r.program r.arguments deadline
        (trace.events deadline, h)

end Assay
