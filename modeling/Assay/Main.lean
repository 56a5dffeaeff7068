import Assay.Command.Program
import Assay.Host.Snapshot

/-!
# The command line

The program reads a snapshot of the host it works on from its standard input.
What the command prints is printed; the files that it has changed follow on the
standard error stream as a JSON object.
-/

set_option autoImplicit false

namespace Assay

def assumedProcessors : Nat := 4

partial def readAll (input : IO.FS.Stream) (sofar : String) : IO String := do
  let line ← input.getLine
  if line.isEmpty then return sofar
  readAll input (sofar ++ line)

/-- Carries out the command line on a host, and tells the exit code. -/
def runOn (s : Snapshot) (argv : List String) : IO UInt32 := do
  let r := runProgram s.host ⟨Host.spawn, assumedProcessors, s.time⟩ none false argv
  (← IO.getStdout).putStr r.stdout
  let errors ← IO.getStderr
  errors.putStr r.stderr
  match s.host.changes r.host with
  | .object [] => pure ()
  | changes => errors.putStrLn changes.compact
  return UInt32.ofNat r.exitCode

end Assay

open Assay in
def main (argv : List String) : IO UInt32 := do
  let text ← readAll (← IO.getStdin) ""
  if text.isEmpty then runOn .empty argv
  else
    match Snapshot.ofText text with
    | .ok s => runOn s argv
    | .error f =>
      (← IO.getStderr).putStrLn ("Invalid snapshot: " ++ Problem.documentCause f)
      return 2
