import Assay.Host.Basic
import Assay.Value

/-!
# Interpreters

An interpreter is started on a program file, which is looked up below the
project root, and on the text forms of the arguments. What starting a process
makes happen is left open: it is any function on hosts to the events of the run
and the host that it leaves.
-/

set_option autoImplicit false

namespace Assay

/-- A program file with the arguments it is invoked on. -/
abbrev Call := String × List Value

/-- Runs a program file on some arguments, on a host that this may change. -/
abbrev Invoker := String → List Value → Host → Outcome × Host

/-- An invoker whose outcomes depend on the program file and the arguments alone, and
which leaves every host as it is. -/
def Invoker.ofAnswers (answer : String → List Value → Outcome) : Invoker :=
  fun file inputs h => (answer file inputs, h)

structure ProcessRequest where
  program : String
  arguments : List String
  timeoutMillis : Nat
deriving DecidableEq, Repr

abbrev Spawner := ProcessRequest → Host → List RunEvent × Host

structure Interpreter where
  program : String
  root : String
  timeoutMillis : Nat
deriving DecidableEq, Repr

namespace Interpreter

/-- Place of a program file, anchored at the project root. -/
def source (i : Interpreter) (file : String) : String := Path.join i.root file

def request (i : Interpreter) (c : Call) : ProcessRequest :=
  ⟨i.program, i.source c.1 :: c.2.map Value.toText, i.timeoutMillis⟩

def invoker (i : Interpreter) (spawn : Spawner) : Invoker := fun file inputs h =>
  let (events, h) := spawn (i.request (file, inputs)) h
  (Outcome.ofEvents events, h)

end Interpreter

end Assay
