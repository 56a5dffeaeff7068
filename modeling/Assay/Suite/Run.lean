import Assay.Host.Load
import Assay.Suite.Schedule

/-!
# Running a suite

The documents of a suite are run one after the other, each loaded from the host
that those before it have left. The first one that cannot be loaded ends the
run, whatever came before it; a case that fails does not.
-/

set_option autoImplicit false

namespace Assay

/-- What running documents has done so far, and what stopped it. -/
structure SuiteRun where
  calls : Array Call
  printed : String
  summary : RunSummary
  problem : Option Problem
  host : Host
deriving DecidableEq, Repr

namespace SuiteRun

def start (h : Host) : SuiteRun := ⟨#[], "", .empty, none, h⟩

def absorb (r : SuiteRun) (s : Schedule) : SuiteRun :=
  { r with
    calls := r.calls ++ s.calls
    printed := r.printed ++ s.printed
    summary := r.summary.absorb s.category
    host := s.host }

end SuiteRun

def runFilesFrom (invoke : Invoker) (o : RunOptions) : SuiteRun → List String → SuiteRun
  | r, [] => r
  | r, file :: files =>
    match Document.load r.host file with
    | .error p => { r with problem := some p }
    | .ok d => runFilesFrom invoke o (r.absorb (runDocument invoke o r.host d)) files

def runFiles (h : Host) (invoke : Invoker) (o : RunOptions) (files : List String) : SuiteRun :=
  runFilesFrom invoke o (.start h) files

end Assay
