import Assay.CommandLine.Request
import Assay.Host.Interpreter
import Assay.Report.Page
import Assay.Report.Structured
import Assay.Suite.Plan
import Assay.Suite.Run

/-!
# Running the benchmarks

A run is first prepared, in stages of which each may fail, and nothing is
printed or started before all of them have passed. Then the planned documents
are run, the results are printed, and the page is written last.
-/

set_option autoImplicit false

namespace Assay

/-- What carrying out a command leaves behind, and the locale it ended in. -/
structure CommandRun where
  host : Host
  calls : Array Call
  printed : String
  locale : Locale
  result : Except Problem Bool

/-- The surroundings of a command that are not files: how processes run, how many
processors there are, and what time it is. -/
structure Machine where
  spawn : Spawner
  processors : Nat
  time : String

def Settings.override (s : Settings) (r : RunRequest) : Settings where
  language := r.language.or s.language
  testsDir := r.testsDir.getD s.testsDir
  binaryName := s.binaryName
  binary := r.interpreter.or s.binary
  timeoutSecs := r.timeoutSecs.getD s.timeoutSecs
  jobs := r.jobs.getD s.jobs

/-- Everything that is known of a run before its first case is started. -/
structure Preparation where
  root : String
  settings : Settings
  locale : Locale
  interpreter : String
  testsDir : String
  plan : Plan
deriving DecidableEq, Repr

namespace Preparation

def blame {α : Type} (locale : Locale) : Except Problem α → Except (Locale × Problem) α
  | .ok a => .ok a
  | .error p => .error (locale, p)

def make (h : Host) (locale : Locale) (r : RunRequest) :
    Except (Locale × Problem) Preparation := do
  let root ← blame locale (h.projectRoot r.projectRoot)
  let loaded ← blame locale (Settings.load h root r.settings)
  let settings := loaded.override r
  let locale := Locale.resolve settings.language h.environment
  if settings.timeoutSecs = 0 then throw (locale, .timeoutTooShort)
  let interpreter ← blame locale (h.locate root settings.binary settings.binaryName)
  let testsDir := settings.testsDirIn root
  let plan ← blame locale (Plan.make h testsDir r.category)
  return ⟨root, settings, locale, interpreter, testsDir, plan⟩

def process (p : Preparation) : Interpreter :=
  ⟨p.interpreter, p.root, p.settings.timeoutSecs.toNat * 1000⟩

def invoker (p : Preparation) (m : Machine) : Invoker := p.process.invoker m.spawn

def options (p : Preparation) (m : Machine) (look : Look) (r : RunRequest) : RunOptions where
  look := look
  verbose := r.verbose && !r.json
  jobs := p.settings.jobs
  processors := m.processors

def heading (p : Preparation) (look : Look) : String :=
  Console.printed (look.paint .cyan (look.say (.usingInterpreter p.interpreter))) ++
    Console.printed (look.paint .cyan
      (look.say (.categoriesFound p.plan.files.length p.testsDir)))

end Preparation

def resultText (look : Look) (r : RunRequest) (s : RunSummary) : String :=
  if r.json then Console.printed s.structuredReport
  else Console.printed (Console.summary look s) ++ Console.printedFailures look s

def writePage (h : Host) (m : Machine) (look : Look) (r : RunRequest) (s : RunSummary) :
    Except Problem (Host × String) :=
  match r.page with
  | none => .ok (h, "")
  | some path =>
    match h.writeText path (Page.report look.locale m.time s) with
    | .error e => .error (.pageUnwritable path e)
    | .ok h =>
      .ok (h, if r.json then ""
        else Console.printed (look.paint .green (look.say (.pageWritten path))))

def Preparation.conclude (p : Preparation) (m : Machine) (colour : Bool) (r : RunRequest)
    (run : SuiteRun) : CommandRun :=
  let look : Look := ⟨p.locale, colour⟩
  let heading := if r.json then "" else p.heading look
  match run.problem with
  | some problem => ⟨run.host, run.calls, heading ++ run.printed, p.locale, .error problem⟩
  | none =>
    let printed := heading ++ run.printed ++ resultText look r run.summary
    match writePage run.host m look r run.summary with
    | .error problem => ⟨run.host, run.calls, printed, p.locale, .error problem⟩
    | .ok (h, note) => ⟨h, run.calls, printed ++ note, p.locale, .ok run.summary.isSuccess⟩

def Preparation.carryOut (p : Preparation) (h : Host) (m : Machine) (colour : Bool)
    (r : RunRequest) : CommandRun :=
  p.conclude m colour r (runFiles h (p.invoker m) (p.options m ⟨p.locale, colour⟩ r) p.plan.files)

def RunRequest.carryOut (r : RunRequest) (h : Host) (m : Machine) (look : Look) : CommandRun :=
  match Preparation.make h look.locale r with
  | .error (locale, problem) => ⟨h, #[], "", locale, .error problem⟩
  | .ok p => p.carryOut h m look.colour r

end Assay
