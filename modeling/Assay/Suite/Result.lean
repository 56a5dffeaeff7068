import Assay.Invocation.Outcome
import Assay.Value

/-!
# Results

The result of a case holds its verdict and what the interpreter left behind.
Results fold into categories, and categories into the summary of a run; both
keep their counters beside what they count.
-/

set_option autoImplicit false

namespace Assay

structure CaseResult where
  name : String
  passed : Bool
  expected : Value
  actual : Option String
  error : Option String
  reason : Option FailureReason
deriving DecidableEq, Repr

namespace CaseResult

def ofOutcome (name : String) (expected : Value) (outcome : Outcome) (verdict : Bool) :
    CaseResult :=
  match outcome with
  | .output actual => ⟨name, verdict, expected, some actual, none, none⟩
  | .failed f => ⟨name, false, expected, none, some f.message, some f.reason⟩

def actualOrError (r : CaseResult) : String := (r.actual.or r.error).getD ""

def isTimeout (r : CaseResult) : Bool := r.reason == some .timeout

def toJson (r : CaseResult) : Json :=
  .object [
    ("name", .string r.name),
    ("passed", .bool r.passed),
    ("expected", r.expected.toJson),
    ("actual", Json.optional .string r.actual),
    ("error", Json.optional .string r.error)]

end CaseResult

structure CategoryResult where
  name : String
  passed : Nat
  failed : Nat
  results : Array CaseResult
deriving DecidableEq, Repr

namespace CategoryResult

def empty (name : String) : CategoryResult := ⟨name, 0, 0, #[]⟩

def record (c : CategoryResult) (r : CaseResult) : CategoryResult :=
  if r.passed then { c with passed := c.passed + 1, results := c.results.push r }
  else { c with failed := c.failed + 1, results := c.results.push r }

def ofResults (name : String) (results : List CaseResult) : CategoryResult :=
  results.foldl record (empty name)

def total (c : CategoryResult) : Nat := c.passed + c.failed

def failures (c : CategoryResult) : List CaseResult := c.results.toList.filter fun r => !r.passed

theorem results_record (c : CategoryResult) (r : CaseResult) :
    (c.record r).results = c.results.push r := by
  unfold record; split <;> rfl

end CategoryResult

structure RunSummary where
  passed : Nat
  failed : Nat
  categories : Array CategoryResult
deriving DecidableEq, Repr

namespace RunSummary

def empty : RunSummary := ⟨0, 0, #[]⟩

def absorb (s : RunSummary) (c : CategoryResult) : RunSummary :=
  ⟨s.passed + c.passed, s.failed + c.failed, s.categories.push c⟩

def ofCategories (categories : List CategoryResult) : RunSummary :=
  categories.foldl absorb empty

def total (s : RunSummary) : Nat := s.passed + s.failed

def passRate (s : RunSummary) : Binary64 :=
  if s.total = 0 then Binary64.zero false
  else Binary64.div (Binary64.ofNat s.passed) (Binary64.ofNat s.total)

def passPercent (s : RunSummary) : String :=
  (Binary64.mul s.passRate (Binary64.ofNat 100)).toFixed 1 ++ "%"

def isSuccess (s : RunSummary) : Bool := s.failed == 0

def failures (s : RunSummary) : List CaseResult := s.categories.toList.flatMap fun c => c.failures

end RunSummary

end Assay
