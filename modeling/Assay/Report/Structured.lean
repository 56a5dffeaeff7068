import Assay.Suite.Result

/-!
# Structured report

The structured report is a JSON document: the totals of the run, then each
category with its own totals and its results in order.
-/

set_option autoImplicit false

namespace Assay

namespace CategoryResult

def toJson (c : CategoryResult) : Json :=
  .object [
    ("name", .string c.name),
    ("total", .integer c.total),
    ("passed", .integer c.passed),
    ("failed", .integer c.failed),
    ("tests", .array (c.results.toList.map CaseResult.toJson))]

end CategoryResult

namespace RunSummary

def toJson (s : RunSummary) : Json :=
  .object [
    ("summary", .object [
      ("total", .integer s.total),
      ("passed", .integer s.passed),
      ("failed", .integer s.failed),
      ("pass_rate", .float s.passRate)]),
    ("categories", .array (s.categories.toList.map CategoryResult.toJson))]

def structuredReport (s : RunSummary) : String := s.toJson.pretty

end RunSummary

end Assay
