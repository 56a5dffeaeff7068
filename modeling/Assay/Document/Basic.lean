import Assay.Verdict

/-!
# Documents

A document describes one category: the functions under test, the program file
of each, and its cases. A case is a list of arguments with the value that is
expected for them.
-/

set_option autoImplicit false

namespace Assay

structure Case where
  inputs : List Value
  expected : Value
  tolerance : Tolerance
deriving DecidableEq, Repr

/-- A function under test, the program file that implements it, and its cases. -/
structure Definition where
  name : String
  file : String
  cases : List Case
deriving DecidableEq, Repr

structure Document where
  category : String
  definitions : List Definition
deriving DecidableEq, Repr

namespace Definition

def caseName (d : Definition) (c : Case) : String := renderCall d.name c.inputs

end Definition

namespace Document

def entries (d : Document) : List (Definition × Case) :=
  d.definitions.flatMap fun f => f.cases.map fun c => (f, c)

def caseCount (d : Document) : Nat := d.definitions.foldr (fun f n => f.cases.length + n) 0

theorem length_entries (d : Document) : d.entries.length = d.caseCount := by
  unfold entries caseCount
  induction d.definitions with
  | nil => rfl
  | cons f fs ih => simp [ih]

end Document

end Assay
