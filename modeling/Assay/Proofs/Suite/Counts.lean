import Mathlib.Algebra.GroupWithZero.Nat
import Mathlib.Data.List.Induction
import Assay.Suite.Result

/-!
# Counters and what they count

The counters of a category are kept beside its results, and those of a summary
beside its categories. Built up from nothing, both always tell how many of the
results have passed, so a summary is no more than its list of categories, and
that of two lists after one another is the two summaries added up.
-/

set_option autoImplicit false

namespace Assay

namespace CategoryResult

theorem ofResults_concat (name : String) (rs : List CaseResult) (r : CaseResult) :
    ofResults name (rs ++ [r]) = (ofResults name rs).record r := by
  simp [ofResults]

theorem ofResults_eq (name : String) (rs : List CaseResult) :
    ofResults name rs =
      ⟨name, rs.countP fun r => r.passed, rs.countP fun r => !r.passed, rs.toArray⟩ := by
  induction rs using List.reverseRecOn with
  | nil => rfl
  | append_singleton rs r ih =>
    rw [ofResults_concat, ih]
    cases hr : r.passed <;> simp [record, hr, List.countP_append]

theorem results_ofResults (name : String) (rs : List CaseResult) :
    (ofResults name rs).results.toList = rs := by
  rw [ofResults_eq]

theorem total_ofResults (name : String) (rs : List CaseResult) :
    (ofResults name rs).total = rs.length := by
  rw [ofResults_eq]
  simpa [total] using (List.length_eq_countP_add_countP (fun r : CaseResult => r.passed)).symm

theorem failures_ofResults (name : String) (rs : List CaseResult) :
    (ofResults name rs).failures = rs.filter fun r => !r.passed := by
  rw [ofResults_eq]
  rfl

theorem failed_ofResults_eq_zero_iff (name : String) (rs : List CaseResult) :
    (ofResults name rs).failed = 0 ↔ ∀ r ∈ rs, r.passed = true := by
  rw [ofResults_eq]
  simp

end CategoryResult

namespace RunSummary

def append (s t : RunSummary) : RunSummary :=
  ⟨s.passed + t.passed, s.failed + t.failed, s.categories ++ t.categories⟩

theorem ofCategories_concat (cs : List CategoryResult) (c : CategoryResult) :
    ofCategories (cs ++ [c]) = (ofCategories cs).absorb c := by
  simp [ofCategories]

theorem ofCategories_eq (cs : List CategoryResult) :
    ofCategories cs =
      ⟨(cs.map CategoryResult.passed).sum, (cs.map CategoryResult.failed).sum, cs.toArray⟩ := by
  induction cs using List.reverseRecOn with
  | nil => rfl
  | append_singleton cs c ih => simp [ofCategories_concat, ih, absorb]

theorem isSuccess_ofCategories_iff (cs : List CategoryResult) :
    (ofCategories cs).isSuccess = true ↔ ∀ c ∈ cs, c.failed = 0 := by
  rw [isSuccess, ofCategories_eq, beq_iff_eq, List.sum_eq_zero_iff_forall_eq_nat,
    List.forall_mem_map]

theorem ofCategories_append (cs ds : List CategoryResult) :
    ofCategories (cs ++ ds) = (ofCategories cs).append (ofCategories ds) := by
  simp [ofCategories_eq, append]

end RunSummary

end Assay
