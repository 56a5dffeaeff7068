import Mathlib.Data.List.Forall2
import Assay.Proofs.Suite.Ledger
import Assay.Report.Console
import Assay.Report.Page
import Assay.Report.Structured

/-!
# The figures that reports tell

A report tells how many results there are, how many of them passed and how many
did not, of each category and of the whole run. The structured report has them
from sums, the console and the page from counters, and the list of failures from
the results. For every ledger they are the figures of what was recorded.
-/

set_option autoImplicit false

namespace Assay

structure Figures where
  total : Nat
  passed : Nat
  failed : Nat
deriving DecidableEq, Repr

namespace Figures

def of (rs : List CaseResult) : Figures :=
  ⟨rs.length, rs.countP fun r => r.passed, rs.countP fun r => !r.passed⟩

def rate (f : Figures) : Binary64 :=
  if f.total = 0 then Binary64.zero false
  else Binary64.div (Binary64.ofNat f.passed) (Binary64.ofNat f.total)

def percent (f : Figures) : String :=
  (Binary64.mul f.rate (Binary64.ofNat 100)).toFixed 1 ++ "%"

def fraction (f : Figures) : String := toString f.passed ++ "/" ++ toString f.total

def tally (f : Figures) (look : Look) : String := f.fraction ++ " " ++ look.say .passedWord

def members (f : Figures) : List (String × Json) :=
  [("total", .integer f.total), ("passed", .integer f.passed), ("failed", .integer f.failed)]

end Figures

def CategoryResult.figures (c : CategoryResult) : Figures := ⟨c.total, c.passed, c.failed⟩

def RunSummary.figures (s : RunSummary) : Figures := ⟨s.total, s.passed, s.failed⟩

/-! ## Counters -/

theorem CategoryResult.figures_ofResults (name : String) (rs : List CaseResult) :
    (ofResults name rs).figures = .of rs := by
  rw [figures, total_ofResults, ofResults_eq]
  rfl

/-- A category tells of the results that were recorded into it. -/
structure CategoryResult.Tallies (c : CategoryResult) (t : Ledger.Section) : Prop where
  name : c.name = t.name
  results : c.results.toList = t.results
  figures : c.figures = .of t.results
  failures : c.failures = t.results.filter fun r => !r.passed

theorem Ledger.Section.tallies (t : Section) : t.category.Tallies t where
  name := by rw [category, CategoryResult.ofResults_eq]
  results := CategoryResult.results_ofResults t.name t.results
  figures := CategoryResult.figures_ofResults t.name t.results
  failures := CategoryResult.failures_ofResults t.name t.results

namespace RunSummary

/-- A summary tells of the categories that were absorbed into it. -/
structure Tallies (s : RunSummary) (ts : List Ledger.Section) : Prop where
  categories : List.Forall₂ CategoryResult.Tallies s.categories.toList ts
  passed : s.passed = (s.categories.toList.map CategoryResult.passed).sum
  failed : s.failed = (s.categories.toList.map CategoryResult.failed).sum
  figures : s.figures = .of (ts.flatMap Ledger.Section.results)
  failures : s.failures = (ts.flatMap Ledger.Section.results).filter fun r => !r.passed
  failures_length : s.failures.length = s.failed
  success : s.isSuccess = true ↔ ∀ t ∈ ts, ∀ r ∈ t.results, r.passed = true
  rate : s.passRate = s.figures.rate

variable (ts : List Ledger.Section)

theorem failures_ofSections :
    (ofCategories (ts.map Ledger.Section.category)).failures =
      (ts.flatMap Ledger.Section.results).filter fun r => !r.passed := by
  rw [failures, ofCategories_eq, List.filter_flatMap, List.flatMap_map]
  exact List.flatMap_congr fun t _ => t.tallies.failures

theorem sum_ofSections {f : CategoryResult → Nat} {p : CaseResult → Bool}
    (hf : ∀ t : Ledger.Section, f t.category = t.results.countP p) :
    ((ts.map Ledger.Section.category).map f).sum =
      (ts.flatMap Ledger.Section.results).countP p := by
  rw [List.countP_flatMap, List.map_map]
  exact congrArg List.sum (List.map_congr_left fun t _ => hf t)

theorem figures_ofSections :
    (ofCategories (ts.map Ledger.Section.category)).figures =
      .of (ts.flatMap Ledger.Section.results) := by
  have hpassed := sum_ofSections (f := CategoryResult.passed) ts
    fun t => congrArg Figures.passed t.tallies.figures
  have hfailed := sum_ofSections (f := CategoryResult.failed) ts
    fun t => congrArg Figures.failed t.tallies.figures
  have htotal := List.length_eq_countP_add_countP (fun r : CaseResult => r.passed)
    (l := ts.flatMap Ledger.Section.results)
  rw [figures, total, ofCategories_eq, hpassed, hfailed]
  simp [Figures.of, htotal]

theorem tallies_ofSections : (ofCategories (ts.map Ledger.Section.category)).Tallies ts := by
  have hfailures := failures_ofSections ts
  have hfigures := figures_ofSections ts
  have hfailed : (ofCategories (ts.map Ledger.Section.category)).failed =
      (ts.flatMap Ledger.Section.results).countP fun r => !r.passed :=
    congrArg Figures.failed hfigures
  refine ⟨?_, ?_, ?_, hfigures, hfailures, ?_, ?_, rfl⟩
  · rw [ofCategories_eq, List.forall₂_map_left_iff, List.forall₂_same]
    exact fun t _ => t.tallies
  · rw [ofCategories_eq]
  · rw [ofCategories_eq]
  · rw [hfailures, hfailed, List.countP_eq_length_filter]
  · rw [isSuccess_ofCategories_iff, List.forall_mem_map]
    exact forall₂_congr fun t _ => CategoryResult.failed_ofResults_eq_zero_iff t.name t.results

end RunSummary

/-! ## The page -/

namespace Markup

mutual

def words : Markup → String
  | text s => s
  | styleSheet _ => ""
  | element _ _ children => wordsAll children
  | void _ _ => ""

def wordsAll : List Markup → String
  | [] => ""
  | m :: ms => words m ++ wordsAll ms

end

mutual

/-- The texts of the elements that are looked for, in the order of the page. -/
def contents (p : String → List (String × String) → Bool) : Markup → List String
  | text _ => []
  | styleSheet _ => []
  | element tag attributes children =>
    if p tag attributes then [wordsAll children] else contentsAll p children
  | void _ _ => []

def contentsAll (p : String → List (String × String) → Bool) : List Markup → List String
  | [] => []
  | m :: ms => contents p m ++ contentsAll p ms

end

def hasClass (cssClass : String) (attributes : List (String × String)) : Bool :=
  attributes.any fun a => a.1 == "class" && (a.2.toList.splitOn ' ').contains cssClass.toList

@[simp] theorem hasClass_nil (cssClass : String) : hasClass cssClass [] = false := rfl

variable (p : String → List (String × String) → Bool)

theorem contentsAll_append (ms ns : List Markup) :
    contentsAll p (ms ++ ns) = contentsAll p ms ++ contentsAll p ns := by
  induction ms with
  | nil => rfl
  | cons m ms ih => simp [contentsAll, ih]

theorem contentsAll_flatMap {α : Type} (f : α → List Markup) (xs : List α) :
    contentsAll p (xs.flatMap f) = xs.flatMap fun x => contentsAll p (f x) := by
  induction xs with
  | nil => rfl
  | cons x xs ih => simp [contentsAll_append, ih]

theorem contentsAll_map {α : Type} (f : α → Markup) (xs : List α) :
    contentsAll p (xs.map f) = xs.flatMap fun x => contents p (f x) := by
  induction xs with
  | nil => rfl
  | cons x xs ih => simp [contentsAll, ih]

end Markup

namespace Page

open Markup

def isCount (_ : String) (attributes : List (String × String)) : Bool :=
  hasClass "count" attributes

def isHeading (tag : String) (_ : List (String × String)) : Bool := tag == "h2"

section Blocks

variable (locale : Locale) (c : CategoryResult) (r : CaseResult)

theorem counts_tile {valueClass : String} (h : hasClass "count" [("class", valueClass)] = true)
    (value label : String) : contents isCount (tile valueClass value label) = [value] := by
  have hitem : hasClass "count" [("class", "summary-item")] = false := by decide
  have hlabel : hasClass "count" [("class", "label")] = false := by decide
  simp [tile, classed, contents, contentsAll, isCount, h, hitem, hlabel, words, wordsAll]

theorem counts_row : contents isCount (row locale r) = [] := by
  have hstatus : hasClass "count" [("class", (colourStatus r).cssClass)] = false := by
    cases colourStatus r <;> decide
  simp [row, plain, classed, contents, contentsAll, isCount, hstatus]

theorem counts_block : contentsAll isCount (block locale c) = [] := by
  have hclass : hasClass "count"
      [("class", if c.failed = 0 then "passed-text" else "failed-text")] = false := by
    split <;> decide
  simp [block, heading, table, plain, classed, contents, contentsAll, contentsAll_map, isCount,
    counts_row, hclass]

theorem headings_row : contents isHeading (row locale r) = [] := by
  simp [row, plain, classed, contents, contentsAll, isHeading]

theorem headings_block : contentsAll isHeading (block locale c) =
    [c.name ++ " " ++ c.figures.fraction] := by
  simp [block, heading, table, plain, classed, contents, contentsAll, contentsAll_map, isHeading,
    headings_row, words, wordsAll, CategoryResult.figures, Figures.fraction, String.append_assoc]

end Blocks

theorem counts_ofSummary (locale : Locale) (time : String) (s : RunSummary) :
    contents isCount (ofSummary locale time s) =
      [toString s.total, toString s.passed, toString s.failed, s.passPercent] := by
  have hgenerated : hasClass "count" [("class", "generated")] = false := by decide
  have hcontainer : hasClass "count" [("class", "summary-container")] = false := by decide
  have htile : hasClass "count" [("class", "count")] = true := by decide
  have htotal : hasClass "count" [("class", "count ")] = true := by decide
  have hpassed : hasClass "count" [("class", "count passed-text")] = true := by decide
  have hfailed : hasClass "count" [("class", "count failed-text")] = true := by decide
  simp [ofSummary, plain, classed, contents, contentsAll, contentsAll_flatMap, counts_block,
    counts_tile, isCount, hgenerated, hcontainer, htile, htotal, hpassed, hfailed]

theorem headings_ofSummary (locale : Locale) (time : String) (s : RunSummary) :
    contents isHeading (ofSummary locale time s) =
      s.categories.toList.map fun c => c.name ++ " " ++ c.figures.fraction := by
  rw [List.map_eq_flatMap]
  simp [ofSummary, plain, classed, tile, contents, contentsAll, contentsAll_flatMap, isHeading,
    headings_block]

end Page

/-! ## All reports -/

namespace Ledger.Section

variable (t : Section)

def toJson : Json :=
  .object (("name", .string t.name) :: (Figures.of t.results).members ++
    [("tests", .array (t.results.map CaseResult.toJson))])

def line (look : Look) : String :=
  let f := Figures.of t.results
  look.paint (if f.failed = 0 then .green else .red)
    (Console.glyph (f.failed == 0) ++ " " ++ t.name ++ ": " ++ f.tally look)

def heading : String := t.name ++ " " ++ (Figures.of t.results).fraction

end Ledger.Section

namespace CategoryResult.Tallies

variable {c : CategoryResult} {t : Ledger.Section}

theorem toJson_eq (h : c.Tallies t) : c.toJson = t.toJson := by
  rw [toJson, Ledger.Section.toJson, ← h.figures, h.name, h.results]
  rfl

theorem categoryLine_eq (h : c.Tallies t) (look : Look) :
    Console.categoryLine look c = t.line look := by
  rw [Ledger.Section.line, ← h.name, ← h.figures, Figures.tally, Figures.fraction]
  simp only [Console.categoryLine, String.append_assoc]
  rfl

theorem heading_eq (h : c.Tallies t) : c.name ++ " " ++ c.figures.fraction = t.heading := by
  rw [h.name, h.figures, Ledger.Section.heading]

theorem map_eq {α : Type} {f : CategoryResult → α} {g : Ledger.Section → α}
    (hfg : ∀ c t, c.Tallies t → f c = g t) {cs : List CategoryResult} {ts : List Ledger.Section}
    (h : List.Forall₂ Tallies cs ts) : cs.map f = ts.map g := by
  induction h with
  | nil => rfl
  | cons hc _ ih => rw [List.map_cons, List.map_cons, hfg _ _ hc, ih]

end CategoryResult.Tallies

namespace RunSummary

structure Reports (s : RunSummary) (ts : List Ledger.Section) (f : Figures) : Prop where
  structured : s.toJson = .object [
    ("summary", .object (f.members ++ [("pass_rate", .float f.rate)])),
    ("categories", .array (ts.map Ledger.Section.toJson))]
  console : ∀ look, Console.summaryLines look s =
    ["", Console.rule, look.paint .bold (look.say .summaryBanner), Console.rule] ++
      ts.map (Ledger.Section.line · look) ++ [Console.rule, look.paint .bold
        (look.say .totalWord ++ ": " ++ f.tally look ++ " (" ++ f.percent ++ ")")]
  counts : ∀ locale time, (Page.ofSummary locale time s).contents Page.isCount =
    [toString f.total, toString f.passed, toString f.failed, f.percent]
  headings : ∀ locale time, (Page.ofSummary locale time s).contents Page.isHeading =
    ts.map Ledger.Section.heading
  silent : ∀ look, Console.failures look s = none ↔ s.isSuccess = true
  listed : ∀ look, s.isSuccess = false → Console.failures look s =
    some (String.intercalate "\n" (look.paint .boldRed ("\n" ++ look.say .failuresBanner) ::
      ((ts.flatMap Ledger.Section.results).filter fun r => !r.passed).map
        (Console.failureLine look)))

theorem Tallies.reports {s : RunSummary} {ts : List Ledger.Section} (h : s.Tallies ts) :
    s.Reports ts s.figures where
  structured := by
    rw [toJson, CategoryResult.Tallies.map_eq (fun c t hc => hc.toJson_eq) h.categories]
    rfl
  console look := by
    rw [Console.summaryLines, Console.totalLine, Figures.tally, Figures.fraction,
      CategoryResult.Tallies.map_eq (fun c t hc => hc.categoryLine_eq look) h.categories]
    simp only [String.append_assoc]
    rfl
  counts := Page.counts_ofSummary (s := s)
  headings locale time := by
    rw [Page.headings_ofSummary,
      CategoryResult.Tallies.map_eq (fun c t hc => hc.heading_eq) h.categories]
  silent look := by
    cases hs : s.isSuccess <;> simp [Console.failures, hs]
  listed look hs := by
    simp [Console.failures, hs, h.failures]

end RunSummary

open Ledger in
/-- In every state of the work on a summary, what is open tells of what was recorded into
it, what was absorbed is what the summary tells of, and each report has the same figures. -/
theorem reports_tell_what_was_recorded (steps : List Step) (l : Ledger)
    (hl : empty.after? steps = some l) :
    (∀ n c, l.opened[n]? = some (some c) → ∃ t, sectionOf steps n = some t ∧ c.Tallies t) ∧
    l.summary.Tallies (closed steps) ∧
    l.summary.Reports (closed steps) (.of ((closed steps).flatMap Section.results)) := by
  have hf := after_follows hl
  have ht : l.summary.Tallies (closed steps) := by
    rw [hf.summary]
    exact RunSummary.tallies_ofSections (closed steps)
  refine ⟨fun n c hc => ?_, ht, ?_⟩
  · obtain ⟨t, hsection, -, rfl⟩ := hf.section_of_open hc
    exact ⟨t, hsection, t.tallies⟩
  · rw [← ht.figures]
    exact ht.reports

open Ledger in
/-- Two categories of one name are open at once, and a third is absorbed between them. -/
theorem categories_of_one_name_are_told_apart :
    let good : CaseResult := ⟨"f(1)", true, .integer 1, some "1", none, none⟩
    let bad : CaseResult := ⟨"f(2)", false, .integer 2, none, some "Timeout", some .timeout⟩
    let steps : List Step := [.opening "a", .opening "b", .opening "a", .record 1 bad,
      .record 0 good, .record 1 good, .absorb 1, .record 0 bad, .absorb 2, .absorb 0]
    ∃ l, empty.after? steps = some l ∧ l.summary.figures = ⟨4, 2, 2⟩ ∧
      l.summary.failures = [bad, bad] ∧
      (Page.ofSummary .english "" l.summary).contents Page.isHeading =
        ["b 1/2", "a 0/0", "a 1/2"] := by
  intro good bad steps
  refine ⟨_, rfl, ?_⟩
  obtain ⟨-, ht, hr⟩ := reports_tell_what_was_recorded steps _ rfl
  exact ⟨ht.figures.trans (by decide), ht.failures.trans (by decide),
    (hr.headings .english "").trans (by decide)⟩

end Assay
