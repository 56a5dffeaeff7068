import Assay.Proofs.Document.Text
import Assay.Proofs.Report.Structured
import Assay.Proofs.Suite.Run

/-!
# Expected values from documents to reports

The structured report of a suite lists the expected values of its documents, in
document order. None of them is lost, because every number in a document is
finite, and each has the type that it has in the text of its document: what was
written as a number that is no integer, or as an integer that does not fit, is a
numeral with a fraction or an exponent, and an integer is spelled as one.
-/

set_option autoImplicit false

namespace Assay

open Json

namespace Json

def Node.HasMember (node : Node) (name : String) (value : Node) : Prop :=
  ∃ members pairs, node = .object members ∧ members.Names pairs ∧ pairs.lookup name = some value

/-- Both trees are truths, both are numbers, or both are texts. -/
inductive Node.SameType : Node → Node → Prop where
  | bool (a b : Bool) : SameType (.bool a) (.bool b)
  | number (n m : Numeral) : SameType (.number n) (.number m)
  | string (us vs : List StringUnit) : SameType (.string us) (.string vs)

end Json

/-! ## Where expected values stand -/

def Case.ExpectedIn (node expected : Node) : Prop :=
  ∃ fields, node.IsRecord declared fields ∧ fields "expected" = some expected

def Definition.ExpectedIn (node : Node) (expected : List Node) : Prop :=
  ∃ fields cases, node.IsRecord declared fields ∧ fields "cases" = some cases ∧
    cases.IsList Case.ExpectedIn expected

/-- The trees of the expected values in the tree of a document, in document order. -/
def Document.ExpectedIn (node : Node) (expected : List Node) : Prop :=
  ∃ fields tests lists, node.IsRecord declared fields ∧ fields "tests" = some tests ∧
    tests.IsList Definition.ExpectedIn lists ∧ expected = lists.flatten

def Document.expectedValues (d : Document) : List Value := d.entries.map fun j => j.2.expected

def CaseResult.ExpectedIn (node expected : Node) : Prop := node.HasMember "expected" expected

def CategoryResult.ExpectedIn (node : Node) (expected : List Node) : Prop :=
  ∃ tests, node.HasMember "tests" tests ∧ tests.IsList CaseResult.ExpectedIn expected

/-- The trees of the expected values in the tree of a report, category by category. -/
def RunSummary.ExpectedIn (node : Node) (expected : List (List Node)) : Prop :=
  ∃ categories, node.HasMember "categories" categories ∧
    categories.IsList CategoryResult.ExpectedIn expected

namespace Json

theorem Node.IsList.refine {α β : Type} {R : Node → α → Prop} {S : Node → β → Prop}
    {T : β → α → Prop} {node : Node} {xs : List α} (h : node.IsList R xs)
    (hR : ∀ node x, R node x → ∃ y, S node y ∧ T y x) :
    ∃ ys, node.IsList S ys ∧ List.Forall₂ T ys xs := by
  cases h with
  | intro hlists hall =>
    suffices hys : ∃ ys, List.Forall₂ S _ ys ∧ List.Forall₂ T ys xs by
      obtain ⟨ys, hS, hT⟩ := hys
      exact ⟨ys, .intro hlists hS, hT⟩
    clear hlists
    induction hall with
    | nil => exact ⟨[], .nil, .nil⟩
    | cons hx hall ih =>
      obtain ⟨y, hy, hyx⟩ := hR _ _ hx
      obtain ⟨ys, hS, hT⟩ := ih
      exact ⟨y :: ys, .cons hy hS, .cons hyx hT⟩

theorem Node.IsObject.member {fields : List (String × (Node → Prop))} {node : Node} {name : String}
    {P : Node → Prop} (h : node.IsObject fields) (hname : fields.lookup name = some P) :
    ∃ value, node.HasMember name value ∧ P value := by
  obtain ⟨members, pairs, rfl, hnames, hall⟩ := h
  suffices hvalue : ∃ value, pairs.lookup name = some value ∧ P value by
    obtain ⟨value, hvalue, hP⟩ := hvalue
    exact ⟨value, ⟨members, pairs, rfl, hnames, hvalue⟩, hP⟩
  clear hnames
  induction hall with
  | nil => cases hname
  | @cons field pair fields pairs hpair hall ih =>
    obtain ⟨hkey, hfield⟩ := hpair
    rw [List.lookup_cons] at hname ⊢
    rw [hkey]
    split at hname
    · obtain rfl := Option.some.inj hname
      exact ⟨pair.2, rfl, hfield⟩
    · exact ih hname

end Json

/-! ## In documents -/

theorem Case.Presents.expectedIn {node : Node} {c : Case} (h : Case.Presents node c) :
    ∃ expected, Case.ExpectedIn node expected ∧ Value.Presents expected c.expected := by
  obtain ⟨fields, hrecord, hfields⟩ := h
  obtain ⟨expected, hfield, hexpected⟩ := hfields.expected
  exact ⟨expected, ⟨fields, hrecord, hfield⟩, hexpected⟩

theorem Definition.Presents.expectedIn {node : Node} {d : Definition}
    (h : Definition.Presents node d) : ∃ expected, Definition.ExpectedIn node expected ∧
      List.Forall₂ Value.Presents expected (d.cases.map Case.expected) := by
  obtain ⟨fields, hrecord, hfields⟩ := h
  obtain ⟨cases, hfield, hcases⟩ := hfields.cases
  obtain ⟨expected, hin, hpresents⟩ := hcases.refine fun _ _ => Case.Presents.expectedIn
  refine ⟨expected, ⟨fields, cases, hrecord, hfield, hin⟩, ?_⟩
  rwa [List.forall₂_map_right_iff]

theorem Document.expectedValues_eq (d : Document) :
    d.expectedValues = (d.definitions.map fun f => f.cases.map Case.expected).flatten := by
  rw [expectedValues, entries, List.map_flatMap, ← List.flatMap_def]
  simp only [List.map_map, Function.comp_def]

theorem Document.Presents.expectedIn {node : Node} {d : Document} (h : Document.Presents node d) :
    ∃ expected, Document.ExpectedIn node expected ∧
      List.Forall₂ Value.Presents expected d.expectedValues := by
  obtain ⟨fields, hrecord, hfields⟩ := h
  obtain ⟨tests, hfield, htests⟩ := hfields.tests
  obtain ⟨lists, hin, hpresents⟩ := htests.refine fun _ _ => Definition.Presents.expectedIn
  refine ⟨lists.flatten, ⟨fields, tests, lists, hrecord, hfield, hin, rfl⟩, ?_⟩
  rw [expectedValues_eq]
  apply List.rel_flatten
  rwa [List.forall₂_map_right_iff]

/-! ## In reports -/

theorem CaseResult.ShownBy.expectedIn {r : CaseResult} {node : Node} (h : r.ShownBy node) :
    ∃ expected, CaseResult.ExpectedIn node expected ∧ r.expected.ShownBy expected :=
  Node.IsObject.member h rfl

theorem CategoryResult.ShownBy.expectedIn {c : CategoryResult} {node : Node} (h : c.ShownBy node) :
    ∃ expected, CategoryResult.ExpectedIn node expected ∧
      List.Forall₂ (fun e r => r.expected.ShownBy e) expected c.results.toList := by
  have hresults : ∃ tests, node.HasMember "tests" tests ∧
      tests.IsList (fun node r => CaseResult.ShownBy r node) c.results.toList :=
    Node.IsObject.member h rfl
  obtain ⟨tests, hmember, htests⟩ := hresults
  obtain ⟨expected, hin, hshown⟩ := htests.refine fun _ _ => CaseResult.ShownBy.expectedIn
  exact ⟨expected, ⟨tests, hmember, hin⟩, hshown⟩

theorem RunSummary.ShownBy.expectedIn {s : RunSummary} {node : Node} (h : s.ShownBy node) :
    ∃ expected, RunSummary.ExpectedIn node expected ∧
      List.Forall₂ (fun es c => List.Forall₂ (fun e r => r.expected.ShownBy e) es c.results.toList)
        expected s.categories.toList := by
  have hlist : ∃ categories, node.HasMember "categories" categories ∧
      categories.IsList (fun node c => CategoryResult.ShownBy c node) s.categories.toList :=
    Node.IsObject.member h rfl
  obtain ⟨categories, hmember, hcategories⟩ := hlist
  obtain ⟨expected, hin, hshown⟩ := hcategories.refine fun _ _ => CategoryResult.ShownBy.expectedIn
  exact ⟨expected, ⟨categories, hmember, hin⟩, hshown⟩

/-! ## From documents to reports -/

theorem Job.Gives.expected {invoke : Invoker} {j : Job} {r : CaseResult} (h : j.Gives invoke r) :
    r.expected = j.2.expected := by
  obtain ⟨host, rfl⟩ := h
  unfold Job.run Job.result CaseResult.ofOutcome
  dsimp only
  split <;> rfl

theorem Document.expected_of_allGive {invoke : Invoker} {d : Document} {rs : List CaseResult}
    (h : Job.AllGive invoke d.entries rs) : rs.map CaseResult.expected = d.expectedValues := by
  rw [expectedValues, ← List.forall₂_eq_eq_eq, List.forall₂_map_left_iff,
    List.forall₂_map_right_iff]
  exact h.flip.imp fun _ _ => Job.Gives.expected

theorem Document.Sound.writable {d : Document} (h : d.Sound) :
    ∀ v ∈ d.expectedValues, v.Writable := by
  intro v hv
  rw [expectedValues_eq, List.mem_flatten] at hv
  obtain ⟨_, hlist, hv⟩ := hv
  obtain ⟨f, hf, rfl⟩ := List.mem_map.mp hlist
  obtain ⟨c, hc, rfl⟩ := List.mem_map.mp hv
  exact (h f hf c hc).expected

theorem Value.Presents.sameType {asked shown : Node} {v : Value} (h : Value.Presents asked v)
    (hkept : v.KeptBy shown) : asked.SameType shown := by
  cases h with
  | bool b =>
    cases hkept
    exact .bool b b
  | integer i h =>
    cases hkept
    exact .number _ _
  | large h hz =>
    generalize Binary64.ofInt _ = x at hkept
    cases hkept
    exact .number _ _
  | float h =>
    cases hkept
    exact .number _ _
  | text h =>
    cases hkept
    exact .string _ _

/-- Some trees keep the expected values of a document that was read from a text. -/
structure Document.KeptBy (d : Document) (shown : List Node) : Prop where
  read : ∃ text, ofText text = .ok d
  values : List.Forall₂ Value.KeptBy d.expectedValues shown
  types : ∀ text, ofText text = .ok d → ∃ tree asked, Spells text.toList tree ∧
    ExpectedIn tree asked ∧ List.Forall₂ Value.Presents asked d.expectedValues ∧
    List.Forall₂ Node.SameType asked shown

theorem Document.keptBy_of_shown {text : String} {d : Document} {shown : List Node}
    (h : ofText text = .ok d)
    (hshown : List.Forall₂ (fun e v => Value.ShownBy v e) shown d.expectedValues) :
    d.KeptBy shown := by
  have hvalues : List.Forall₂ Value.KeptBy d.expectedValues shown := by
    have hwritable := (sound_of_text h).writable
    refine ((List.forall₂_and_left _ _).mpr ⟨hwritable, hshown.flip⟩).imp ?_
    rintro v e ⟨hv, he⟩
    exact Value.ShownBy.kept he hv
  refine ⟨⟨text, h⟩, hvalues, fun text h => ?_⟩
  obtain ⟨tree, hspells, hpresents⟩ := presents_of_text h
  obtain ⟨asked, hin, hasked⟩ := hpresents.expectedIn
  refine ⟨tree, asked, hspells, hin, hasked, ?_⟩
  refine (forall₂_meet hasked.flip hvalues).imp ?_
  rintro a e ⟨v, ha, he⟩
  exact ha.sameType he

theorem Document.ofText_of_load {h : Host} {file : String} {d : Document}
    (hl : load h file = .ok d) : ∃ text, ofText text = .ok d := by
  unfold load at hl
  split at hl
  · cases hl
  · rename_i text _
    split at hl
    · cases hl
    · rename_i hd
      cases hl
      exact ⟨text, hd⟩

theorem Turns.read {invoke : Invoker} {o : RunOptions} {h h' : Host} {files : List String}
    {ts : List Turn} (hts : Turns invoke o h files ts h') :
    ∀ t ∈ ts, ∃ text, Document.ofText text = .ok t.document := by
  induction hts with
  | nil h => simp
  | cons hl hs hts ih => exact List.forall_mem_cons.mpr ⟨Document.ofText_of_load hl, ih⟩

open SuiteRun in
/-- Every number and every tolerance in a document that is read from a text is finite. So the
report of a suite whose documents are all loaded keeps the expected values of each of them, in
document order and with their types, whatever the interpreter does. -/
theorem expected_values_keep_their_types :
    (∀ text d, Document.ofText text = .ok d → d.Sound) ∧
    ∀ (invoke : Invoker) (o : RunOptions) (h : Host) (files : List String) (r : SuiteRun),
      Reaches invoke o (start h) files r → r.problem = none →
      ∃ ts report shown, Turns invoke o h files ts r.host ∧
        Spells r.summary.structuredReport.toList report ∧
        RunSummary.ExpectedIn report shown ∧
        List.Forall₂ (fun t es => t.document.KeptBy es) ts shown := by
  refine ⟨fun _ _ => Document.sound_of_text, fun invoke o h files r hr hp => ?_⟩
  obtain ⟨front, rest, ts, rfl, hts, hg, hend⟩ := hr.turns
  -- Only a document that cannot be loaded keeps files from their turns.
  obtain rfl : rest = [] := by
    rcases hend with ⟨hrest, -⟩ | ⟨file, back, p, -, -, hp'⟩
    · exact hrest
    · rw [hp] at hp'
      cases hp'
  obtain ⟨report, hspells, hreport⟩ := r.summary.report_spells
  obtain ⟨shown, hin, hshown⟩ := hreport.expectedIn
  rw [List.append_nil]
  refine ⟨ts, report, shown, hts, hspells, hin, ?_⟩
  rw [hg.summary, RunSummary.ofCategories_eq, List.forall₂_map_right_iff] at hshown
  have hturns : ∀ t ∈ ts, (∃ text, Document.ofText text = .ok t.document) ∧
      Job.AllGive invoke t.document.entries t.schedule.category.results.toList :=
    fun t ht => ⟨hts.read t ht, (hg.turns t ht).2⟩
  refine ((List.forall₂_and_left _ _).mpr ⟨hturns, hshown.flip⟩).imp ?_
  rintro t es ⟨⟨⟨text, htext⟩, hgive⟩, hes⟩
  refine Document.keptBy_of_shown htext ?_
  rwa [← Document.expected_of_allGive hgive, List.forall₂_map_right_iff]

open SuiteRun in
/-- A negative zero and an integer that does not fit stay numbers of the other kind. -/
theorem negative_zero_and_large_integer_are_kept :
    let text := "[\"c\", [[\"f\", \"1\", [[[], -0], [[], 9223372036854775808], [[], 7]]]]]"
    let h : Host := ⟨FileTree.empty.put ["a.json"] ⟨.file (Text.encode text), 0o644, 0⟩, [], ⟨[]⟩, 0⟩
    let invoke : Invoker := .ofAnswers fun file _ => .output file
    let r := runFiles h invoke ⟨⟨.english, false⟩, false, 2, 1⟩ ["/a.json"]
    r.problem = none ∧ ∃ report zero large seven,
      Spells r.summary.structuredReport.toList report ∧
      RunSummary.ExpectedIn report [[zero, large, seven]] ∧
      (Value.float (Binary64.zero true)).KeptBy zero ∧
      (Value.float (Binary64.ofInt (2 ^ 63))).KeptBy large ∧
      (Value.integer 7).KeptBy seven := by
  intro text h invoke r
  have hproblem : r.problem = none := by decide +kernel
  refine ⟨hproblem, ?_⟩
  obtain ⟨ts, report, shown, hts, hspells, hin, hall⟩ :=
    expected_values_keep_their_types.2 invoke _ h ["/a.json"] r
      (runFilesFrom_reaches invoke _ (start h) ["/a.json"]) hproblem
  have hload : (Document.load h "/a.json").toOption.map Document.expectedValues =
      some [.float (Binary64.zero true), .float (Binary64.ofInt (2 ^ 63)), .integer 7] := by
    decide +kernel
  obtain ⟨t, rfl, hl⟩ : ∃ t, ts = [t] ∧ Document.load h "/a.json" = .ok t.document := by
    generalize r.host = h' at hts
    cases hts with
    | cons hl hs hts =>
      cases hts
      exact ⟨_, rfl, hl⟩
  rw [hl] at hload
  obtain ⟨es, rest, hkept, hrest, rfl⟩ := List.forall₂_cons_left_iff.mp hall
  obtain rfl := List.forall₂_nil_left_iff.mp hrest
  have hvalues := hkept.values
  rw [Option.some.inj hload] at hvalues
  simp only [List.forall₂_cons_left_iff, List.forall₂_nil_left_iff] at hvalues
  obtain ⟨zero, _, hzero, ⟨large, _, hlarge, ⟨seven, _, hseven, rfl, rfl⟩, rfl⟩, rfl⟩ := hvalues
  exact ⟨report, zero, large, seven, hspells, hin, hzero, hlarge, hseven⟩

end Assay
