import Assay.Proofs.Binary64.Range
import Assay.Proofs.Json.Completeness
import Assay.Proofs.Json.Decoding
import Assay.Proofs.Json.Writing
import Assay.Report.Structured

/-!
# Structured reports are faithful

The structured report of any summary is one JSON document. Its tree has the
totals of the run, then each category with its totals, then each result with its
texts, in the order of the summary. A tree shows one value only, so two summaries
with the same report differ at most in what the report leaves out: the classes of
failures.
-/

set_option autoImplicit false

namespace Assay

open Json

namespace Json

/-- The tree is an object with these members and no others, in this order. -/
def Node.IsObject (fields : List (String × (Node → Prop))) (node : Node) : Prop :=
  ∃ members pairs, node = .object members ∧ members.Names pairs ∧
    List.Forall₂ (fun field pair => pair.1 = field.1 ∧ field.2 pair.2) fields pairs

def Node.IsCount (n : Nat) (node : Node) : Prop := ∃ m : Numeral, node = .number m ∧ m.IsWhole n

def Node.IsTextOrNull : Option String → Node → Prop
  | none, node => node = .null
  | some s, node => node.IsText s

end Json

/-! ## Trees of summaries -/

def Value.ShownBy : Value → Node → Prop
  | .bool b, node => node = .bool b
  | .integer i, node => ∃ n : Numeral, node = .number n ∧ n.IsWhole i.toInt
  | .float x, node => x.ShownBy node
  | .text s, node => node.IsText s

def CaseResult.ShownBy (r : CaseResult) : Node → Prop :=
  Node.IsObject [
    ("name", fun node => node.IsText r.name),
    ("passed", fun node => node = .bool r.passed),
    ("expected", r.expected.ShownBy),
    ("actual", Node.IsTextOrNull r.actual),
    ("error", Node.IsTextOrNull r.error)]

def CategoryResult.ShownBy (c : CategoryResult) : Node → Prop :=
  Node.IsObject [
    ("name", fun node => node.IsText c.name),
    ("total", Node.IsCount c.total),
    ("passed", Node.IsCount c.passed),
    ("failed", Node.IsCount c.failed),
    ("tests", fun node => node.IsList (fun node r => r.ShownBy node) c.results.toList)]

def RunSummary.ShownBy (s : RunSummary) : Node → Prop :=
  Node.IsObject [
    ("summary", Node.IsObject [
      ("total", Node.IsCount s.total),
      ("passed", Node.IsCount s.passed),
      ("failed", Node.IsCount s.failed),
      ("pass_rate", s.passRate.ShownBy)]),
    ("categories", fun node => node.IsList (fun node c => c.ShownBy node) s.categories.toList)]

namespace Json

theorem membersShownBy_iff (members : List (String × Json)) (pairs : List (String × Node)) :
    MembersShownBy members pairs ↔
      List.Forall₂ (fun member pair => pair.1 = member.1 ∧ member.2.ShownBy pair.2)
        members pairs := by
  induction members generalizing pairs with
  | nil => rw [MembersShownBy, List.forall₂_nil_left_iff]
  | cons member members ih =>
    rw [MembersShownBy, List.forall₂_cons_left_iff]
    constructor
    · rintro ⟨node, more, rfl, hnode, hmore⟩
      exact ⟨_, more, ⟨rfl, hnode⟩, (ih more).mp hmore, rfl⟩
    · rintro ⟨⟨key, node⟩, more, ⟨rfl, hnode⟩, hmore, rfl⟩
      exact ⟨node, more, rfl, hnode, (ih more).mpr hmore⟩

theorem itemsShownBy_iff (vs : List Json) (nodes : List Node) :
    ItemsShownBy vs nodes ↔ List.Forall₂ ShownBy vs nodes := by
  induction vs generalizing nodes with
  | nil => rw [ItemsShownBy, List.forall₂_nil_left_iff]
  | cons v vs ih =>
    rw [ItemsShownBy, List.forall₂_cons_left_iff]
    constructor
    · rintro ⟨node, more, rfl, hnode, hmore⟩
      exact ⟨node, more, hnode, (ih more).mp hmore, rfl⟩
    · rintro ⟨node, more, hnode, hmore, rfl⟩
      exact ⟨node, more, rfl, hnode, (ih more).mpr hmore⟩

theorem shownBy_object (members : List (String × Json)) :
    (object members).ShownBy = Node.IsObject (members.map fun m => (m.1, m.2.ShownBy)) := by
  funext node
  simp only [ShownBy, Node.IsObject, membersShownBy_iff, List.forall₂_map_left_iff]

theorem shownBy_array {α : Type} (f : α → Json) (xs : List α) :
    (array (xs.map f)).ShownBy =
      fun node => node.IsList (fun node x => (f x).ShownBy node) xs := by
  funext node
  rw [eq_iff_iff, ShownBy]
  constructor
  · rintro ⟨items, nodes, rfl, hlists, hshown⟩
    rw [itemsShownBy_iff, List.forall₂_map_left_iff] at hshown
    exact .intro hlists hshown.flip
  · rintro ⟨hlists, hall⟩
    refine ⟨_, _, rfl, hlists, ?_⟩
    rw [itemsShownBy_iff, List.forall₂_map_left_iff]
    exact hall.flip

theorem shownBy_string (s : String) : (string s).ShownBy = fun node => node.IsText s := rfl

theorem shownBy_bool (b : Bool) : (bool b).ShownBy = fun node => node = .bool b := rfl

theorem shownBy_count (n : Nat) : (integer n).ShownBy = Node.IsCount n := rfl

theorem shownBy_float (x : Binary64) : (float x).ShownBy = x.ShownBy := rfl

theorem shownBy_optional (o : Option String) :
    (optional string o).ShownBy = Node.IsTextOrNull o := by
  cases o <;> rfl

end Json

theorem Value.shownBy_toJson (v : Value) : v.toJson.ShownBy = v.ShownBy := by
  cases v <;> rfl

theorem CaseResult.shownBy_toJson (r : CaseResult) : r.toJson.ShownBy = r.ShownBy := by
  rw [toJson, shownBy_object]
  simp only [List.map_cons, List.map_nil, shownBy_string, shownBy_bool, shownBy_optional,
    Value.shownBy_toJson]
  rfl

theorem CategoryResult.shownBy_toJson (c : CategoryResult) : c.toJson.ShownBy = c.ShownBy := by
  rw [toJson, shownBy_object]
  simp only [List.map_cons, List.map_nil, shownBy_string, shownBy_count, shownBy_array,
    CaseResult.shownBy_toJson]
  rfl

theorem RunSummary.shownBy_toJson (s : RunSummary) : s.toJson.ShownBy = s.ShownBy := by
  rw [toJson, shownBy_object]
  simp only [List.map_cons, List.map_nil, shownBy_object, shownBy_count, shownBy_float,
    shownBy_array, CategoryResult.shownBy_toJson]
  rfl

/-! ## A tree shows one thing only -/

namespace Json

theorem Node.IsText.unique {node : Node} {s t : String} (hs : node.IsText s)
    (ht : node.IsText t) : s = t := by
  cases hs with
  | intro hs =>
    cases ht with
    | intro ht =>
      have hread := (unitsText?_eq_some_iff _ s).mpr hs
      rw [(unitsText?_eq_some_iff _ t).mpr ht] at hread
      exact (Option.some.inj hread).symm

theorem Node.IsTextOrNull.unique {node : Node} {o p : Option String} (ho : node.IsTextOrNull o)
    (hp : node.IsTextOrNull p) : o = p := by
  cases o with
  | none =>
    cases p with
    | none => rfl
    | some t =>
      obtain rfl : node = .null := ho
      cases hp
  | some s =>
    cases p with
    | none =>
      obtain rfl : node = .null := hp
      cases ho
    | some t => exact congrArg some (Node.IsText.unique ho hp)

theorem Numeral.IsWhole.unique {n : Numeral} {z w : Int} (hz : n.IsWhole z) (hw : n.IsWhole w) :
    z = w :=
  hz.value.symm.trans hw.value

theorem Node.IsCount.unique {node : Node} {n m : Nat} (hn : node.IsCount n)
    (hm : node.IsCount m) : n = m := by
  obtain ⟨numeral, rfl, hn⟩ := hn
  obtain ⟨_, heq, hm⟩ := hm
  cases heq
  exact Int.ofNat.inj (hn.unique hm)

theorem Items.Lists.unique {items : Items} {nodes others : List Node} (h : items.Lists nodes)
    (h' : items.Lists others) : nodes = others := by
  induction h generalizing others with
  | closed =>
    cases h'
    rfl
  | item node h ih =>
    cases h' with
    | item _ h' => rw [ih h']

theorem Members.Names.unique {members : Members} {pairs others : List (String × Node)}
    (h : members.Names pairs) (h' : members.Names others) : pairs = others := by
  induction h generalizing others with
  | closed =>
    cases h'
    rfl
  | member value hkey h ih =>
    cases h' with
    | member _ hkey' h' =>
      rw [ih h', (Node.IsText.intro hkey).unique (.intro hkey')]

theorem forall₂_meet {α β γ : Type} {R : α → β → Prop} {S : α → γ → Prop} {as : List α}
    {bs : List β} {cs : List γ} (hR : List.Forall₂ R as bs) (hS : List.Forall₂ S as cs) :
    List.Forall₂ (fun b c => ∃ a, R a b ∧ S a c) bs cs := by
  induction hR generalizing cs with
  | nil =>
    cases hS
    exact .nil
  | cons hab hR ih =>
    cases hS with
    | cons hac hS => exact .cons ⟨_, hab, hac⟩ (ih hS)

theorem Node.IsList.agree {α β : Type} {R : Node → α → Prop} {S : Node → β → Prop} {node : Node}
    {xs : List α} {ys : List β} (hxs : node.IsList R xs) (hys : node.IsList S ys) :
    List.Forall₂ (fun x y => ∃ item, R item x ∧ S item y) xs ys := by
  cases hxs with
  | intro hlists hxs =>
    cases hys with
    | intro hlists' hys =>
      rw [hlists.unique hlists'] at hxs
      exact forall₂_meet hxs hys

theorem Node.IsObject.agree {node : Node} {fields others : List (String × (Node → Prop))}
    (h : node.IsObject fields) (h' : node.IsObject others) :
    List.Forall₂ (fun field other => ∃ value, field.2 value ∧ other.2 value) fields others := by
  obtain ⟨members, pairs, rfl, hnames, hfields⟩ := h
  obtain ⟨_, _, heq, hnames', hothers⟩ := h'
  cases heq
  rw [hnames'.unique hnames] at hothers
  refine (forall₂_meet hfields.flip hothers.flip).imp ?_
  rintro field other ⟨pair, ⟨-, hfield⟩, -, hother⟩
  exact ⟨pair.2, hfield, hother⟩

end Json

namespace Value

/-- The tree keeps a value with its type: an integer is a numeral spelled as one, and a
number of the other kind is a numeral that is not. -/
inductive KeptBy : Value → Node → Prop where
  | bool (b : Bool) : KeptBy (.bool b) (.bool b)
  | integer {n : Numeral} {i : Int64} (h : n.IsWhole i.toInt) : KeptBy (.integer i) (.number n)
  | float {n : Numeral} (h : n.fraction ≠ [] ∨ n.exponent ≠ none) :
      KeptBy (.float n.nearest) (.number n)
  | text {units : List StringUnit} {s : String} (h : UnitsText units s.toList) :
      KeptBy (.text s) (.string units)

theorem ShownBy.kept {v : Value} {node : Node} (h : v.ShownBy node) (hv : v.Writable) :
    v.KeptBy node := by
  cases v with
  | bool b =>
    obtain rfl : node = .bool b := h
    exact .bool b
  | integer i =>
    obtain ⟨n, rfl, hn⟩ := h
    exact .integer hn
  | float x =>
    have hshown : x.ShownBy node := h
    rw [Binary64.ShownBy, if_pos (hv x rfl)] at hshown
    obtain ⟨n, rfl, hmarked, rfl⟩ := hshown
    exact .float hmarked
  | text s =>
    cases h with
    | intro h => exact .text h

theorem KeptBy.unique {v w : Value} {node : Node} (hv : v.KeptBy node) (hw : w.KeptBy node) :
    v = w := by
  cases hv with
  | bool b =>
    cases hw
    rfl
  | integer hi =>
    cases hw with
    | integer hj => exact congrArg Value.integer (Int64.toInt_inj.mp (hi.unique hj))
    | float hmarked => simp [hi.fraction, hi.exponent] at hmarked
  | float hmarked =>
    cases hw with
    | integer hj => simp [hj.fraction, hj.exponent] at hmarked
    | float => rfl
  | text hs =>
    cases hw with
    | text ht => rw [(Node.IsText.intro hs).unique (.intro ht)]

end Value

/-! ## What a report leaves out -/

def CaseResult.withoutReason (r : CaseResult) : CaseResult := { r with reason := none }

def CategoryResult.withoutReasons (c : CategoryResult) : CategoryResult :=
  { c with results := c.results.map CaseResult.withoutReason }

def RunSummary.withoutReasons (s : RunSummary) : RunSummary :=
  { s with categories := s.categories.map CategoryResult.withoutReasons }

def CategoryResult.Writable (c : CategoryResult) : Prop := ∀ r ∈ c.results, r.expected.Writable

def RunSummary.Writable (s : RunSummary) : Prop := ∀ c ∈ s.categories, c.Writable

theorem CaseResult.ShownBy.unique {r t : CaseResult} {node : Node} (hr : r.ShownBy node)
    (ht : t.ShownBy node) (hrw : r.expected.Writable) (htw : t.expected.Writable) :
    r.withoutReason = t.withoutReason := by
  have hagree := Node.IsObject.agree hr ht
  simp only [List.forall₂_cons, List.forall₂_nil_left_iff, and_true] at hagree
  obtain ⟨⟨_, hname, hname'⟩, ⟨_, hpassed, hpassed'⟩, ⟨_, hexpected, hexpected'⟩,
    ⟨_, hactual, hactual'⟩, ⟨_, herror, herror'⟩⟩ := hagree
  rw [withoutReason, withoutReason, CaseResult.mk.injEq]
  exact ⟨hname.unique hname', Node.bool.inj (hpassed.symm.trans hpassed'),
    (hexpected.kept hrw).unique (hexpected'.kept htw), Node.IsTextOrNull.unique hactual hactual',
    Node.IsTextOrNull.unique herror herror', rfl⟩

theorem map_eq_map_of_forall₂ {α β : Type} {R : α → α → Prop} {f : α → β} {xs ys : List α}
    (h : List.Forall₂ R xs ys) (hf : ∀ x ∈ xs, ∀ y ∈ ys, R x y → f x = f y) :
    xs.map f = ys.map f := by
  induction h with
  | nil => rfl
  | cons hxy h ih =>
    have htail := ih fun x hx y hy => hf x (.tail _ hx) y (.tail _ hy)
    rw [List.map_cons, List.map_cons, hf _ List.mem_cons_self _ List.mem_cons_self hxy, htail]

theorem CategoryResult.ShownBy.unique {c d : CategoryResult} {node : Node} (hc : c.ShownBy node)
    (hd : d.ShownBy node) (hcw : c.Writable) (hdw : d.Writable) :
    c.withoutReasons = d.withoutReasons := by
  have hagree := Node.IsObject.agree hc hd
  simp only [List.forall₂_cons, List.forall₂_nil_left_iff, and_true] at hagree
  obtain ⟨⟨_, hname, hname'⟩, -, ⟨_, hpassed, hpassed'⟩, ⟨_, hfailed, hfailed'⟩,
    ⟨_, htests, htests'⟩⟩ := hagree
  have hresults : c.results.toList.map CaseResult.withoutReason =
      d.results.toList.map CaseResult.withoutReason := by
    refine map_eq_map_of_forall₂ (htests.agree htests') ?_
    rintro r hr t ht ⟨item, hshown, hshown'⟩
    exact hshown.unique hshown' (hcw r (Array.mem_toList_iff.mp hr))
      (hdw t (Array.mem_toList_iff.mp ht))
  rw [withoutReasons, withoutReasons, CategoryResult.mk.injEq]
  refine ⟨hname.unique hname', hpassed.unique hpassed', hfailed.unique hfailed', ?_⟩
  rw [← Array.toList_inj, Array.toList_map, Array.toList_map, hresults]

theorem RunSummary.ShownBy.unique {s t : RunSummary} {node : Node} (hs : s.ShownBy node)
    (ht : t.ShownBy node) (hsw : s.Writable) (htw : t.Writable) :
    s.withoutReasons = t.withoutReasons := by
  have hagree := Node.IsObject.agree hs ht
  simp only [List.forall₂_cons, List.forall₂_nil_left_iff, and_true] at hagree
  obtain ⟨⟨_, htotals, htotals'⟩, ⟨_, hcategories, hcategories'⟩⟩ := hagree
  have hcounts := Node.IsObject.agree htotals htotals'
  simp only [List.forall₂_cons, List.forall₂_nil_left_iff, and_true] at hcounts
  obtain ⟨-, ⟨_, hpassed, hpassed'⟩, ⟨_, hfailed, hfailed'⟩, -⟩ := hcounts
  have hlist : s.categories.toList.map CategoryResult.withoutReasons =
      t.categories.toList.map CategoryResult.withoutReasons := by
    refine map_eq_map_of_forall₂ (hcategories.agree hcategories') ?_
    rintro c hc d hd ⟨item, hshown, hshown'⟩
    exact hshown.unique hshown' (hsw c (Array.mem_toList_iff.mp hc))
      (htw d (Array.mem_toList_iff.mp hd))
  rw [withoutReasons, withoutReasons, RunSummary.mk.injEq]
  refine ⟨hpassed.unique hpassed', hfailed.unique hfailed', ?_⟩
  rw [← Array.toList_inj, Array.toList_map, Array.toList_map, hlist]

/-! ## Reports -/

namespace RunSummary

/-- The share of passed cases is a number where the cases can be counted by a machine word. -/
theorem passRate_finite {s : RunSummary} (h : s.total < 2 ^ 64) : s.passRate.isFinite = true := by
  unfold passRate
  split
  · rfl
  · rename_i hzero
    exact Binary64.isFinite_share (Nat.pos_of_ne_zero hzero) (Nat.le_add_right _ _) h.le

theorem report_spells (s : RunSummary) :
    ∃ node, Spells s.structuredReport.toList node ∧ s.ShownBy node := by
  obtain ⟨node, hshown, hspells⟩ := pretty_spells s.toJson
  rw [shownBy_toJson] at hshown
  exact ⟨node, hspells, hshown⟩

/-- Every report is one JSON document, which shows the totals, the categories and the results
of its summary in order. Reports of different summaries differ, unless the summaries differ in
the classes of failures alone or have numbers that cannot be written. -/
theorem structured_report_is_faithful :
    (∀ s : RunSummary, ∃ node, s.ShownBy node ∧ Spells s.structuredReport.toList node ∧
      readText s.structuredReport.toList = ⟨node, false⟩ ∧
      (∀ other, Spells s.structuredReport.toList other → other = node) ∧
      (s.total < 2 ^ 64 → s.passRate.isFinite = true)) ∧
    ∀ s t : RunSummary, s.Writable → t.Writable → s.structuredReport = t.structuredReport →
      s.withoutReasons = t.withoutReasons := by
  have hread (s : RunSummary) : ∃ node, s.ShownBy node ∧
      Spells s.structuredReport.toList node ∧
      readText s.structuredReport.toList = ⟨node, false⟩ := by
    obtain ⟨node, hspells, hshown⟩ := s.report_spells
    exact ⟨node, hshown, hspells, readText_of_spells hspells⟩
  constructor
  · intro s
    obtain ⟨node, hshown, hspells, htext⟩ := hread s
    refine ⟨node, hshown, hspells, htext, fun other hother => ?_, passRate_finite⟩
    have hsame := (readText_of_spells hother).symm.trans htext
    exact (Source.mk.inj hsame).1
  · intro s t hs ht hreport
    obtain ⟨node, hshown, -, htext⟩ := hread s
    obtain ⟨other, hshown', -, htext'⟩ := hread t
    rw [hreport, htext'] at htext
    obtain rfl := (Source.mk.inj htext).1
    exact hshown.unique hshown' hs ht

theorem classes_of_failures_are_left_out :
    let result (reason : FailureReason) : CaseResult :=
      ⟨"f(\"a\\b\", 1)", false, .text "é\t", none, some "line\nline", some reason⟩
    let summary (reason : FailureReason) : RunSummary :=
      .ofCategories [.ofResults "" [], .ofResults "c" [result reason]]
    summary .timeout ≠ summary .capture ∧
      (summary .timeout).withoutReasons = (summary .capture).withoutReasons := by
  intro result summary
  have hwritable (reason : FailureReason) : (summary reason).Writable := by
    intro c hc r hr x hx
    have hc : c = .ofResults "" [] ∨ c = .ofResults "c" [result reason] := by
      simpa [summary, ofCategories, absorb, empty] using hc
    rcases hc with rfl | rfl
    · simp [CategoryResult.ofResults, CategoryResult.empty] at hr
    · obtain rfl : r = result reason := by
        simpa [CategoryResult.ofResults, CategoryResult.empty, CategoryResult.record, result]
          using hr
      cases hx
  refine ⟨by decide, ?_⟩
  exact structured_report_is_faithful.2 _ _ (hwritable .timeout) (hwritable .capture) rfl

end RunSummary

end Assay
