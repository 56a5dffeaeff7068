import Mathlib.Algebra.Group.Int.Defs
import Mathlib.Tactic.SplitIfs
import Assay.Document.Basic
import Assay.Proofs.Json.Decoding
import Assay.Proofs.Json.Presentation

/-!
# Decoding of documents

The decoders of values, cases, definitions and documents accept exactly the
presentations of them.
-/

set_option autoImplicit false

namespace Assay

open Json

/-!
## Presentations

What a tree has to be to present a value, a case, a definition or a document.
The three kinds of record are told apart by their declared fields alone, and
each may be an object or an array.
-/

/-- A number is an integer when it was written as one and fits; the others are binary. -/
inductive Value.Presents : Node → Value → Prop where
  | bool (b : Bool) : Presents (.bool b) (.bool b)
  | integer {n : Numeral} (i : Int64) (h : n.value? = some (.integer i.toInt)) :
      Presents (.number n) (.integer i)
  | large {n : Numeral} {z : Int} (h : n.value? = some (.integer z))
      (hz : Int64.maxValue.toInt < z) : Presents (.number n) (.float (Binary64.ofInt z))
  | float {n : Numeral} {x : Binary64} (h : n.value? = some (.float x)) :
      Presents (.number n) (.float x)
  | text {units : List StringUnit} {s : String} (h : UnitsText units s.toList) :
      Presents (.string units) (.text s)

def Tolerance.Admissible (t : Tolerance) : Prop :=
  ∀ x, t.relative = some x ∨ t.absolute = some x →
    x.isFinite = true ∧ Binary64.le (Binary64.zero false) x = true

namespace Case

def declared : List String := ["input", "expected", "reltol", "abstol", "tolerance"]

structure FromFields (fields : String → Option Node) (c : Case) : Prop where
  input : OrDefault (Node.IsList Value.Presents) [] (fields "input") c.inputs
  expected : Required Value.Presents (fields "expected") c.expected
  relative : OrDefault Node.IsOptional none (fields "reltol") c.tolerance.relative
  absolute : ∃ abstol tolerance, OrDefault Node.IsOptional none (fields "abstol") abstol ∧
    OrDefault Node.IsOptional none (fields "tolerance") tolerance ∧
    c.tolerance.absolute = abstol.or tolerance
  admissible : c.tolerance.Admissible

def Presents (node : Node) (c : Case) : Prop :=
  ∃ fields, node.IsRecord declared fields ∧ FromFields fields c

end Case

namespace Definition

def declared : List String := ["name", "file", "cases"]

structure FromFields (fields : String → Option Node) (d : Definition) : Prop where
  name : Required Node.IsText (fields "name") d.name
  file : Required Node.IsText (fields "file") d.file
  cases : Required (Node.IsList Case.Presents) (fields "cases") d.cases

def Presents (node : Node) (d : Definition) : Prop :=
  ∃ fields, node.IsRecord declared fields ∧ FromFields fields d

end Definition

namespace Document

def declared : List String := ["category", "tests"]

structure FromFields (fields : String → Option Node) (d : Document) : Prop where
  category : Required Node.IsText (fields "category") d.category
  tests : Required (Node.IsList Definition.Presents) (fields "tests") d.definitions

def Presents (node : Node) (d : Document) : Prop :=
  ∃ fields, node.IsRecord declared fields ∧ FromFields fields d

end Document

theorem Value.Presents.wellFormed {node : Node} {v : Value} (h : Value.Presents node v) :
    node.WellFormed := by
  cases h <;> trivial

theorem Case.Presents.wellFormed {node : Node} {c : Case} (h : Case.Presents node c) :
    node.WellFormed := by
  obtain ⟨fields, hrecord, hfields⟩ := h
  refine hrecord.wellFormed (by decide) ?_
  intro name hname field hfield
  obtain ⟨abstol, tolerance, habs, htol, -⟩ := hfields.absolute
  simp only [Case.declared, List.mem_cons, List.not_mem_nil, or_false] at hname
  rcases hname with rfl | rfl | rfl | rfl | rfl
  · exact hfields.input.wellFormed hfield fun _ _ h =>
      h.wellFormed fun _ _ => Value.Presents.wellFormed
  · exact hfields.expected.wellFormed hfield fun _ _ => Value.Presents.wellFormed
  · exact hfields.relative.wellFormed hfield fun _ _ => Node.IsOptional.wellFormed
  · exact habs.wellFormed hfield fun _ _ => Node.IsOptional.wellFormed
  · exact htol.wellFormed hfield fun _ _ => Node.IsOptional.wellFormed

theorem Definition.Presents.wellFormed {node : Node} {d : Definition}
    (h : Definition.Presents node d) : node.WellFormed := by
  obtain ⟨fields, hrecord, hfields⟩ := h
  refine hrecord.wellFormed (by decide) ?_
  intro name hname field hfield
  simp only [Definition.declared, List.mem_cons, List.not_mem_nil, or_false] at hname
  rcases hname with rfl | rfl | rfl
  · exact hfields.name.wellFormed hfield fun _ _ => Node.IsText.wellFormed
  · exact hfields.file.wellFormed hfield fun _ _ => Node.IsText.wellFormed
  · exact hfields.cases.wellFormed hfield fun _ _ h =>
      h.wellFormed fun _ _ => Case.Presents.wellFormed

theorem Document.Presents.wellFormed {node : Node} {d : Document}
    (h : Document.Presents node d) : node.WellFormed := by
  obtain ⟨fields, hrecord, hfields⟩ := h
  refine hrecord.wellFormed (by decide) ?_
  intro name hname field hfield
  simp only [Document.declared, List.mem_cons, List.not_mem_nil, or_false] at hname
  rcases hname with rfl | rfl
  · exact hfields.category.wellFormed hfield fun _ _ => Node.IsText.wellFormed
  · exact hfields.tests.wellFormed hfield fun _ _ h =>
      h.wellFormed fun _ _ => Definition.Presents.wellFormed

/-!
## Decoders

The decoders of values, cases, definitions and documents accept exactly the
presentations, at every depth that leaves room for the arrays and objects of a
document. For each record a step lemma says how one member moves the fields on,
and an induction over the members what the whole object leaves in them.
-/

theorem Json.Numeral.le_of_value? {n : Numeral} {z : Int} (h : n.value? = some (.integer z)) :
    -2 ^ 63 ≤ z := by
  unfold Numeral.value? at h
  dsimp only at h
  have hfloat : n.float?.map Number.float ≠ some (.integer z) := by
    cases n.float? <;> simp
  split_ifs at h with hwhole hnegative hfits hword
  · obtain rfl : -(digitsValue n.whole : Int) = z := by simpa using h
    have hle : digitsValue n.whole ≤ 2 ^ 63 := hfits.2
    omega
  · exact absurd h hfloat
  · obtain rfl : (digitsValue n.whole : Int) = z := by simpa using h
    omega
  · exact absurd h hfloat
  · exact absurd h hfloat

namespace Value

theorem ofNode_number_iff (depth : Nat) (n : Numeral) (v : Value) :
    ofNode depth (.number n) = .ok v ↔ Presents (.number n) v := by
  unfold ofNode
  simp only [Node.strict, map_eq_ok_iff, bind_eq_ok_iff, readNumeral_eq_ok_iff]
  constructor
  · rintro ⟨-, -, number, hn, h⟩
    cases number with
    | integer z =>
      dsimp only at h
      split at h
      · rename_i hz
        obtain rfl := (pure_eq_ok_iff _ _).mp h
        have hback : (Int64.ofInt z).toInt = z :=
          Int64.toInt_ofInt_of_le (Numeral.le_of_value? hn) (Int.lt_of_le_of_lt hz (by decide))
        exact .integer _ (by rw [hback, hn])
      · rename_i hz
        obtain rfl := (pure_eq_ok_iff _ _).mp h
        exact .large hn (by omega)
    | float x =>
      obtain rfl := (pure_eq_ok_iff _ _).mp h
      exact .float hn
  · intro h
    cases h with
    | integer i hn =>
      refine ⟨(), ⟨_, hn, trivial⟩, _, hn, ?_⟩
      have hi : i.toInt ≤ Int64.maxValue.toInt := i.toInt_le
      dsimp only
      rw [if_pos hi, pure_eq_ok_iff, Int64.ofInt_toInt]
    | large hn hz =>
      refine ⟨(), ⟨_, hn, trivial⟩, _, hn, ?_⟩
      dsimp only
      rw [if_neg (by omega), pure_eq_ok_iff]
    | float hn => exact ⟨(), ⟨_, hn, trivial⟩, _, hn, rfl⟩

theorem ofNode_string_iff (depth : Nat) (units : List StringUnit) (v : Value) :
    ofNode depth (.string units) = .ok v ↔ Presents (.string units) v := by
  unfold ofNode
  simp only [Node.strict, map_eq_ok_iff, bind_eq_ok_iff, readUnits_eq_ok_iff, pure_eq_ok_iff]
  constructor
  · rintro ⟨-, -, s, hs, rfl⟩
    exact .text hs
  · rintro ⟨⟩
    rename_i s hs
    exact ⟨(), ⟨s, hs, trivial⟩, s, hs, rfl⟩

theorem ofNode_accepts (depth : Nat) : Accepts (ofNode depth) Presents := by
  intro node v
  cases node with
  | number n => exact ofNode_number_iff depth n v
  | string units => exact ofNode_string_iff depth units v
  | bool b =>
    unfold ofNode
    rw [bind_eq_ok_iff]
    constructor
    · rintro ⟨-, -, h⟩
      obtain rfl := (pure_eq_ok_iff _ _).mp h
      exact .bool b
    · rintro ⟨⟩
      exact ⟨(), rfl, rfl⟩
  | _ =>
    unfold ofNode
    rw [bind_eq_ok_iff]
    constructor
    · rintro ⟨-, -, h⟩
      simp [throw, throwThe, MonadExceptOf.throw] at h
    · rintro ⟨⟩

end Value

namespace Case

theorem checkTolerance_eq_ok_iff (field : String) (o : Option Binary64) :
    checkTolerance field o = .ok () ↔
      ∀ x, o = some x → x.isFinite = true ∧ Binary64.le (Binary64.zero false) x = true := by
  cases o with
  | none => simp [checkTolerance]
  | some x => simp [checkTolerance, isAdmissible]

theorem ofFields_eq_ok_iff (input : List Value) (expected : Value)
    (reltol abstol tolerance : Option Binary64) (c : Case) :
    ofFields input expected reltol abstol tolerance = .ok c ↔
      c = ⟨input, expected, ⟨reltol, abstol.or tolerance⟩⟩ ∧ c.tolerance.Admissible := by
  simp only [ofFields, bind_eq_ok_iff, pure_eq_ok_iff]
  constructor
  · rintro ⟨⟨⟩, hrel, ⟨⟩, habs, rfl⟩
    refine ⟨rfl, ?_⟩
    rintro x (hx | hx)
    · exact (checkTolerance_eq_ok_iff _ _).mp hrel x hx
    · exact (checkTolerance_eq_ok_iff _ _).mp habs x hx
  · rintro ⟨rfl, hadmissible⟩
    exact ⟨(), (checkTolerance_eq_ok_iff _ _).mpr fun x hx => hadmissible x (.inl hx),
      (), (checkTolerance_eq_ok_iff _ _).mpr fun x hx => hadmissible x (.inr hx), rfl⟩

theorem fromFields_iff (fields : String → Option Node) (c : Case) :
    FromFields fields c ↔ ∃ input expected reltol abstol tolerance,
      Taken (Node.IsList Value.Presents) (fields "input") input ∧
      Taken Value.Presents (fields "expected") (some expected) ∧
      Taken Node.IsOptional (fields "reltol") reltol ∧
      Taken Node.IsOptional (fields "abstol") abstol ∧
      Taken Node.IsOptional (fields "tolerance") tolerance ∧
      ofFields (input.getD []) expected (reltol.getD none) (abstol.getD none)
        (tolerance.getD none) = .ok c := by
  simp only [ofFields_eq_ok_iff]
  constructor
  · rintro ⟨hinput, hexpected, hrel, ⟨abstol, tolerance, habs, htol, hor⟩, hadmissible⟩
    obtain ⟨input, hinput, hi⟩ := (orDefault_iff _ _ _ _).mp hinput
    obtain ⟨reltol, hrel, hr⟩ := (orDefault_iff _ _ _ _).mp hrel
    obtain ⟨first, hfirst, rfl⟩ := (orDefault_iff _ _ _ _).mp habs
    obtain ⟨second, hsecond, rfl⟩ := (orDefault_iff _ _ _ _).mp htol
    refine ⟨input, c.expected, reltol, first, second, hinput, (required_iff _ _ _).mp hexpected,
      hrel, hfirst, hsecond, ?_, hadmissible⟩
    rw [hi, hr, ← hor]
  · rintro ⟨input, expected, reltol, abstol, tolerance, hinput, hexpected, hrel, habs, htol, rfl,
      hadmissible⟩
    exact ⟨(orDefault_iff _ _ _ _).mpr ⟨_, hinput, rfl⟩, (required_iff _ _ _).mpr hexpected,
      (orDefault_iff _ _ _ _).mpr ⟨_, hrel, rfl⟩,
      ⟨_, _, (orDefault_iff _ _ _ _).mpr ⟨_, habs, rfl⟩,
        (orDefault_iff _ _ _ _).mpr ⟨_, htol, rfl⟩, rfl⟩, hadmissible⟩

theorem inputs_accepts (depth : Nat) :
    Accepts (nodeList Value.ofNode (depth + 1)) (Node.IsList Value.Presents) :=
  nodeList_accepts (Value.ofNode_accepts depth)

theorem takeMember_eq_ok_iff (depth : Nat) (s t : CaseFields) (p : String × Node) :
    takeMember (depth + 1) s p.1 p.2 = .ok t ↔
      (p.1 ∉ declared → p.2.WellFormed) ∧
      Advances "input" (Node.IsList Value.Presents) s.input p t.input ∧
      Advances "expected" Value.Presents s.expected p t.expected ∧
      Advances "reltol" Node.IsOptional s.reltol p t.reltol ∧
      Advances "abstol" Node.IsOptional s.abstol p t.abstol ∧
      Advances "tolerance" Node.IsOptional s.tolerance p t.tolerance := by
  obtain ⟨name, node⟩ := p
  obtain ⟨_, _, _, _, _⟩ := s
  obtain ⟨_, _, _, _, _⟩ := t
  unfold takeMember declared
  split_ifs with hinput hexpected hreltol habstol htolerance
  · obtain rfl : name = "input" := hinput
    rw [setField_eq_ok_iff (inputs_accepts depth)]
    simp [advances_other]
  · obtain rfl : name = "expected" := hexpected
    rw [setField_eq_ok_iff (Value.ofNode_accepts (depth + 1))]
    simp [advances_other, and_left_comm]
  · obtain rfl : name = "reltol" := hreltol
    rw [setField_eq_ok_iff Node.toBinary64?_accepts]
    simp [advances_other, and_left_comm]
  · obtain rfl : name = "abstol" := habstol
    rw [setField_eq_ok_iff Node.toBinary64?_accepts]
    simp [advances_other, and_left_comm]
  · obtain rfl : name = "tolerance" := htolerance
    rw [setField_eq_ok_iff Node.toBinary64?_accepts]
    simp [advances_other, and_left_comm]
  · dsimp only at hinput hexpected hreltol habstol htolerance
    rw [skipMember_eq_ok_iff]
    simp [advances_other, hinput, hexpected, hreltol, habstol, htolerance]

theorem foldlM_takeMember_eq_ok_iff (depth : Nat) (s t : CaseFields)
    (pairs : List (String × Node)) :
    pairs.foldlM (fun s p => takeMember (depth + 1) s p.1 p.2) s = .ok t ↔
      (∀ p ∈ pairs, p.1 ∉ declared → p.2.WellFormed) ∧
      Gathers "input" (Node.IsList Value.Presents) s.input pairs t.input ∧
      Gathers "expected" Value.Presents s.expected pairs t.expected ∧
      Gathers "reltol" Node.IsOptional s.reltol pairs t.reltol ∧
      Gathers "abstol" Node.IsOptional s.abstol pairs t.abstol ∧
      Gathers "tolerance" Node.IsOptional s.tolerance pairs t.tolerance := by
  induction pairs generalizing s with
  | nil =>
    obtain ⟨_, _, _, _, _⟩ := s
    obtain ⟨_, _, _, _, _⟩ := t
    simp [Gathers, pure_eq_ok_iff]
  | cons p pairs ih =>
    simp only [List.foldlM_cons, bind_eq_ok_iff, takeMember_eq_ok_iff, ih, List.forall_mem_cons,
      Gathers]
    constructor
    · rintro ⟨u, ⟨hp, h₁, h₂, h₃, h₄, h₅⟩, hps, g₁, g₂, g₃, g₄, g₅⟩
      exact ⟨⟨hp, hps⟩, ⟨_, h₁, g₁⟩, ⟨_, h₂, g₂⟩, ⟨_, h₃, g₃⟩, ⟨_, h₄, g₄⟩, ⟨_, h₅, g₅⟩⟩
    · rintro ⟨⟨hp, hps⟩, ⟨_, h₁, g₁⟩, ⟨_, h₂, g₂⟩, ⟨_, h₃, g₃⟩, ⟨_, h₄, g₄⟩, ⟨_, h₅, g₅⟩⟩
      exact ⟨⟨_, _, _, _, _⟩, ⟨hp, h₁, h₂, h₃, h₄, h₅⟩, hps, g₁, g₂, g₃, g₄, g₅⟩

theorem ofMembers_eq_ok_iff (depth : Nat) (members : Members) (c : Case) :
    ofMembers (depth + 1) members = .ok c ↔
      ∃ pairs, members.Names pairs ∧ (∀ name ∈ declared, AtMostOnce name pairs) ∧
        (∀ p ∈ pairs, p.1 ∉ declared → p.2.WellFormed) ∧
        FromFields (fun name => pairs.lookup name) c := by
  simp only [ofMembers, bind_eq_ok_iff, Members.fold_eq_ok_iff, foldlM_takeMember_eq_ok_iff,
    gathers_none_iff, requireField_eq_ok_iff, fromFields_iff]
  constructor
  · rintro ⟨s, ⟨pairs, hnames, hother, ⟨o₁, h₁⟩, ⟨o₂, h₂⟩, ⟨o₃, h₃⟩, ⟨o₄, h₄⟩, ⟨o₅, h₅⟩⟩,
      expected, hexpected, hfields⟩
    rw [hexpected] at h₂
    refine ⟨pairs, hnames, ?_, hother, _, _, _, _, _, h₁, h₂, h₃, h₄, h₅, hfields⟩
    simpa [declared] using ⟨o₁, o₂, o₃, o₄, o₅⟩
  · rintro ⟨pairs, hnames, honce, hother, input, expected, reltol, abstol, tolerance, h₁, h₂, h₃,
      h₄, h₅, hfields⟩
    obtain ⟨o₁, o₂, o₃, o₄, o₅⟩ : AtMostOnce "input" pairs ∧ AtMostOnce "expected" pairs ∧
        AtMostOnce "reltol" pairs ∧ AtMostOnce "abstol" pairs ∧ AtMostOnce "tolerance" pairs := by
      simpa [declared] using honce
    exact ⟨⟨input, some expected, reltol, abstol, tolerance⟩, ⟨pairs, hnames, hother, ⟨o₁, h₁⟩,
      ⟨o₂, h₂⟩, ⟨o₃, h₃⟩, ⟨o₄, h₄⟩, ⟨o₅, h₅⟩⟩, expected, rfl, hfields⟩

theorem ofItems_eq_ok_iff (depth : Nat) (items : Items) (c : Case) :
    ofItems (depth + 1) items = .ok c ↔
      ∃ nodes, items.Lists nodes ∧ nodes.length ≤ declared.length ∧
        FromFields (fun name => nodes[declared.idxOf name]?) c := by
  simp only [ofItems, bind_eq_ok_iff, Prod.exists, Items.require_eq_ok_iff, fromFields_iff]
  constructor
  · rintro ⟨input, i₁, h₁, expected, i₂, h₂, reltol, i₃, h₃, abstol, i₄, h₄, tolerance, i₅, h₅,
      ⟨⟩, hfinish, hfields⟩
    obtain ⟨n₄, l₄, t₄, k₅⟩ :=
      Items.lists_of_next Node.toBinary64?_accepts h₅ ((Items.finish_eq_ok_iff _).mp hfinish)
    obtain ⟨n₃, l₃, rfl, k₄⟩ := Items.lists_of_next Node.toBinary64?_accepts h₄ l₄
    obtain ⟨n₂, l₂, rfl, k₃⟩ := Items.lists_of_next Node.toBinary64?_accepts h₃ l₃
    obtain ⟨n₁, l₁, rfl, k₂⟩ := Items.lists_of_next (Value.ofNode_accepts _) h₂ l₂
    obtain ⟨nodes, hlists, rfl, k₁⟩ := Items.lists_of_next (inputs_accepts depth) h₁ l₁
    have hlength := congrArg List.length t₄
    simp only [List.length_tail, List.length_nil] at hlength
    simp only [List.head?_eq_getElem?, List.getElem?_tail] at k₁ k₂ k₃ k₄ k₅
    refine ⟨nodes, hlists, ?_, input, expected, reltol, abstol, tolerance, k₁, k₂, k₃, k₄, k₅,
      hfields⟩
    simp only [declared, List.length_cons, List.length_nil]
    omega
  · rintro ⟨nodes, hlists, hlength, input, expected, reltol, abstol, tolerance, k₁, k₂, k₃, k₄,
      k₅, hfields⟩
    obtain ⟨i₁, h₁, l₁⟩ := Items.next_of_lists (inputs_accepts depth) hlists k₁
    obtain ⟨i₂, h₂, l₂⟩ := Items.next_of_lists (Value.ofNode_accepts (depth + 1)) l₁ k₂
    obtain ⟨i₃, h₃, l₃⟩ := Items.next_of_lists Node.toBinary64?_accepts l₂ k₃
    obtain ⟨i₄, h₄, l₄⟩ := Items.next_of_lists Node.toBinary64?_accepts l₃ k₄
    obtain ⟨i₅, h₅, l₅⟩ := Items.next_of_lists Node.toBinary64?_accepts l₄ k₅
    change i₅.Lists (nodes.drop declared.length) at l₅
    rw [List.drop_eq_nil_of_le hlength] at l₅
    exact ⟨input, i₁, h₁, expected, i₂, h₂, reltol, i₃, h₃, abstol, i₄, h₄, tolerance, i₅, h₅, (),
      (Items.finish_eq_ok_iff _).mpr l₅, hfields⟩

theorem ofNode_accepts (depth : Nat) : Accepts (ofNode (depth + 2)) Presents :=
  nodeRecord_accepts (ofMembers_eq_ok_iff depth) (ofItems_eq_ok_iff depth)

end Case

namespace Definition

theorem fromFields_iff (fields : String → Option Node) (d : Definition) :
    FromFields fields d ↔
      Taken Node.IsText (fields "name") (some d.name) ∧
      Taken Node.IsText (fields "file") (some d.file) ∧
      Taken (Node.IsList Case.Presents) (fields "cases") (some d.cases) := by
  simp only [← required_iff]
  constructor
  · rintro ⟨hname, hfile, hcases⟩
    exact ⟨hname, hfile, hcases⟩
  · rintro ⟨hname, hfile, hcases⟩
    exact ⟨hname, hfile, hcases⟩

theorem cases_accepts (depth : Nat) :
    Accepts (nodeList Case.ofNode (depth + 3)) (Node.IsList Case.Presents) :=
  nodeList_accepts (Case.ofNode_accepts depth)

theorem takeMember_eq_ok_iff (depth : Nat) (s t : Fields) (p : String × Node) :
    takeMember (depth + 3) s p.1 p.2 = .ok t ↔
      (p.1 ∉ declared → p.2.WellFormed) ∧
      Advances "name" Node.IsText s.name p t.name ∧
      Advances "file" Node.IsText s.file p t.file ∧
      Advances "cases" (Node.IsList Case.Presents) s.cases p t.cases := by
  obtain ⟨name, node⟩ := p
  obtain ⟨_, _, _⟩ := s
  obtain ⟨_, _, _⟩ := t
  unfold takeMember declared
  split_ifs with hname hfile hcases
  · obtain rfl : name = "name" := hname
    rw [setField_eq_ok_iff (Node.toText_accepts _)]
    simp [advances_other]
  · obtain rfl : name = "file" := hfile
    rw [setField_eq_ok_iff (Node.toText_accepts _)]
    simp [advances_other, and_left_comm]
  · obtain rfl : name = "cases" := hcases
    rw [setField_eq_ok_iff (cases_accepts depth)]
    simp [advances_other, and_left_comm]
  · dsimp only at hname hfile hcases
    rw [skipMember_eq_ok_iff]
    simp [advances_other, hname, hfile, hcases]

theorem foldlM_takeMember_eq_ok_iff (depth : Nat) (s t : Fields) (pairs : List (String × Node)) :
    pairs.foldlM (fun s p => takeMember (depth + 3) s p.1 p.2) s = .ok t ↔
      (∀ p ∈ pairs, p.1 ∉ declared → p.2.WellFormed) ∧
      Gathers "name" Node.IsText s.name pairs t.name ∧
      Gathers "file" Node.IsText s.file pairs t.file ∧
      Gathers "cases" (Node.IsList Case.Presents) s.cases pairs t.cases := by
  induction pairs generalizing s with
  | nil =>
    obtain ⟨_, _, _⟩ := s
    obtain ⟨_, _, _⟩ := t
    simp [Gathers, pure_eq_ok_iff]
  | cons p pairs ih =>
    simp only [List.foldlM_cons, bind_eq_ok_iff, takeMember_eq_ok_iff, ih, List.forall_mem_cons,
      Gathers]
    constructor
    · rintro ⟨u, ⟨hp, h₁, h₂, h₃⟩, hps, g₁, g₂, g₃⟩
      exact ⟨⟨hp, hps⟩, ⟨_, h₁, g₁⟩, ⟨_, h₂, g₂⟩, ⟨_, h₃, g₃⟩⟩
    · rintro ⟨⟨hp, hps⟩, ⟨_, h₁, g₁⟩, ⟨_, h₂, g₂⟩, ⟨_, h₃, g₃⟩⟩
      exact ⟨⟨_, _, _⟩, ⟨hp, h₁, h₂, h₃⟩, hps, g₁, g₂, g₃⟩

theorem ofMembers_eq_ok_iff (depth : Nat) (members : Members) (d : Definition) :
    ofMembers (depth + 3) members = .ok d ↔
      ∃ pairs, members.Names pairs ∧ (∀ name ∈ declared, AtMostOnce name pairs) ∧
        (∀ p ∈ pairs, p.1 ∉ declared → p.2.WellFormed) ∧
        FromFields (fun name => pairs.lookup name) d := by
  simp only [ofMembers, bind_eq_ok_iff, pure_eq_ok_iff, Members.fold_eq_ok_iff,
    foldlM_takeMember_eq_ok_iff, gathers_none_iff, requireField_eq_ok_iff, fromFields_iff]
  constructor
  · rintro ⟨⟨_, _, _⟩, ⟨pairs, hnames, hother, ⟨o₁, h₁⟩, ⟨o₂, h₂⟩, ⟨o₃, h₃⟩⟩, name, rfl, file, rfl,
      cases, rfl, rfl⟩
    refine ⟨pairs, hnames, ?_, hother, h₁, h₂, h₃⟩
    simpa [declared] using ⟨o₁, o₂, o₃⟩
  · rintro ⟨pairs, hnames, honce, hother, h₁, h₂, h₃⟩
    obtain ⟨o₁, o₂, o₃⟩ : AtMostOnce "name" pairs ∧ AtMostOnce "file" pairs ∧
        AtMostOnce "cases" pairs := by
      simpa [declared] using honce
    exact ⟨⟨some d.name, some d.file, some d.cases⟩,
      ⟨pairs, hnames, hother, ⟨o₁, h₁⟩, ⟨o₂, h₂⟩, ⟨o₃, h₃⟩⟩, _, rfl, _, rfl, _, rfl, rfl⟩

theorem ofItems_eq_ok_iff (depth : Nat) (items : Items) (d : Definition) :
    ofItems (depth + 3) items = .ok d ↔
      ∃ nodes, items.Lists nodes ∧ nodes.length ≤ declared.length ∧
        FromFields (fun name => nodes[declared.idxOf name]?) d := by
  simp only [ofItems, bind_eq_ok_iff, pure_eq_ok_iff, Prod.exists, Items.require_eq_ok_iff,
    fromFields_iff]
  constructor
  · rintro ⟨name, i₁, h₁, file, i₂, h₂, cases, i₃, h₃, ⟨⟩, hfinish, rfl⟩
    obtain ⟨n₂, l₂, t₂, k₃⟩ :=
      Items.lists_of_next (cases_accepts depth) h₃ ((Items.finish_eq_ok_iff _).mp hfinish)
    obtain ⟨n₁, l₁, rfl, k₂⟩ := Items.lists_of_next (Node.toText_accepts _) h₂ l₂
    obtain ⟨nodes, hlists, rfl, k₁⟩ := Items.lists_of_next (Node.toText_accepts _) h₁ l₁
    have hlength := congrArg List.length t₂
    simp only [List.length_tail, List.length_nil] at hlength
    simp only [List.head?_eq_getElem?, List.getElem?_tail] at k₁ k₂ k₃
    refine ⟨nodes, hlists, ?_, k₁, k₂, k₃⟩
    simp only [declared, List.length_cons, List.length_nil]
    omega
  · rintro ⟨nodes, hlists, hlength, k₁, k₂, k₃⟩
    obtain ⟨i₁, h₁, l₁⟩ := Items.next_of_lists (Node.toText_accepts "a string") hlists k₁
    obtain ⟨i₂, h₂, l₂⟩ := Items.next_of_lists (Node.toText_accepts "path string") l₁ k₂
    obtain ⟨i₃, h₃, l₃⟩ := Items.next_of_lists (cases_accepts depth) l₂ k₃
    change i₃.Lists (nodes.drop declared.length) at l₃
    rw [List.drop_eq_nil_of_le hlength] at l₃
    exact ⟨_, i₁, h₁, _, i₂, h₂, _, i₃, h₃, (), (Items.finish_eq_ok_iff _).mpr l₃, rfl⟩

theorem ofNode_accepts (depth : Nat) : Accepts (ofNode (depth + 4)) Presents :=
  nodeRecord_accepts (ofMembers_eq_ok_iff depth) (ofItems_eq_ok_iff depth)

end Definition

namespace Document

theorem fromFields_iff (fields : String → Option Node) (d : Document) :
    FromFields fields d ↔
      Taken Node.IsText (fields "category") (some d.category) ∧
      Taken (Node.IsList Definition.Presents) (fields "tests") (some d.definitions) := by
  simp only [← required_iff]
  constructor
  · rintro ⟨hcategory, htests⟩
    exact ⟨hcategory, htests⟩
  · rintro ⟨hcategory, htests⟩
    exact ⟨hcategory, htests⟩

theorem tests_accepts (depth : Nat) :
    Accepts (nodeList Definition.ofNode (depth + 5)) (Node.IsList Definition.Presents) :=
  nodeList_accepts (Definition.ofNode_accepts depth)

theorem takeMember_eq_ok_iff (depth : Nat) (s t : Fields) (p : String × Node) :
    takeMember (depth + 5) s p.1 p.2 = .ok t ↔
      (p.1 ∉ declared → p.2.WellFormed) ∧
      Advances "category" Node.IsText s.category p t.category ∧
      Advances "tests" (Node.IsList Definition.Presents) s.tests p t.tests := by
  obtain ⟨name, node⟩ := p
  obtain ⟨_, _⟩ := s
  obtain ⟨_, _⟩ := t
  unfold takeMember declared
  split_ifs with hcategory htests
  · obtain rfl : name = "category" := hcategory
    rw [setField_eq_ok_iff (Node.toText_accepts _)]
    simp [advances_other]
  · obtain rfl : name = "tests" := htests
    rw [setField_eq_ok_iff (tests_accepts depth)]
    simp [advances_other, and_left_comm]
  · dsimp only at hcategory htests
    rw [skipMember_eq_ok_iff]
    simp [advances_other, hcategory, htests]

theorem foldlM_takeMember_eq_ok_iff (depth : Nat) (s t : Fields) (pairs : List (String × Node)) :
    pairs.foldlM (fun s p => takeMember (depth + 5) s p.1 p.2) s = .ok t ↔
      (∀ p ∈ pairs, p.1 ∉ declared → p.2.WellFormed) ∧
      Gathers "category" Node.IsText s.category pairs t.category ∧
      Gathers "tests" (Node.IsList Definition.Presents) s.tests pairs t.tests := by
  induction pairs generalizing s with
  | nil =>
    obtain ⟨_, _⟩ := s
    obtain ⟨_, _⟩ := t
    simp [Gathers, pure_eq_ok_iff]
  | cons p pairs ih =>
    simp only [List.foldlM_cons, bind_eq_ok_iff, takeMember_eq_ok_iff, ih, List.forall_mem_cons,
      Gathers]
    constructor
    · rintro ⟨u, ⟨hp, h₁, h₂⟩, hps, g₁, g₂⟩
      exact ⟨⟨hp, hps⟩, ⟨_, h₁, g₁⟩, ⟨_, h₂, g₂⟩⟩
    · rintro ⟨⟨hp, hps⟩, ⟨_, h₁, g₁⟩, ⟨_, h₂, g₂⟩⟩
      exact ⟨⟨_, _⟩, ⟨hp, h₁, h₂⟩, hps, g₁, g₂⟩

theorem ofMembers_eq_ok_iff (depth : Nat) (members : Members) (d : Document) :
    ofMembers (depth + 5) members = .ok d ↔
      ∃ pairs, members.Names pairs ∧ (∀ name ∈ declared, AtMostOnce name pairs) ∧
        (∀ p ∈ pairs, p.1 ∉ declared → p.2.WellFormed) ∧
        FromFields (fun name => pairs.lookup name) d := by
  simp only [ofMembers, bind_eq_ok_iff, pure_eq_ok_iff, Members.fold_eq_ok_iff,
    foldlM_takeMember_eq_ok_iff, gathers_none_iff, requireField_eq_ok_iff, fromFields_iff]
  constructor
  · rintro ⟨⟨_, _⟩, ⟨pairs, hnames, hother, ⟨o₁, h₁⟩, ⟨o₂, h₂⟩⟩, category, rfl, tests, rfl, rfl⟩
    refine ⟨pairs, hnames, ?_, hother, h₁, h₂⟩
    simpa [declared] using ⟨o₁, o₂⟩
  · rintro ⟨pairs, hnames, honce, hother, h₁, h₂⟩
    obtain ⟨o₁, o₂⟩ : AtMostOnce "category" pairs ∧ AtMostOnce "tests" pairs := by
      simpa [declared] using honce
    exact ⟨⟨some d.category, some d.definitions⟩,
      ⟨pairs, hnames, hother, ⟨o₁, h₁⟩, ⟨o₂, h₂⟩⟩, _, rfl, _, rfl, rfl⟩

theorem ofItems_eq_ok_iff (depth : Nat) (items : Items) (d : Document) :
    ofItems (depth + 5) items = .ok d ↔
      ∃ nodes, items.Lists nodes ∧ nodes.length ≤ declared.length ∧
        FromFields (fun name => nodes[declared.idxOf name]?) d := by
  simp only [ofItems, bind_eq_ok_iff, pure_eq_ok_iff, Prod.exists, Items.require_eq_ok_iff,
    fromFields_iff]
  constructor
  · rintro ⟨category, i₁, h₁, tests, i₂, h₂, ⟨⟩, hfinish, rfl⟩
    obtain ⟨n₁, l₁, t₁, k₂⟩ :=
      Items.lists_of_next (tests_accepts depth) h₂ ((Items.finish_eq_ok_iff _).mp hfinish)
    obtain ⟨nodes, hlists, rfl, k₁⟩ := Items.lists_of_next (Node.toText_accepts _) h₁ l₁
    have hlength := congrArg List.length t₁
    simp only [List.length_tail, List.length_nil] at hlength
    simp only [List.head?_eq_getElem?, List.getElem?_tail] at k₁ k₂
    refine ⟨nodes, hlists, ?_, k₁, k₂⟩
    simp only [declared, List.length_cons, List.length_nil]
    omega
  · rintro ⟨nodes, hlists, hlength, k₁, k₂⟩
    obtain ⟨i₁, h₁, l₁⟩ := Items.next_of_lists (Node.toText_accepts "a string") hlists k₁
    obtain ⟨i₂, h₂, l₂⟩ := Items.next_of_lists (tests_accepts depth) l₁ k₂
    change i₂.Lists (nodes.drop declared.length) at l₂
    rw [List.drop_eq_nil_of_le hlength] at l₂
    exact ⟨_, i₁, h₁, _, i₂, h₂, (), (Items.finish_eq_ok_iff _).mpr l₂, rfl⟩

/-- A document is decoded from a tree exactly when the tree presents it: its records and
lists nest six deep, which is within any limit that leaves room for them. -/
theorem ofNode_accepts (depth : Nat) : Accepts (ofNode (depth + 6)) Presents :=
  nodeRecord_accepts (ofMembers_eq_ok_iff depth) (ofItems_eq_ok_iff depth)

end Document

end Assay
