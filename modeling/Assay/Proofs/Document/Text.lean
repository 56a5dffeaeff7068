import Mathlib.Algebra.GroupWithZero.Nat
import Assay.Proofs.Binary64.Range
import Assay.Proofs.Document.Decoding
import Assay.Proofs.Json.Completeness
import Assay.Proofs.Json.Soundness
import Assay.Proofs.Json.Writing

/-!
# Documents and their texts

A text is read as a document exactly when it is one value, with blanks around
it, that presents the document. What carries this from trees to texts is that a
tree that presents something has no broken part.

The leading digits of a numeral fit a machine word, and scaling what they stand
for either stays within the finite numbers or fails. So every number that is
read from a text is finite, and so is every number in a document.
-/

set_option autoImplicit false

namespace Assay

open Json

namespace Json

theorem decodeText_eq_ok_iff {α : Type} {f : Node → Except Failure α} {R : Node → α → Prop}
    (hf : Accepts f R) (hR : ∀ node a, R node a → node.WellFormed) (text : String) (a : α) :
    decodeText f text = .ok a ↔ ∃ node, Spells text.toList node ∧ R node a := by
  unfold decodeText
  simp only [bind_eq_ok_iff, hf _ _]
  constructor
  · rintro ⟨b, hb, h⟩
    split at h
    · simp [throw, throwThe, MonadExceptOf.throw, bind, Except.bind] at h
    · rename_i hend
      obtain rfl := (pure_eq_ok_iff _ _).mp h
      exact ⟨_, spells_of_readText (hR _ _ hb) (by simpa using hend), hb⟩
  · rintro ⟨node, hspells, hnode⟩
    rw [readText_of_spells hspells]
    exact ⟨a, hnode, rfl⟩

end Json

namespace Document

/-- A text reads as a document exactly when it spells a presentation of it, and the
document counts every case of every definition. -/
theorem text_reads_iff_presents (text : String) (d : Document) :
    (ofText text = .ok d ↔ ∃ node, Spells text.toList node ∧ Presents node d) ∧
      d.caseCount = (d.definitions.map fun f => f.cases.length).sum ∧
      d.caseCount = d.entries.length := by
  refine ⟨decodeText_eq_ok_iff (ofNode_accepts 121) (fun _ _ => Presents.wellFormed) text d, ?_,
    (length_entries d).symm⟩
  rw [caseCount, List.sum_eq_foldr, List.foldr_map]

end Document

/-! ## Numbers of a text -/

namespace Json

theorem takeDigits_lt {word : Nat} (h : word < wordBound) (cs : List Char) :
    (takeDigits word cs).1 < wordBound := by
  induction cs generalizing word with
  | nil => exact h
  | cons c cs ih =>
    rw [takeDigits]
    dsimp only
    split
    · rename_i hnext
      exact ih hnext
    · exact h

theorem isFinite_ofNat_word {word : Nat} (h : word < wordBound) :
    (Binary64.ofNat word).isFinite = true := by
  have hbound : wordBound = 2 ^ 64 := rfl
  exact Binary64.isFinite_ofInt (by omega)

theorem isFinite_div_power {x : Binary64} {k : Nat} (hx : x.isFinite = true) (hk : k ≤ 308) :
    (Binary64.div x (Binary64.ofDecimal false ⟨1, k⟩)).isFinite = true := by
  obtain ⟨rank, hpower, hone⟩ := Binary64.ofDecimal_power hk
  rw [hpower]
  exact Binary64.isFinite_div_of_one_le hx hone

/-- Scaling a finite number fails rather than leave the finite numbers. -/
theorem scaleByTen_finite {x y : Binary64} {exponent : Int} (steps : Nat)
    (hx : x.isFinite = true) (h : scaleByTen x exponent steps = some y) : y.isFinite = true := by
  induction steps generalizing x exponent with
  | zero =>
    obtain rfl : x = y := Option.some.inj h
    exact hx
  | succ steps ih =>
    -- A product is checked before it is returned, and no divisor is less than one.
    rw [scaleByTen] at h
    dsimp only at h
    split_ifs at h with hsmall hsign hproduct hzero hlarge
    · cases h
      exact hproduct
    · cases h
      exact isFinite_div_power hx hsmall
    · cases h
      exact hx
    · exact ih (isFinite_div_power hx (Nat.le_refl 308)) h

namespace Numeral

variable {n : Numeral}

theorem significand_lt (n : Numeral) : n.significand.1 < wordBound :=
  takeDigits_lt (takeDigits_lt (by decide) n.whole) n.fraction

theorem isFinite_signed {x : Binary64} (h : x.isFinite = true) :
    (n.signed x).isFinite = true := by
  unfold signed
  split
  · rw [Binary64.isFinite_neg, h]
  · exact h

theorem isFinite_scaled {shift : Int} {x : Binary64}
    (h : (scaleByTen (Binary64.ofNat n.significand.1) shift 4).map n.signed = some x) :
    x.isFinite = true := by
  rw [Option.map_eq_some_iff] at h
  obtain ⟨y, hy, rfl⟩ := h
  exact isFinite_signed (scaleByTen_finite 4 (isFinite_ofNat_word n.significand_lt) hy)

theorem isFinite_of_float? {x : Binary64} (h : n.float? = some x) : x.isFinite = true := by
  unfold float? at h
  dsimp only at h
  split at h
  · exact isFinite_scaled h
  · -- An exponent beyond the greatest one is never scaled with: the number is zero, or none.
    split_ifs at h with hgreat hlost hnegative
    · cases h
      rfl
    · exact isFinite_scaled h
    · exact isFinite_scaled h

theorem isFinite_of_value? {v : Number} (h : n.value? = some v) :
    v.toBinary64.isFinite = true := by
  have hfloat (hv : n.float?.map .float = some v) : v.toBinary64.isFinite = true := by
    rw [Option.map_eq_some_iff] at hv
    obtain ⟨x, hx, rfl⟩ := hv
    exact isFinite_of_float? hx
  unfold value? at h
  dsimp only at h
  split_ifs at h with hwhole hnegative hfits hword
  · cases h
    have hle : digitsValue n.whole ≤ 2 ^ 63 := hfits.2
    exact Binary64.isFinite_ofInt (by omega)
  · exact hfloat h
  · cases h
    exact isFinite_ofNat_word hword
  · exact hfloat h
  · exact hfloat h

end Numeral

end Json

/-! ## Numbers of a document -/

theorem Value.Presents.writable {node : Node} {v : Value} (h : Value.Presents node v) :
    v.Writable := by
  rintro x rfl
  cases h with
  | large h hz => exact Numeral.isFinite_of_value? h
  | float h => exact Numeral.isFinite_of_value? h

theorem Json.Node.IsList.all {α : Type} {R : Node → α → Prop} {P : α → Prop} {node : Node}
    {xs : List α} (h : node.IsList R xs) (hR : ∀ node x, R node x → P x) : ∀ x ∈ xs, P x := by
  cases h with
  | intro hlists hall =>
    clear hlists
    induction hall with
    | nil => simp
    | cons hx hall ih => exact List.forall_mem_cons.mpr ⟨hR _ _ hx, ih⟩

/-- Every number among the arguments and the expectation is finite, and so is every
tolerance, which is not negative either. -/
structure Case.Sound (c : Case) : Prop where
  inputs : ∀ v ∈ c.inputs, v.Writable
  expected : c.expected.Writable
  tolerance : c.tolerance.Admissible

def Document.Sound (d : Document) : Prop := ∀ f ∈ d.definitions, ∀ c ∈ f.cases, c.Sound

theorem Case.Presents.sound {node : Node} {c : Case} (h : Case.Presents node c) : c.Sound := by
  obtain ⟨fields, -, hfields⟩ := h
  obtain ⟨expected, -, hexpected⟩ := hfields.expected
  refine ⟨?_, hexpected.writable, hfields.admissible⟩
  have hinput := hfields.input
  cases hfield : fields "input" with
  | none =>
    rw [hfield] at hinput
    have hnone : c.inputs = [] := hinput
    simp [hnone]
  | some inputs =>
    rw [hfield] at hinput
    exact Node.IsList.all hinput fun _ _ => Value.Presents.writable

theorem Definition.Presents.sound {node : Node} {d : Definition} (h : Definition.Presents node d) :
    ∀ c ∈ d.cases, c.Sound := by
  obtain ⟨fields, -, hfields⟩ := h
  obtain ⟨cases, -, hcases⟩ := hfields.cases
  exact hcases.all fun _ _ => Case.Presents.sound

theorem Document.Presents.sound {node : Node} {d : Document} (h : Document.Presents node d) :
    d.Sound := by
  obtain ⟨fields, -, hfields⟩ := h
  obtain ⟨tests, -, htests⟩ := hfields.tests
  exact htests.all fun _ _ => Definition.Presents.sound

theorem Document.presents_of_text {text : String} {d : Document} (h : ofText text = .ok d) :
    ∃ tree, Spells text.toList tree ∧ Presents tree d :=
  (decodeText_eq_ok_iff (ofNode_accepts 121) (fun _ _ => Presents.wellFormed) text d).mp h

theorem Document.sound_of_text {text : String} {d : Document} (h : ofText text = .ok d) :
    d.Sound := by
  obtain ⟨tree, -, hpresents⟩ := presents_of_text h
  exact hpresents.sound

end Assay
