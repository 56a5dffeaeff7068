import Mathlib.Data.List.Forall2
import Mathlib.Tactic.SplitIfs
import Assay.Proofs.Verdict.Numbers

/-!
# Verdicts on truths

A value that stands for a truth accepts the spellings of that truth and nothing
else: the tolerances have no say, and neither has the way in which the value was
given. The two truths have no spelling in common, and the spellings that are
numbers, too, are the two digits.
-/

set_option autoImplicit false

namespace Assay

/-! ## Letters in either case -/

theorem toNat_toLower (c : Char) :
    c.toLower.toNat = if 65 ≤ c.toNat ∧ c.toNat ≤ 90 then c.toNat + 32 else c.toNat := by
  have hupper : (c.val ≥ 'A'.val ∧ c.val ≤ 'Z'.val) ↔ 65 ≤ c.toNat ∧ c.toNat ≤ 90 := by
    rw [ge_iff_le, UInt32.le_iff_toNat_le, UInt32.le_iff_toNat_le]
    rfl
  unfold Char.toLower
  split_ifs with h h' h'
  · have hsum : (c.val + ('a'.val - 'A'.val)).toNat = (c.toNat + 32) % 2 ^ 32 :=
      UInt32.toNat_add _ _
    exact hsum.trans (Nat.mod_eq_of_lt (by omega))
  · exact absurd (hupper.mp h) h'
  · exact absurd (hupper.mpr h') h
  · rfl

theorem toNat_toUpper (c : Char) :
    c.toUpper.toNat = if 97 ≤ c.toNat ∧ c.toNat ≤ 122 then c.toNat - 32 else c.toNat := by
  have hlower : ('a'.val ≤ c.val ∧ c.val ≤ 'z'.val) ↔ 97 ≤ c.toNat ∧ c.toNat ≤ 122 := by
    rw [UInt32.le_iff_toNat_le, UInt32.le_iff_toNat_le]
    rfl
  unfold Char.toUpper
  split_ifs with h h' h'
  · -- The distance between the cases is negative, and is added with a wrap.
    have hsum : (c.val + ('A'.val - 'a'.val)).toNat = (c.toNat + (2 ^ 32 - 32)) % 2 ^ 32 :=
      UInt32.toNat_add _ _
    exact hsum.trans (by omega)
  · exact absurd (hlower.mp h) h'
  · exact absurd (hlower.mpr h') h
  · rfl

theorem toLower_eq_iff {letter c : Char} (h : letter.isLower = true) :
    c.toLower = letter ↔ c = letter ∨ c = letter.toUpper := by
  have hlower : 97 ≤ letter.toNat ∧ letter.toNat ≤ 122 := by
    have hbounds : (decide (letter.val ≥ 'a'.val) && decide (letter.val ≤ 'z'.val)) = true := h
    rw [Bool.and_eq_true, decide_eq_true_eq, decide_eq_true_eq] at hbounds
    exact hbounds
  rw [← Char.toNat_inj, ← Char.toNat_inj, ← Char.toNat_inj, toNat_toLower, toNat_toUpper]
  split_ifs <;> omega

def AnyCase (word cs : List Char) : Prop :=
  List.Forall₂ (fun letter c => c = letter ∨ c = letter.toUpper) word cs

theorem foldCase_eq_iff {word cs : List Char} (h : ∀ letter ∈ word, letter.isLower = true) :
    Binary64.foldCase cs = word ↔ AnyCase word cs := by
  induction cs generalizing word with
  | nil => cases word <;> simp [Binary64.foldCase, AnyCase]
  | cons c cs ih =>
    cases word with
    | nil => simp [Binary64.foldCase, AnyCase]
    | cons letter word =>
      have htail := ih fun l hl => h l (List.mem_cons_of_mem _ hl)
      simp only [Binary64.foldCase, AnyCase] at htail ⊢
      rw [List.map_cons, List.cons.injEq, List.forall₂_cons, htail,
        toLower_eq_iff (h letter List.mem_cons_self)]

/-! ## Spellings of truths -/

def truthWord (b : Bool) : List Char := if b then ['t', 'r', 'u', 'e'] else ['f', 'a', 'l', 's', 'e']

inductive SpellsTruth (b : Bool) : List Char → Prop where
  | glyph : SpellsTruth b (truthGlyph b).toList
  | digit : SpellsTruth b [if b then '1' else '0']
  | word {cs : List Char} (h : AnyCase (truthWord b) cs) : SpellsTruth b cs

theorem truthWord_isLower (b : Bool) : ∀ letter ∈ truthWord b, letter.isLower = true := by
  rw [← List.all_eq_true]
  cases b <;> rfl

theorem ofList_eq_iff (cs : List Char) (s : String) : String.ofList cs = s ↔ cs = s.toList := by
  rw [← String.toList_inj, String.toList_ofList]

theorem readTruth?_eq_some_iff (b : Bool) (cs : List Char) :
    readTruth? cs = some b ↔ SpellsTruth b cs := by
  constructor
  · intro h
    unfold readTruth? at h
    simp only [ofList_eq_iff] at h
    split_ifs at h with htrue hfalse hword hword <;> cases h
    · rcases htrue with rfl | rfl
      · exact .glyph
      · exact .digit
    · rcases hfalse with rfl | rfl
      · exact .glyph
      · exact .digit
    · exact .word ((foldCase_eq_iff (truthWord_isLower true)).mp hword)
    · exact .word ((foldCase_eq_iff (truthWord_isLower false)).mp hword)
  · intro h
    cases h with
    | glyph => cases b <;> decide
    | digit => cases b <;> decide
    | word h =>
      have hfold : Binary64.foldCase cs = truthWord b :=
        (foldCase_eq_iff (truthWord_isLower b)).mpr h
      have hne {other : List Char} (hother : Binary64.foldCase other ≠ truthWord b) :
          cs ≠ other := fun heq => hother (heq ▸ hfold)
      unfold readTruth?
      simp only [ofList_eq_iff, hfold]
      rw [if_neg (not_or.mpr ⟨hne (by cases b <;> decide), hne (by cases b <;> decide)⟩),
        if_neg (not_or.mpr ⟨hne (by cases b <;> decide), hne (by cases b <;> decide)⟩)]
      cases b <;> decide

theorem SpellsTruth.unique {b c : Bool} {cs : List Char} (hb : SpellsTruth b cs)
    (hc : SpellsTruth c cs) : b = c := by
  have hread := (readTruth?_eq_some_iff b cs).mpr hb
  rw [(readTruth?_eq_some_iff c cs).mpr hc] at hread
  exact (Option.some.inj hread).symm

theorem Decimal.ofText?_cons_eq_none {c : Char} (cs : List Char) (hdigit : c.isDigit = false)
    (hpoint : c ≠ '.') : ofText? (c :: cs) = none := by
  have hspan : spanDigits ([] ++ c :: cs) = ([], c :: cs) :=
    spanDigits_append [] (c :: cs) (by simp [AllDigits]) (by simpa using hdigit)
  rw [List.nil_append] at hspan
  unfold ofText?
  rw [hspan]
  simp [hpoint]

theorem ofText?_eq_none_of_anyCase {b : Bool} {cs : List Char} (h : AnyCase (truthWord b) cs) :
    Binary64.ofText? cs = none := by
  have hfold := (foldCase_eq_iff (truthWord_isLower b)).mpr h
  obtain ⟨c, more, rfl, hc⟩ : ∃ c more, cs = c :: more ∧
      (c = 't' ∨ c = 'T' ∨ c = 'f' ∨ c = 'F') := by
    cases b with
    | true =>
      cases h with
      | cons hfirst _ => exact ⟨_, _, rfl, hfirst.imp_right .inl⟩
    | false =>
      cases h with
      | cons hfirst _ => exact ⟨_, _, rfl, .inr (.inr hfirst)⟩
  have hsign : Decimal.spanSign (c :: more) = (false, c :: more) := by
    rcases hc with rfl | rfl | rfl | rfl <;> rfl
  have hbody : Decimal.ofText? (c :: more) = none := by
    rcases hc with rfl | rfl | rfl | rfl <;> exact Decimal.ofText?_cons_eq_none _ rfl (by decide)
  unfold Binary64.ofText?
  simp only [hsign, hfold, hbody]
  cases b <;> decide

theorem SpellsTruth.digit_of_number {b : Bool} {cs : List Char} {x : Binary64}
    (h : SpellsTruth b cs) (hx : Binary64.ofText? cs = some x) : cs = ['0'] ∨ cs = ['1'] := by
  cases h with
  | glyph =>
    have hnone : Binary64.ofText? (truthGlyph b).toList = none := by cases b <;> decide
    rw [hnone] at hx
    cases hx
  | digit => cases b <;> simp
  | word h =>
    rw [ofText?_eq_none_of_anyCase h] at hx
    cases hx

/-! ## Verdicts -/

namespace Value

def IsTruth (v : Value) (b : Bool) : Prop := v = .bool b ∨ v = .text (truthGlyph b)

theorem truth?_eq_some_iff (v : Value) (b : Bool) : v.truth? = some b ↔ v.IsTruth b := by
  constructor
  · intro h
    cases v with
    | bool a =>
      cases h
      exact .inl rfl
    | integer i => cases h
    | float x => cases h
    | text s =>
      unfold truth? at h
      dsimp only at h
      split_ifs at h with htrue hfalse <;> cases h
      · exact .inr (congrArg text htrue)
      · exact .inr (congrArg text hfalse)
  · rintro (rfl | rfl)
    · rfl
    · cases b <;> decide

theorem accepts_truth {v : Value} {b : Bool} (h : v.IsTruth b) (tolerance : Tolerance)
    (output : String) : v.judges tolerance (some output) = true ↔
      SpellsTruth b (Text.trimChars output.toList) := by
  rw [← readTruth?_eq_some_iff, judges, accepts, acceptsTrimmed, (truth?_eq_some_iff v b).mpr h]
  exact beq_iff_eq

/-- A value that stands for a truth accepts the spellings of this truth and no others, with
all tolerances and in both its forms. No output is accepted for both truths, and only the
digits are accepted for a number as well. -/
theorem truths_are_judged_apart :
    (∀ (v : Value) (b : Bool), v.IsTruth b → ∀ (relative absolute : Option Binary64)
      (output : String), v.judges ⟨relative, absolute⟩ (some output) = true ↔
        SpellsTruth b (Text.trimChars output.toList)) ∧
    (∀ (b : Bool) (tolerance other : Tolerance) (output : Option String),
      (bool b).judges tolerance output = (text (truthGlyph b)).judges other output) ∧
    (∀ (v w : Value), v.IsTruth true → w.IsTruth false → ∀ (tolerance other : Tolerance)
      (output : Option String),
        ¬(v.judges tolerance output = true ∧ w.judges other output = true)) ∧
    ∀ (v w : Value) (b : Bool) (x : Binary64), v.IsTruth b → (∀ c, ¬w.IsTruth c) →
      w.number? = some x → ∀ (tolerance other : Tolerance) (output : String),
        v.judges tolerance (some output) = true → w.judges other (some output) = true →
          Text.trim output = "0" ∨ Text.trim output = "1" := by
  refine ⟨fun v b h relative absolute => accepts_truth h ⟨relative, absolute⟩, ?_, ?_, ?_⟩
  · intro b tolerance other output
    cases output with
    | none => rfl
    | some output =>
      rw [Bool.eq_iff_iff, accepts_truth (.inl rfl), accepts_truth (.inr rfl)]
  · intro v w hv hw tolerance other output h
    cases output with
    | none => cases h.1
    | some output =>
      rw [accepts_truth hv, accepts_truth hw] at h
      cases h.1.unique h.2
  · intro v w b x hv hw hx tolerance other output haccepts hnumber
    have hspells := (accepts_truth hv tolerance output).mp haccepts
    have htruth : w.truth? = none := by
      rw [Option.eq_none_iff_forall_ne_some]
      exact fun c hc => hw c ((truth?_eq_some_iff w c).mp hc)
    rw [judges, accepts, acceptsTrimmed_number htruth hx, Option.any_eq_true] at hnumber
    obtain ⟨g, hg, -⟩ := hnumber
    unfold Text.trim
    exact (hspells.digit_of_number hg).imp (congrArg String.ofList) (congrArg String.ofList)

theorem mixed_case_word_and_one_are_accepted :
    (bool true).judges .unset (some " tRuE\n") = true ∧
      (text "⊤").judges .unset (some " tRuE\n") = true ∧
      (bool false).judges .unset (some " tRuE\n") = false ∧
      (bool true).judges .unset (some " 1\n") = true ∧
      (integer 1).judges .unset (some " 1\n") = true ∧ Text.trim " 1\n" = "1" := by
  obtain ⟨haccepts, hforms, hapart, hdigits⟩ := truths_are_judged_apart
  have hword : (bool true).judges .unset (some " tRuE\n") = true := by
    refine (haccepts (bool true) true (.inl rfl) none none _).mpr ?_
    have htrim : Text.trimChars " tRuE\n".toList = ['t', 'R', 'u', 'E'] := by decide
    rw [htrim]
    exact .word (.cons (.inl rfl) (.cons (.inr rfl) (.cons (.inl rfl) (.cons (.inr rfl) .nil))))
  have hglyph : (text "⊤").judges .unset (some " tRuE\n") = true :=
    (hforms true .unset .unset (some " tRuE\n")).symm.trans hword
  have hfalse := hapart (bool true) (bool false) (.inl rfl) (.inl rfl) .unset .unset
    (some " tRuE\n")
  have htruth : (bool true).judges .unset (some " 1\n") = true := by decide
  have hnumber : (integer 1).judges .unset (some " 1\n") = true := by decide +kernel
  have hone := hdigits (bool true) (integer 1) true (Binary64.ofInt 1) (.inl rfl)
    (by rintro c (h | h) <;> cases h) rfl .unset .unset " 1\n" htruth hnumber
  exact ⟨hword, hglyph, Bool.eq_false_iff.mpr fun h => hfalse ⟨hword, h⟩, htruth, hnumber,
    hone.resolve_left (by decide)⟩

end Value

end Assay
