import Assay.Verdict
import Assay.Proofs.Binary64.Written

/-!
# Verdicts on numbers

An expected value that stands for a number, and for no truth, is judged by
closeness alone: the comparison of texts is reached only by outputs that are no
number, and the text of such a value is always a number. So the verdict depends
on the number and not on how it was spelled.
-/

set_option autoImplicit false

namespace Assay

namespace Binary64

theorem signedUnits_zero (s : Bool) : signedUnits s 0 = 0 := by
  cases s <;> decide

theorem place_zero (s : Bool) : (zero s).place = 0 := by
  cases s <;> rfl

theorem eq_or_zero_of_equal {x y : Binary64} (h : equal x y = true) :
    x = y ∨ ∃ s t, x = zero s ∧ y = zero t := by
  simp only [equal, Bool.and_eq_true, beq_iff_eq] at h
  obtain ⟨⟨hx, hy⟩, hplace⟩ := h
  cases x with
  | nan => simp [isNan] at hx
  | inf s =>
    cases y with
    | nan => simp [isNan] at hy
    | inf t =>
      cases s <;> cases t <;> simp_all [place] <;> simp [rankCount] at hplace
    | finite t b =>
      have hb := b.isLt
      cases s <;> cases t <;> simp [place] at hplace <;> omega
  | finite s a =>
    have ha := a.isLt
    cases y with
    | nan => simp [isNan] at hy
    | inf t => cases s <;> cases t <;> simp [place] at hplace <;> omega
    | finite t b =>
      have hb := b.isLt
      by_cases hst : s = t
      · left
        subst hst
        have hab : a.val = b.val := by
          cases s <;> simp [place] at hplace <;> omega
        rw [Fin.ext hab]
      · right
        have hab : a.val = 0 ∧ b.val = 0 := by
          cases s <;> cases t <;> simp [place] at hst hplace <;> omega
        exact ⟨s, t, congrArg _ (Fin.ext hab.1), congrArg _ (Fin.ext hab.2)⟩

theorem abs_sub_zero (g : Binary64) (s t : Bool) :
    (sub g (zero s)).abs = (sub g (zero t)).abs := by
  cases g with
  | nan => rfl
  | inf u => rfl
  | finite u r =>
    simp only [sub, zero, neg, add, signedUnits_zero, Int.add_zero]
    split <;> rfl

end Binary64

theorem isClose_zero (g relative absolute : Binary64) (s t : Bool) :
    isClose g (Binary64.zero s) relative absolute =
      isClose g (Binary64.zero t) relative absolute := by
  have hequal : Binary64.equal g (Binary64.zero s) = Binary64.equal g (Binary64.zero t) := by
    simp only [Binary64.equal, Binary64.place_zero]
    rfl
  unfold isClose
  rw [hequal, Binary64.abs_sub_zero g s t]
  rfl

theorem isClose_of_equal {x y : Binary64} (h : Binary64.equal x y = true)
    (g relative absolute : Binary64) :
    isClose g x relative absolute = isClose g y relative absolute := by
  rcases Binary64.eq_or_zero_of_equal h with rfl | ⟨s, t, rfl, rfl⟩
  · rfl
  · exact isClose_zero g relative absolute s t

namespace Value

theorem isSome_ofText?_toText {v : Value} (h : v.number?.isSome) :
    (Binary64.ofText? (Text.trimChars v.toText.toList)).isSome := by
  cases v with
  | bool b => simp [number?] at h
  | integer i =>
    have hw := Binary64.toString_written i.toInt
    rw [toText, Text.trimChars_of_not_blank (Text.isBlank_of_written hw)]
    exact hw.isSome_ofText?
  | float x =>
    have hw := Binary64.toText_written x
    rw [toText, Text.trimChars_of_not_blank (Text.isBlank_of_written hw)]
    exact hw.isSome_ofText?
  | text s => exact h

theorem trimChars_toText_ne {v : Value} (h : v.number?.isSome) {output : List Char}
    (ho : Binary64.ofText? output = none) : Text.trimChars v.toText.toList ≠ output := by
  intro heq
  have hread := isSome_ofText?_toText h
  rw [heq, ho] at hread
  simp at hread

theorem acceptsTrimmed_number {v : Value} {x : Binary64} (hb : v.truth? = none)
    (hx : v.number? = some x) (tolerance : Tolerance) (output : List Char) :
    v.acceptsTrimmed tolerance output =
      (Binary64.ofText? output).any fun g =>
        isClose g x tolerance.effectiveRelative tolerance.effectiveAbsolute := by
  unfold acceptsTrimmed
  rw [hb, hx]
  cases ho : Binary64.ofText? output with
  | none => simpa using trimChars_toText_ne (by simp [hx]) ho
  | some g => rfl

/-- A value that stands for a number accepts exactly the outputs that are a number
close to it, and so does every other value that stands for an equal number. -/
theorem number_alone_decides (expected : Value) (x : Binary64)
    (hb : expected.truth? = none) (hx : expected.number? = some x) :
    (∀ (output : String) (relative absolute : Option Binary64),
      expected.judges ⟨relative, absolute⟩ (some output) = true ↔
        ∃ g, Binary64.ofText? (Text.trimChars output.toList) = some g ∧
          isClose g x (relative.getD (Binary64.ofDecimal false ⟨1, -9⟩))
            (absolute.getD (Binary64.ofDecimal false ⟨1, -12⟩)) = true) ∧
    ∀ (other : Value) (y : Binary64), other.truth? = none → other.number? = some y →
      (y = x ∨ Binary64.equal y x = true) →
      ∀ (tolerance : Tolerance) (output : Option String),
        other.judges tolerance output = expected.judges tolerance output := by
  constructor
  · intro output relative absolute
    rw [judges, accepts, acceptsTrimmed_number hb hx, Option.any_eq_true]
    rfl
  · intro other y hob hoy hxy tolerance output
    cases output with
    | none => rfl
    | some output =>
      have hclose (g r a : Binary64) : isClose g y r a = isClose g x r a := by
        rcases hxy with rfl | h
        · rfl
        · exact isClose_of_equal h g r a
      simp only [judges, accepts, acceptsTrimmed_number hb hx, acceptsTrimmed_number hob hoy,
        hclose]

theorem hundred_spelled_twice :
    (text " 1e2").truth? = none ∧ (text " 1e2").number? = some (Binary64.ofInt 100) ∧
      (text " 1e2").judges ⟨none, none⟩ (some "99.99999999\n") = true ∧
      ∀ (tolerance : Tolerance) (output : Option String),
        (integer 100).judges tolerance output = (text " 1e2").judges tolerance output := by
  have hb : (text " 1e2").truth? = none := by decide
  have hx : (text " 1e2").number? = some (Binary64.ofInt 100) := by decide +kernel
  have h := number_alone_decides (text " 1e2") (Binary64.ofInt 100) hb hx
  refine ⟨hb, hx, (h.1 _ _ _).mpr ?_, h.2 (integer 100) _ rfl rfl (.inl (by decide +kernel))⟩
  exact ⟨Binary64.ofDecimal false ⟨9999999999, -8⟩, by decide +kernel, by decide +kernel⟩

end Value

end Assay
