import Mathlib.Algebra.Order.Field.Basic
import Mathlib.Data.Rat.Cast.Order
import Mathlib.Tactic.FieldSimp
import Mathlib.Tactic.Positivity
import Assay.Proofs.Binary64.Range

/-!
# How far rounding leads

From the first scale on, neighbouring magnitudes differ by one part in `2 ^ 52`
at most, so rounding makes a ratio larger or smaller by half of that. Below it
the magnitudes are the whole numbers of units, and rounding is off by half a
unit. So a whole number of units that is far above a ratio keeps a larger rank,
unless the ratio is rounded up to it.
-/

set_option autoImplicit false

namespace Assay.Binary64

theorem units_of_le {rank : Nat} (h : rank ≤ 2 ^ 53) : units rank = rank := by
  have hscaled := units_scaled (k := 0) h (.inl rfl)
  simpa using hscaled

theorem nearestRank_units (rank : Nat) {den : Nat} (hden : 0 < den) :
    nearestRank (units rank * den) den = rank := by
  rcases Nat.eq_zero_or_pos rank with rfl | hpos
  · rw [units_zero, Nat.zero_mul, nearestRank_zero hden]
  · exact (nearestRank_eq_iff _ _ hden).mpr (inCell_units hpos hden)

theorem nearestRank_of_le {n : Nat} (h : n ≤ 2 ^ 53) : nearestRank n 1 = n := by
  have hunits := nearestRank_units n Nat.one_pos
  rwa [units_of_le h, Nat.mul_one] at hunits

theorem nearestRank_mul_mul (num : Nat) {den k : Nat} (hden : 0 < den) (hk : 0 < k) :
    nearestRank (num * k) (den * k) = nearestRank num den := by
  rw [nearestRank_eq_iff _ _ (Nat.mul_pos hden hk)]
  refine (inCell_nearestRank num hden).congr hden (Nat.mul_pos hden hk) ?_
  ring

/-- The step from a magnitude to the next one is small beside both of them, if they are not
in the lowest scale. -/
theorem exists_step (rank : Nat) : ∃ step, units (rank + 1) = units rank + step ∧
    (2 ^ 52 ≤ rank + 1 → 2 ^ 52 * step ≤ units (rank + 1)) ∧
    (2 ^ 52 ≤ rank → 2 ^ 52 * step ≤ units rank) := by
  obtain ⟨k, j, rfl, hj, hnormal⟩ := exists_scaled rank
  have hnext : units (k * 2 ^ 52 + j + 1) = (j + 1) * 2 ^ k := by
    rw [Nat.add_assoc, units_scaled hj (hnormal.imp_right Nat.le_succ_of_le)]
  rw [units_scaled hj.le hnormal, hnext]
  refine ⟨2 ^ k, Nat.add_one_mul _ _, fun h => ?_, fun h => ?_⟩
  · exact Nat.mul_le_mul_right _ (by omega)
  · exact Nat.mul_le_mul_right _ (by omega)

theorem le_lowerEnd {rank : Nat} (h : 2 ^ 52 ≤ rank) :
    (2 ^ 53 - 1) * units rank ≤ 2 ^ 52 * lowerEnd rank := by
  obtain ⟨rank, rfl⟩ : ∃ r, rank = r + 1 := ⟨rank - 1, by omega⟩
  obtain ⟨step, hstep, hsmall, -⟩ := exists_step rank
  have := hsmall h
  rw [lowerEnd, Nat.add_sub_cancel]
  omega

theorem upperEnd_le_of_normal {rank : Nat} (h : 2 ^ 52 ≤ rank) :
    2 ^ 52 * upperEnd rank ≤ (2 ^ 53 + 1) * units rank := by
  obtain ⟨step, hstep, -, hsmall⟩ := exists_step rank
  have := hsmall h
  rw [upperEnd, hstep]
  omega

theorem upperEnd_mono {r s : Nat} (h : r ≤ s) : upperEnd r ≤ upperEnd s :=
  Nat.add_le_add (units_strictMono.monotone h) (units_strictMono.monotone (Nat.succ_le_succ h))

theorem lowerEnd_of_small {rank : Nat} (hpos : 0 < rank) (hsmall : rank ≤ 2 ^ 53) :
    lowerEnd rank + 1 = 2 * rank := by
  rw [lowerEnd, units_of_le (by omega), units_of_le hsmall]
  omega

theorem le_nearestRank_iff {rank num den : Nat} (hden : 0 < den) :
    rank ≤ nearestRank num den ↔
      lowerEnd rank * den ≤ 2 * num ∧ (rank % 2 = 1 → lowerEnd rank * den < 2 * num) := by
  have hcell := inCell_nearestRank num hden
  generalize nearestRank num den = found at hcell
  constructor
  · intro hle
    rcases hle.eq_or_lt with rfl | hlt
    · exact ⟨hcell.lower, fun hodd => (hcell.odd hodd).1⟩
    · have hmid := (lowerEnd_le rank).trans_lt (lt_upperEnd rank)
      have hends := hmid.trans_le (upperEnd_le_lowerEnd hlt)
      have habove := (Nat.mul_lt_mul_of_pos_right hends hden).trans_le hcell.lower
      exact ⟨habove.le, fun _ => habove⟩
  · rintro ⟨hlower, hodd⟩
    by_contra hlt
    have hends := Nat.mul_le_mul_right den (upperEnd_le_lowerEnd (Nat.lt_of_not_le hlt))
    have hupper := hcell.upper
    by_cases hnext : rank = found + 1
    · -- Two neighbours share a midpoint, and one of them is odd.
      rcases Nat.mod_two_eq_zero_or_one found with hpar | hpar
      · have hstrict := hodd (by omega)
        omega
      · have hstrict := (hcell.odd hpar).2
        omega
    · have hgap : upperEnd found < lowerEnd rank := upperEnd_lt_lowerEnd (by omega)
      have hstrict := Nat.mul_lt_mul_of_pos_right hgap hden
      omega

section Far

variable {num den gap : Nat}

/-- Above the lowest scale, what is far above a ratio has a larger rank. -/
theorem nearestRank_lt_of_normal (hden : 0 < den) (hnormal : 2 ^ 52 ≤ nearestRank num den)
    (hfar : (2 ^ 50 + 1) * num < 2 ^ 50 * (gap * den)) :
    nearestRank num den < nearestRank gap 1 := by
  by_contra hle
  have hcell := (inCell_nearestRank num hden).lower
  have hgap := Nat.mul_le_mul_right den (inCell_nearestRank gap Nat.one_pos).upper
  have hends := Nat.mul_le_mul_right den (upperEnd_mono (Nat.le_of_not_lt hle))
  generalize nearestRank num den = rank at *
  have hlower := Nat.mul_le_mul_right den (le_lowerEnd hnormal)
  have hupper := Nat.mul_le_mul_right den (upperEnd_le_of_normal hnormal)
  rw [Nat.mul_assoc, Nat.mul_assoc] at hlower hupper
  rw [Nat.mul_one, Nat.mul_assoc] at hgap
  omega

/-- What is far above a ratio has a larger rank, unless the ratio is rounded up to it: it is
less than half a unit below it then, or this half below an even number of them. -/
theorem nearestRank_le_iff_of_far (hden : 0 < den)
    (hfar : (2 ^ 50 + 1) * num < 2 ^ 50 * (gap * den)) :
    nearestRank gap 1 ≤ nearestRank num den ↔
      2 * (gap * den) ≤ 2 * num + den ∧ (gap % 2 = 1 → 2 * (gap * den) < 2 * num + den) := by
  by_cases hsmall : gap ≤ 2 ^ 53
  · have hpos : 0 < gap := Nat.pos_of_ne_zero fun hzero => by simp [hzero] at hfar
    have hscaled : (lowerEnd gap + 1) * den = 2 * gap * den := by
      rw [lowerEnd_of_small hpos hsmall]
    rw [Nat.add_one_mul, Nat.mul_assoc] at hscaled
    rw [nearestRank_of_le hsmall, le_nearestRank_iff hden]
    omega
  · have hlarge := nearestRank_mono Nat.one_pos (Nat.le_of_not_le hsmall)
    rw [nearestRank_of_le (Nat.le_refl _)] at hlarge
    refine iff_of_false (fun hle => ?_) (fun hnear => ?_)
    · have hnormal : 2 ^ 52 ≤ nearestRank num den := by omega
      exact absurd hle (nearestRank_lt_of_normal hden hnormal hfar).not_ge
    · have hscaled := Nat.mul_le_mul_right den (Nat.le_of_not_le hsmall)
      omega

end Far

theorem lt_nearestRank_of_far {rank gap : Nat} (h : (2 ^ 50 + 1) * units rank < 2 ^ 50 * gap) :
    rank < nearestRank gap 1 := by
  have hrank := nearestRank_units rank Nat.one_pos
  rw [Nat.mul_one] at hrank
  by_contra hle
  rw [Nat.not_lt, ← hrank, nearestRank_le_iff_of_far Nat.one_pos (by rwa [Nat.mul_one])] at hle
  omega

/-! ## Exact values -/

def value : Binary64 → ℚ
  | finite s rank => signedUnits s rank / unitsPerOne
  | _ => 0

/-- Units by which two finite numbers differ. -/
def gap (s t : Bool) (a b : Nat) : Nat := (signedUnits s a - signedUnits t b).natAbs

theorem exists_of_isFinite {x : Binary64} (h : x.isFinite = true) :
    ∃ (s : Bool) (rank : Fin rankCount), x = .finite s rank := by
  cases x with
  | nan => cases h
  | inf s => cases h
  | finite s rank => exact ⟨s, rank, rfl⟩

theorem abs_signedUnits (s : Bool) (rank : Nat) : |signedUnits s rank| = units rank := by
  cases s with
  | false => rw [signedUnits, if_neg Bool.false_ne_true, Nat.abs_cast]
  | true => rw [signedUnits, if_pos rfl, abs_neg, Nat.abs_cast]

theorem value_of_sign {s : Bool} {rank : Fin rankCount} (h : s = true → rank.val = 0) :
    value (.finite s rank) = units rank / unitsPerOne := by
  have hsigned : signedUnits s rank = units rank := by
    cases s with
    | false => rw [signedUnits, if_neg Bool.false_ne_true]
    | true => rw [signedUnits, if_pos rfl, h rfl, units_zero, Nat.cast_zero, neg_zero]
  rw [value, hsigned, Int.cast_natCast]

theorem abs_value (s : Bool) (rank : Fin rankCount) :
    |value (.finite s rank)| = units rank / unitsPerOne := by
  rw [value, abs_div, Nat.abs_cast, ← Int.cast_abs, abs_signedUnits, Int.cast_natCast]

theorem abs_value_sub (s t : Bool) (a b : Fin rankCount) :
    |value (.finite s a) - value (.finite t b)| = gap s t a b / unitsPerOne := by
  rw [value, value, ← sub_div, abs_div, Nat.abs_cast, gap, Nat.cast_natAbs, Int.cast_abs,
    Int.cast_sub]

theorem max_abs_value (s t : Bool) (a b : Fin rankCount) :
    Max.max |value (.finite s a)| |value (.finite t b)| =
      (Max.max (units a) (units b) : Nat) / unitsPerOne := by
  rw [abs_value, abs_value, max_div_div_right (Nat.cast_nonneg _), Nat.cast_max]

theorem half_unit : (1 / 2 : ℚ) ^ 1075 = 1 / (2 * unitsPerOne) := by
  rw [unitsPerOne_eq, one_div_pow, pow_succ', Nat.cast_pow, Nat.cast_ofNat]

theorem two_units : (1 / 2 : ℚ) ^ 1073 = 2 / unitsPerOne := by
  rw [unitsPerOne_eq, one_div_pow, Nat.cast_pow, Nat.cast_ofNat, pow_succ' (2 : ℚ) 1073,
    div_mul_cancel_left₀ two_ne_zero, one_div]

end Assay.Binary64
