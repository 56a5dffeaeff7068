import Mathlib.Tactic.Ring
import Mathlib.Tactic.Linarith
import Mathlib.Order.Monotone.Basic
import Assay.Binary64.Layout

/-!
# Rounding to the nearest magnitude

Magnitudes grow with their ranks, and between two of them lies their midpoint.
The cell of a rank reaches from the midpoint below its magnitude to the one
above it, and has both of them when the rank is even. A ratio is in the cell of
the rank that it is rounded to, and in no other one.
-/

set_option autoImplicit false

namespace Assay

/-- A quotient to the nearest whole number is off by half at most, and by less than that
when it is odd. -/
theorem divHalfEven_spec (num : Nat) {den : Nat} (hden : 0 < den) :
    2 * divHalfEven num den * den ≤ 2 * num + den ∧
      2 * num ≤ (2 * divHalfEven num den + 1) * den ∧
      (divHalfEven num den % 2 = 1 → 2 * divHalfEven num den * den < 2 * num + den ∧
        2 * num < (2 * divHalfEven num den + 1) * den) := by
  have hlt := Nat.mod_lt num hden
  have hnum : num / den * den + num % den = num := Nat.div_add_mod' num den
  unfold divHalfEven
  dsimp only
  generalize num / den = q at *
  generalize num % den = r at *
  have hwhole : 2 * q * den = 2 * (q * den) := by ring
  have hnext : (2 * q + 1) * den = 2 * (q * den) + den := by ring
  have hafter : 2 * (q + 1) * den = 2 * (q * den) + 2 * den := by ring
  have hlast : (2 * (q + 1) + 1) * den = 2 * (q * den) + 3 * den := by ring
  split_ifs
  · rw [hwhole, hnext]
    omega
  · rw [hafter, hlast]
    omega
  · -- The remainder is a half: the even one of the two quotients is taken.
    rcases Nat.mod_two_eq_zero_or_one q with hq | hq
    · rw [hq, Nat.add_zero, hwhole, hnext]
      omega
    · rw [hq, hafter, hlast]
      omega

namespace Binary64

/-! ## Magnitudes -/

theorem unitsPerOne_eq : unitsPerOne = 2 ^ 1074 := by decide +kernel

theorem unitsPerOne_pos : 0 < unitsPerOne := by decide +kernel

theorem units_zero : units 0 = 0 := by decide

/-- A magnitude from its significand and its scale. The significand after the last one is
the first one of the next scale. -/
theorem units_scaled {k j : Nat} (hj : j ≤ 2 ^ 53) (hnormal : k = 0 ∨ 2 ^ 52 ≤ j) :
    units (k * 2 ^ 52 + j) = j * 2 ^ k := by
  have hscale : scale (k * 2 ^ 52 + j) = k ∨ scale (k * 2 ^ 52 + j) = k + 1 ∧ j = 2 ^ 53 := by
    simp only [scale, Nat.pow_eq]
    omega
  rcases hscale with hscale | ⟨hscale, rfl⟩
  · simp only [units, hscale, Nat.pow_eq, Nat.add_sub_cancel_left]
  · have hsub : k * 2 ^ 52 + 2 ^ 53 - (k + 1) * 2 ^ 52 = 2 ^ 52 := by omega
    simp only [units, hscale, Nat.pow_eq, hsub]
    ring

theorem units_firstRank (k : Nat) : units ((k + 1) * 2 ^ 52) = 2 ^ (52 + k) := by
  have h := units_scaled (k := k) (j := 2 ^ 52) (by decide) (.inr (Nat.le_refl _))
  rwa [← Nat.succ_mul, ← pow_add] at h

theorem exists_scaled (rank : Nat) :
    ∃ k j, rank = k * 2 ^ 52 + j ∧ j < 2 ^ 53 ∧ (k = 0 ∨ 2 ^ 52 ≤ j) :=
  ⟨scale rank, rank - scale rank * 2 ^ 52, by simp only [scale, Nat.pow_eq]; omega⟩

theorem units_lt_succ (rank : Nat) : units rank < units (rank + 1) := by
  obtain ⟨k, j, rfl, hj, hnormal⟩ := exists_scaled rank
  rw [units_scaled hj.le hnormal, Nat.add_assoc,
    units_scaled hj (hnormal.imp_right Nat.le_succ_of_le)]
  exact Nat.mul_lt_mul_of_pos_right (Nat.lt_succ_self j) (Nat.two_pow_pos k)

theorem units_strictMono : StrictMono units := strictMono_nat_of_lt_succ units_lt_succ

theorem lowerEnd_le (rank : Nat) : lowerEnd rank ≤ 2 * units rank := by
  have h := units_strictMono.monotone (Nat.sub_le rank 1)
  unfold lowerEnd
  omega

theorem lowerEnd_lt {rank : Nat} (h : 0 < rank) : lowerEnd rank < 2 * units rank := by
  have h := units_strictMono (Nat.sub_lt h Nat.one_pos)
  unfold lowerEnd
  omega

theorem lt_upperEnd (rank : Nat) : 2 * units rank < upperEnd rank := by
  have h := units_lt_succ rank
  unfold upperEnd
  omega

theorem upperEnd_le_lowerEnd {r s : Nat} (h : r < s) : upperEnd r ≤ lowerEnd s := by
  have hlow := units_strictMono.monotone (Nat.le_sub_one_of_lt h)
  have hhigh := units_strictMono.monotone (Nat.succ_le_of_lt h)
  exact Nat.add_le_add hlow hhigh

theorem upperEnd_lt_lowerEnd {r s : Nat} (h : r + 1 < s) : upperEnd r < lowerEnd s := by
  have hlow := units_strictMono (show r < s - 1 by omega)
  have hhigh := units_strictMono.monotone h.le
  exact Nat.add_lt_add_of_lt_of_le hlow hhigh

/-! ## Cells -/

/-- A ratio of units is between the midpoints of a rank, or is one of them and the rank is
even. The ends of the interval are doubled, and so is the ratio. -/
structure InCell (rank num den : Nat) : Prop where
  lower : lowerEnd rank * den ≤ 2 * num
  upper : 2 * num ≤ upperEnd rank * den
  odd : rank % 2 = 1 → lowerEnd rank * den < 2 * num ∧ 2 * num < upperEnd rank * den

theorem InCell.rank_le {r s a b den : Nat} (hden : 0 < den) (hr : InCell r a den)
    (hs : InCell s b den) (hab : a ≤ b) : r ≤ s := by
  by_contra hlt
  have hends := Nat.mul_le_mul_right den (upperEnd_le_lowerEnd (Nat.lt_of_not_le hlt))
  have hlower := hr.lower
  have hupper := hs.upper
  by_cases hnext : r = s + 1
  · -- Two neighbours share a midpoint, and one of them is odd.
    rcases Nat.mod_two_eq_zero_or_one s with hpar | hpar
    · have hstrict := (hr.odd (by omega)).1
      omega
    · have hstrict := (hs.odd hpar).2
      omega
  · have hgap : upperEnd s < lowerEnd r := upperEnd_lt_lowerEnd (by omega)
    have hstrict := Nat.mul_lt_mul_of_pos_right hgap hden
    omega

theorem InCell.unique {r s num den : Nat} (hden : 0 < den) (hr : InCell r num den)
    (hs : InCell s num den) : r = s :=
  Nat.le_antisymm (hr.rank_le hden hs (Nat.le_refl _)) (hs.rank_le hden hr (Nat.le_refl _))

theorem le_upperEnd_scaled {k q : Nat} (hq : q ≤ 2 ^ 53) (hnormal : k = 0 ∨ 2 ^ 52 ≤ q) :
    (2 * q + 1) * 2 ^ k ≤ upperEnd (k * 2 ^ 52 + q) := by
  have hstep : (q + 1) * 2 ^ k ≤ units (k * 2 ^ 52 + q + 1) := by
    rcases hq.lt_or_eq with hlt | rfl
    · rw [Nat.add_assoc, units_scaled hlt (hnormal.imp_right Nat.le_succ_of_le)]
    · -- Behind the last significand the next scale has begun, with steps twice as wide.
      have hsplit : k * 2 ^ 52 + 2 ^ 53 + 1 = (k + 1) * 2 ^ 52 + (2 ^ 52 + 1) := by ring
      have htwice : (2 ^ 53 + 1) * 2 ^ k + 2 ^ k = (2 ^ 52 + 1) * 2 ^ (k + 1) := by ring
      rw [hsplit, units_scaled (by norm_num) (.inr (Nat.le_succ _)), ← htwice]
      exact Nat.le_add_right _ _
  calc (2 * q + 1) * 2 ^ k
    _ = q * 2 ^ k + (q + 1) * 2 ^ k := by ring
    _ ≤ upperEnd (k * 2 ^ 52 + q) := by
      rw [upperEnd, units_scaled hq hnormal]
      exact Nat.add_le_add_left hstep _

theorem lowerEnd_scaled_le {k q : Nat} (hq : q ≤ 2 ^ 53) (hnormal : k = 0 ∨ 2 ^ 52 < q) :
    lowerEnd (k * 2 ^ 52 + q) ≤ 2 * q * 2 ^ k - 2 ^ k := by
  rcases Nat.eq_zero_or_pos q with rfl | hpos
  · obtain rfl : k = 0 := by omega
    decide
  · have hsplit : k * 2 ^ 52 + q - 1 = k * 2 ^ 52 + (q - 1) := by omega
    have hprevious : (q - 1) * 2 ^ k = q * 2 ^ k - 2 ^ k := by rw [Nat.sub_mul, Nat.one_mul]
    have hle : 2 ^ k ≤ q * 2 ^ k := Nat.le_mul_of_pos_left _ hpos
    rw [lowerEnd, hsplit, units_scaled (by omega) (by omega), units_scaled hq (by omega),
      hprevious, Nat.mul_assoc]
    omega

theorem inCell_scaled {k q num den : Nat} (hq : q ≤ 2 ^ 53) (hnormal : k = 0 ∨ 2 ^ 52 ≤ q)
    (hfloor : k = 0 ∨ 2 ^ 52 * (den * 2 ^ k) ≤ num) (hden : 0 < den)
    (hlower : 2 * q * (den * 2 ^ k) ≤ 2 * num + den * 2 ^ k)
    (hupper : 2 * num ≤ (2 * q + 1) * (den * 2 ^ k))
    (hodd : q % 2 = 1 → 2 * q * (den * 2 ^ k) < 2 * num + den * 2 ^ k ∧
      2 * num < (2 * q + 1) * (den * 2 ^ k)) :
    InCell (k * 2 ^ 52 + q) num den := by
  have hup : (2 * q + 1) * (den * 2 ^ k) ≤ upperEnd (k * 2 ^ 52 + q) * den := by
    calc (2 * q + 1) * (den * 2 ^ k)
      _ = (2 * q + 1) * 2 ^ k * den := by ring
      _ ≤ upperEnd (k * 2 ^ 52 + q) * den :=
        Nat.mul_le_mul_right den (le_upperEnd_scaled hq hnormal)
  have hparity : (k * 2 ^ 52 + q) % 2 = q % 2 := by omega
  by_cases hfirst : k = 0 ∨ 2 ^ 52 < q
  · have hlow : lowerEnd (k * 2 ^ 52 + q) * den ≤ 2 * q * (den * 2 ^ k) - den * 2 ^ k := by
      calc lowerEnd (k * 2 ^ 52 + q) * den
        _ ≤ (2 * q * 2 ^ k - 2 ^ k) * den := Nat.mul_le_mul_right den (lowerEnd_scaled_le hq hfirst)
        _ = 2 * q * (den * 2 ^ k) - den * 2 ^ k := by
          rw [Nat.sub_mul]
          congr 1 <;> ring
    refine ⟨by omega, by omega, fun hr => ?_⟩
    rw [hparity] at hr
    obtain ⟨hlt, hgt⟩ := hodd hr
    have hle : den * 2 ^ k ≤ 2 * q * (den * 2 ^ k) := Nat.le_mul_of_pos_left _ (by omega)
    exact ⟨by omega, by omega⟩
  · -- The first significand of its scale: below it the steps are half as wide.
    obtain rfl : q = 2 ^ 52 := by omega
    have hlow : lowerEnd (k * 2 ^ 52 + 2 ^ 52) * den < 2 * num := by
      calc lowerEnd (k * 2 ^ 52 + 2 ^ 52) * den
        _ < 2 * (2 ^ 52 * 2 ^ k) * den := by
          rw [← units_scaled hq hnormal]
          exact Nat.mul_lt_mul_of_pos_right (lowerEnd_lt (by positivity)) hden
        _ = 2 * (2 ^ 52 * (den * 2 ^ k)) := by ring
        _ ≤ 2 * num := by omega
    exact ⟨hlow.le, by omega, by omega⟩

/-- The significand of a ratio has 53 binary digits at most, and as many where it is scaled. -/
theorem significand_bounds (num : Nat) {den k : Nat} (hden : 0 < den)
    (hk : (num / den).log2 - 52 = k) :
    divHalfEven num (den * 2 ^ k) ≤ 2 ^ 53 ∧ (k = 0 ∨
      2 ^ 52 * (den * 2 ^ k) ≤ num ∧ 2 ^ 52 ≤ divHalfEven num (den * 2 ^ k)) := by
  have hfloor : num / den * den ≤ num := Nat.div_mul_le_self num den
  have hceil : num < (num / den + 1) * den := by
    rw [Nat.mul_comm]
    exact Nat.lt_mul_div_succ num hden
  have hlog : num / den < 2 ^ ((num / den).log2 + 1) := Nat.lt_log2_self
  have hstep : 0 < den * 2 ^ k := Nat.mul_pos hden (Nat.two_pow_pos k)
  obtain ⟨hlower, hupper, -⟩ := divHalfEven_spec num hstep
  constructor
  · have hbelow : num < 2 ^ 53 * (den * 2 ^ k) := by
      calc num
        _ < (num / den + 1) * den := hceil
        _ ≤ 2 ^ (53 + k) * den := Nat.mul_le_mul_right den
          (hlog.trans_le (Nat.pow_le_pow_right Nat.two_pos (by omega)))
        _ = 2 ^ 53 * (den * 2 ^ k) := by ring
    have hlt : 2 * divHalfEven num (den * 2 ^ k) * (den * 2 ^ k) <
        (2 * 2 ^ 53 + 1) * (den * 2 ^ k) := by
      rw [Nat.add_mul, Nat.one_mul, Nat.mul_assoc 2 (2 ^ 53)]
      omega
    have := Nat.lt_of_mul_lt_mul_right hlt
    omega
  · by_cases hzero : k = 0
    · exact .inl hzero
    · have hne : num / den ≠ 0 := by
        intro h
        simp [h] at hk
        omega
      have habove : 2 ^ 52 * (den * 2 ^ k) ≤ num := by
        calc 2 ^ 52 * (den * 2 ^ k)
          _ = 2 ^ (num / den).log2 * den := by
            rw [show (num / den).log2 = 52 + k by omega]
            ring
          _ ≤ num / den * den := Nat.mul_le_mul_right den (Nat.log2_self_le hne)
          _ ≤ num := hfloor
      have hle : 2 * 2 ^ 52 * (den * 2 ^ k) ≤
          (2 * divHalfEven num (den * 2 ^ k) + 1) * (den * 2 ^ k) := by
        rw [Nat.mul_assoc 2 (2 ^ 52)]
        omega
      have := Nat.le_of_mul_le_mul_right hle hstep
      exact .inr ⟨habove, by omega⟩

theorem inCell_nearestRank (num : Nat) {den : Nat} (hden : 0 < den) :
    InCell (nearestRank num den) num den := by
  unfold nearestRank
  dsimp only
  rw [Nat.pow_eq, Nat.pow_eq]
  generalize hk : (num / den).log2 - 52 = k
  have hstep : 0 < den * 2 ^ k := Nat.mul_pos hden (Nat.two_pow_pos k)
  obtain ⟨hlower, hupper, hodd⟩ := divHalfEven_spec num hstep
  obtain ⟨hsmall, hscaled⟩ := significand_bounds num hden hk
  exact inCell_scaled hsmall (hscaled.imp_right And.right) (hscaled.imp_right And.left) hden
    hlower hupper hodd

theorem units_nearestRank (num : Nat) {den k : Nat} (hden : 0 < den)
    (hk : (num / den).log2 - 52 = k) :
    units (nearestRank num den) = divHalfEven num (den * 2 ^ k) * 2 ^ k := by
  obtain ⟨hsmall, hscaled⟩ := significand_bounds num hden hk
  rw [← units_scaled hsmall (hscaled.imp_right And.right), ← hk]
  rfl

theorem nearestRank_eq_iff (rank num : Nat) {den : Nat} (hden : 0 < den) :
    nearestRank num den = rank ↔ InCell rank num den := by
  constructor
  · rintro rfl
    exact inCell_nearestRank num hden
  · exact (inCell_nearestRank num hden).unique hden

theorem nearestRank_mono {a b den : Nat} (hden : 0 < den) (hab : a ≤ b) :
    nearestRank a den ≤ nearestRank b den :=
  (inCell_nearestRank a hden).rank_le hden (inCell_nearestRank b hden) hab

theorem nearestRank_le {rank num den : Nat} (hden : 0 < den) (h : num ≤ units rank * den) :
    nearestRank num den ≤ rank := by
  by_contra hlt
  have hends := Nat.mul_le_mul_right den (upperEnd_le_lowerEnd (Nat.lt_of_not_le hlt))
  have hlower := (inCell_nearestRank num hden).lower
  have hstrict := Nat.mul_lt_mul_of_pos_right (lt_upperEnd rank) hden
  rw [Nat.mul_assoc] at hstrict
  omega

theorem nearestRank_zero {den : Nat} (hden : 0 < den) : nearestRank 0 den = 0 :=
  Nat.le_zero.mp (nearestRank_le hden (Nat.zero_le _))

end Binary64

end Assay
