import Assay.Proofs.Binary64.Rounding

/-!
# Fewest digits lead back

The digits that are written for a magnitude lie in its cell, since the search
for them looks at nothing else and ends at a grid that holds every magnitude.
A numeral in the cell of a rank is neither too large nor too small to be
rounded, so it is read as the number that it was written for.
-/

set_option autoImplicit false

namespace Assay

namespace Decimal

theorem den_pos (d : Decimal) : 0 < d.den := Nat.pow_pos (by decide)

theorem num_of_nonpos {d : Decimal} (h : d.exponent ≤ 0) : d.num = d.coefficient := by
  rw [num, Int.toNat_of_nonpos h]
  exact Nat.mul_one _

theorem den_of_nonneg {d : Decimal} (h : 0 ≤ d.exponent) : d.den = 1 := by
  rw [den, Int.toNat_of_nonpos (by omega), Nat.pow_eq, Nat.pow_zero]

def Same (d e : Decimal) : Prop := d.num * e.den = e.num * d.den

end Decimal

namespace Binary64

theorem inInterval_iff (rank : Nat) (d : Decimal) :
    inInterval rank d = true ↔ InCell rank (unitsPerOne * d.num) d.den := by
  unfold inInterval
  dsimp only
  rw [Nat.mul_assoc 2]
  constructor
  · intro h
    split at h <;> rw [decide_eq_true_eq] at h
    · exact ⟨h.1, h.2, by omega⟩
    · exact ⟨h.1.le, h.2.le, fun _ => h⟩
  · intro h
    split <;> rw [decide_eq_true_eq]
    · exact ⟨h.lower, h.upper⟩
    · exact h.odd (by omega)

theorem InCell.congr {rank num den num' den' : Nat} (hden : 0 < den) (hden' : 0 < den')
    (hsame : num * den' = num' * den) (h : InCell rank num den) : InCell rank num' den' := by
  have hscale (x : Nat) : x * den * den' = x * den' * den := by ring
  have hratio : 2 * num * den' = 2 * num' * den := by rw [Nat.mul_assoc, hsame, Nat.mul_assoc]
  refine ⟨?_, ?_, fun hodd => ⟨?_, ?_⟩⟩
  · refine Nat.le_of_mul_le_mul_right ?_ hden
    rw [← hscale, ← hratio]
    exact Nat.mul_le_mul_right den' h.lower
  · refine Nat.le_of_mul_le_mul_right ?_ hden
    rw [← hscale, ← hratio]
    exact Nat.mul_le_mul_right den' h.upper
  · refine Nat.lt_of_mul_lt_mul_right (a := den) ?_
    rw [← hscale, ← hratio]
    exact Nat.mul_lt_mul_of_pos_right (h.odd hodd).1 hden'
  · refine Nat.lt_of_mul_lt_mul_right (a := den) ?_
    rw [← hscale, ← hratio]
    exact Nat.mul_lt_mul_of_pos_right (h.odd hodd).2 hden'

theorem inInterval_of_same {rank : Nat} {d e : Decimal} (hsame : d.Same e)
    (h : inInterval rank d = true) : inInterval rank e = true := by
  rw [inInterval_iff] at h ⊢
  refine h.congr d.den_pos e.den_pos ?_
  rw [Nat.mul_assoc, hsame, Nat.mul_assoc]

/-! ## Numerals in a cell -/

theorem units_rankCount : units rankCount = 2 ^ 2098 := by
  have hrank : rankCount = (2046 + 1) * 2 ^ 52 := rfl
  rw [hrank, units_firstRank]

theorem units_lt {rank : Nat} (h : rank < rankCount) : units rank < 2 ^ 2098 := by
  rw [← units_rankCount]
  exact units_strictMono h

theorem upperEnd_le {rank : Nat} (h : rank < rankCount) : upperEnd rank ≤ 2 * 2 ^ 2098 := by
  have hbelow := units_strictMono.monotone h.le
  have hnext := units_strictMono.monotone (Nat.succ_le_of_lt h)
  rw [← units_rankCount, Nat.two_mul]
  exact Nat.add_le_add hbelow hnext

theorem lowerEnd_pos {rank : Nat} (h : 0 < rank) : 0 < lowerEnd rank := by
  have hunits : units 0 < units rank := units_strictMono h
  unfold lowerEnd
  omega

section Cell

variable {rank : Nat} {d : Decimal}

theorem coefficient_pos (hpos : 0 < rank) (h : inInterval rank d = true) : 0 < d.coefficient := by
  by_contra hzero
  obtain hzero : d.coefficient = 0 := by omega
  have hlower := ((inInterval_iff rank d).mp h).lower
  have hprod := Nat.mul_pos (lowerEnd_pos hpos) d.den_pos
  rw [Decimal.num, hzero, Nat.zero_mul] at hlower
  omega

theorem exponent_le_largestPower (hpos : 0 < rank) (hlt : rank < rankCount)
    (h : inInterval rank d = true) : d.exponent ≤ largestPower := by
  by_contra hlarge
  have hupper := ((inInterval_iff rank d).mp h).upper
  have hcoefficient := coefficient_pos hpos h
  have hexponent : 311 ≤ d.exponent.toNat := by
    unfold largestPower at hlarge
    omega
  rw [Decimal.den_of_nonneg (by omega), Nat.mul_one] at hupper
  have hpower : 10 ^ 311 ≤ d.num := by
    calc 10 ^ 311
      _ ≤ 10 ^ d.exponent.toNat := pow_le_pow_right₀ (by decide) hexponent
      _ ≤ d.num := Nat.le_mul_of_pos_left _ hcoefficient
  have hbound : 2 * 2 ^ 2098 < 2 * (unitsPerOne * 10 ^ 311) := by decide +kernel
  refine Nat.lt_irrefl (2 * 2 ^ 2098) ?_
  calc 2 * 2 ^ 2098
    _ < 2 * (unitsPerOne * 10 ^ 311) := hbound
    _ ≤ 2 * (unitsPerOne * d.num) := Nat.mul_le_mul_left 2 (Nat.mul_le_mul_left _ hpower)
    _ ≤ upperEnd rank := hupper
    _ ≤ 2 * 2 ^ 2098 := upperEnd_le hlt

theorem smallestPower_le_exponent (hpos : 0 < rank) (h : inInterval rank d = true) :
    smallestPower - d.coefficient.log2 ≤ d.exponent := by
  by_contra hsmall
  have hlower := ((inInterval_iff rank d).mp h).lower
  have hexponent : 331 + d.coefficient.log2 ≤ (-d.exponent).toNat := by
    unfold smallestPower at hsmall
    omega
  have hcoefficient : d.coefficient < 2 ^ (d.coefficient.log2 + 1) := Nat.lt_log2_self
  rw [Decimal.num_of_nonpos (by omega)] at hlower
  have hbound : 2 * (unitsPerOne * 2) ≤ 10 ^ 331 := by decide +kernel
  have hpos' : 0 < unitsPerOne := by decide +kernel
  generalize d.coefficient.log2 = bits at *
  refine Nat.lt_irrefl d.den ?_
  calc d.den
    _ ≤ lowerEnd rank * d.den := Nat.le_mul_of_pos_left _ (lowerEnd_pos hpos)
    _ ≤ 2 * (unitsPerOne * d.coefficient) := hlower
    _ < 2 * (unitsPerOne * 2 ^ (bits + 1)) :=
      Nat.mul_lt_mul_of_pos_left (Nat.mul_lt_mul_of_pos_left hcoefficient hpos') Nat.two_pos
    _ = 2 * (unitsPerOne * 2) * 2 ^ bits := by ring
    _ ≤ 10 ^ 331 * 10 ^ bits :=
      Nat.mul_le_mul hbound (Nat.pow_le_pow_left (by decide) bits)
    _ = 10 ^ (331 + bits) := (pow_add 10 331 bits).symm
    _ ≤ d.den := pow_le_pow_right₀ (by decide) hexponent

end Cell

/-- A numeral in the cell of a positive rank is read as the number of that rank. -/
theorem ofDecimal_of_inInterval (negative : Bool) {rank : Fin rankCount} {d : Decimal}
    (hpos : 0 < rank.val) (h : inInterval rank.val d = true) :
    ofDecimal negative d = .finite negative rank := by
  have hcoefficient := coefficient_pos hpos h
  have hlarge := exponent_le_largestPower hpos rank.isLt h
  have hsmall := smallestPower_le_exponent hpos h
  have hrank : nearestRank (d.num * unitsPerOne) d.den = rank.val := by
    rw [nearestRank_eq_iff _ _ d.den_pos, Nat.mul_comm]
    exact (inInterval_iff _ _).mp h
  unfold ofDecimal
  rw [if_neg (by omega), if_neg (by omega), if_neg (by omega), ofRatio, hrank, ofRank,
    dif_pos rank.isLt]

/-! ## The search -/

theorem inInterval_of_onGrid {tie : Tie} {rank : Nat} {exponent : Int} {d : Decimal}
    (h : onGrid? tie rank exponent = some d) : inInterval rank d = true := by
  unfold onGrid? at h
  generalize neighbours rank exponent = around at h
  obtain ⟨low, high⟩ := around
  dsimp only at h
  split at h
  · cases h
  · rename_i hlow hhigh
    cases h
    exact hlow
  · rename_i hlow hhigh
    cases h
    exact hhigh
  · rename_i hlow hhigh
    cases h
    split
    · exact hhigh
    · exact hlow

theorem inCell_units {rank den : Nat} (hpos : 0 < rank) (hden : 0 < den) :
    InCell rank (units rank * den) den := by
  have hlower := Nat.mul_lt_mul_of_pos_right (lowerEnd_lt hpos) hden
  have hupper := Nat.mul_lt_mul_of_pos_right (lt_upperEnd rank) hden
  rw [Nat.mul_assoc] at hlower hupper
  exact ⟨hlower.le, hupper.le, fun _ => ⟨hlower, hupper⟩⟩

theorem isSome_onGrid (tie : Tie) {rank : Nat} {exponent : Int} (hpos : 0 < rank)
    (hfine : exponent ≤ -1074) : (onGrid? tie rank exponent).isSome := by
  have hdvd : unitsPerOne ∣ Nat.pow 10 (-exponent).toNat := by
    rw [unitsPerOne_eq]
    exact (pow_dvd_pow 2 (by omega)).trans (pow_dvd_pow_of_dvd (by decide) _)
  have hexact : unitsPerOne * (neighbours rank exponent).1.coefficient =
      units rank * Nat.pow 10 (-exponent).toNat := by
    have hone : Nat.pow 10 exponent.toNat = 1 := by
      rw [Int.toNat_of_nonpos (by omega), Nat.pow_eq, Nat.pow_zero]
    rw [neighbours, hone, Nat.mul_one]
    exact Nat.mul_div_cancel' (hdvd.mul_left _)
  have hlow : inInterval rank (neighbours rank exponent).1 = true := by
    have hnonpos : (neighbours rank exponent).1.exponent ≤ 0 := hfine.trans (by decide)
    rw [inInterval_iff, Decimal.num_of_nonpos hnonpos, hexact]
    exact inCell_units hpos (Nat.pow_pos (by decide))
  unfold onGrid?
  generalize neighbours rank exponent = around at *
  obtain ⟨low, high⟩ := around
  dsimp only at *
  rw [hlow]
  cases inInterval rank high <;> rfl

/-- The search ends in the cell when it has the fuel to get to a grid that is fine enough. -/
theorem inInterval_searchGrids (tie : Tie) {rank : Nat} {exponent : Int} (fuel : Nat)
    (hpos : 0 < rank) (hexponent : -1074 ≤ exponent) (hfuel : exponent + 1074 < fuel) :
    inInterval rank (searchGrids tie rank exponent fuel) = true := by
  induction fuel generalizing exponent with
  | zero => omega
  | succ fuel ih =>
    unfold searchGrids
    cases hgrid : onGrid? tie rank exponent with
    | some d => exact inInterval_of_onGrid hgrid
    | none =>
      have hcoarse : -1074 < exponent := by
        by_contra hfine
        have hsome := isSome_onGrid tie hpos (not_lt.mp hfine)
        rw [hgrid] at hsome
        cases hsome
      exact ih (by omega) (by omega)

theorem inInterval_shortest (tie : Tie) {rank : Nat} (hpos : 0 < rank) (hlt : rank < rankCount) :
    inInterval rank (shortest tie rank) = true := by
  have hne : units rank ≠ 0 := by
    have := lowerEnd_pos hpos
    have := lowerEnd_le rank
    omega
  have hlog : (units rank).log2 < 2098 := by
    by_contra hlarge
    have hpower : 2 ^ 2098 ≤ 2 ^ (units rank).log2 :=
      pow_le_pow_right₀ (by decide) (Nat.le_of_not_lt hlarge)
    exact Nat.not_le_of_lt (units_lt hlt) (hpower.trans (Nat.log2_self_le hne))
  rw [shortest, if_neg (by omega)]
  exact inInterval_searchGrids tie 1400 hpos (by unfold coarsest; omega) (by unfold coarsest; omega)

end Binary64

end Assay
