import Assay.Proofs.Binary64.Shortest

/-!
# Numbers that stay finite

A ratio that does not exceed a finite magnitude is rounded to a finite number.
So the whole numbers of a machine word are finite, and dividing keeps a number
finite where the divisor is not less than one, or not less than the number.
-/

set_option autoImplicit false

namespace Assay.Binary64

theorem isFinite_ofRatio (negative : Bool) {rank num den : Nat} (hrank : rank < rankCount)
    (hden : 0 < den) (h : num ≤ units rank * den) : (ofRatio negative num den).isFinite = true := by
  have hlt := (nearestRank_le hden h).trans_lt hrank
  rw [ofRatio, ofRank, dif_pos hlt]
  rfl

theorem isFinite_ofRatio_iff (negative : Bool) (num den : Nat) :
    (ofRatio negative num den).isFinite = true ↔ nearestRank num den < rankCount := by
  unfold ofRatio ofRank
  split
  · rename_i h
    exact iff_of_true rfl h
  · rename_i h
    exact iff_of_false (by simp [isFinite]) h

theorem isFinite_neg (x : Binary64) : x.neg.isFinite = x.isFinite := by
  cases x <;> rfl

theorem units_pos {rank : Nat} (h : 0 < rank) : 0 < units rank := units_strictMono h

def oneRank : Nat := 1023 * 2 ^ 52

theorem units_oneRank : units oneRank = unitsPerOne := by
  have hrank : oneRank = (1022 + 1) * 2 ^ 52 := rfl
  rw [hrank, units_firstRank, unitsPerOne_eq]

theorem oneRank_pos : 0 < oneRank := by decide

theorem oneRank_lt : oneRank < rankCount := by decide

theorem oneRank_le {num den : Nat} (hden : 0 < den) (h : unitsPerOne * den ≤ num) :
    oneRank ≤ nearestRank num den := by
  have hone : nearestRank (units oneRank * den) den = oneRank :=
    (nearestRank_eq_iff _ _ hden).mpr (inCell_units oneRank_pos hden)
  rw [← hone, units_oneRank]
  exact nearestRank_mono hden h

/-! ## Whole numbers -/

theorem units_wordRank : units (1087 * 2 ^ 52) = 2 ^ 64 * unitsPerOne := by
  rw [units_firstRank 1086, unitsPerOne_eq, ← pow_add]

theorem wordRank_lt : 1087 * 2 ^ 52 < rankCount := by decide

theorem nearestRank_word_lt {n : Nat} (h : n ≤ 2 ^ 64) :
    nearestRank (n * unitsPerOne) 1 < rankCount := by
  refine (nearestRank_le Nat.one_pos ?_).trans_lt wordRank_lt
  rw [units_wordRank, Nat.mul_one]
  exact Nat.mul_le_mul_right unitsPerOne h

theorem isFinite_ofInt {z : Int} (h : z.natAbs ≤ 2 ^ 64) : (ofInt z).isFinite = true := by
  rw [ofInt, ofRatio, ofRank, dif_pos (nearestRank_word_lt h)]
  rfl

theorem ofNat_eq {n : Nat} (h : n ≤ 2 ^ 64) : ∃ rank : Fin rankCount,
    ofNat n = .finite false rank ∧ rank.val = nearestRank (n * unitsPerOne) 1 := by
  have hlt := nearestRank_word_lt h
  have hsign : decide ((n : Int) < 0) = false := by simp
  refine ⟨⟨_, hlt⟩, ?_, rfl⟩
  rw [ofNat, ofInt, ofRatio, ofRank, hsign]
  exact dif_pos hlt

/-! ## Quotients -/

theorem div_finite {s t : Bool} {a b : Fin rankCount} (hb : 0 < b.val) :
    div (.finite s a) (.finite t b) = ofRatio (s != t) (units a * unitsPerOne) (units b) := by
  rw [div, if_neg hb.ne']

theorem isFinite_div_of_one_le {x : Binary64} {t : Bool} {b : Fin rankCount}
    (hx : x.isFinite = true) (hb : oneRank ≤ b.val) : (div x (.finite t b)).isFinite = true := by
  cases x with
  | nan => cases hx
  | inf s => cases hx
  | finite s a =>
    have hpos := oneRank_pos.trans_le hb
    rw [div_finite hpos]
    refine isFinite_ofRatio _ a.isLt (units_pos hpos) (Nat.mul_le_mul_left _ ?_)
    rw [← units_oneRank]
    exact units_strictMono.monotone hb

theorem isFinite_div_of_le {s t : Bool} {a b : Fin rankCount} (hb : 0 < b.val)
    (h : a.val ≤ b.val) : (div (.finite s a) (.finite t b)).isFinite = true := by
  rw [div_finite hb]
  refine isFinite_ofRatio _ oneRank_lt (units_pos hb) ?_
  rw [units_oneRank, Nat.mul_comm]
  exact Nat.mul_le_mul_left _ (units_strictMono.monotone h)

theorem isFinite_share {part whole : Nat} (hpos : 0 < whole) (hle : part ≤ whole)
    (h : whole ≤ 2 ^ 64) : (div (ofNat part) (ofNat whole)).isFinite = true := by
  obtain ⟨a, ha, hrank⟩ := ofNat_eq (hle.trans h)
  obtain ⟨b, hb, hrank'⟩ := ofNat_eq h
  have hone : oneRank ≤ b.val := by
    rw [hrank']
    refine oneRank_le Nat.one_pos ?_
    rw [Nat.mul_one]
    exact Nat.le_mul_of_pos_left _ hpos
  have hmono : a.val ≤ b.val := by
    rw [hrank, hrank']
    exact nearestRank_mono Nat.one_pos (Nat.mul_le_mul_right unitsPerOne hle)
  rw [ha, hb]
  exact isFinite_div_of_le (oneRank_pos.trans_le hone) hmono

/-! ## Powers of ten -/

theorem units_threeQuarters : units (2046 * 2 ^ 52 + 2 ^ 51) = 3 * 2 ^ 2096 := by
  have h := units_scaled (k := 2045) (j := 3 * 2 ^ 51) (by decide) (.inr (by decide))
  have hpower : 3 * 2 ^ 51 * 2 ^ 2045 = 3 * 2 ^ 2096 := by rw [Nat.mul_assoc, ← pow_add]
  rw [hpower] at h
  exact h

theorem threeQuarters_lt : 2046 * 2 ^ 52 + 2 ^ 51 < rankCount := by decide

theorem ten_pow_le : 10 ^ 308 * unitsPerOne ≤ units (2046 * 2 ^ 52 + 2 ^ 51) := by
  rw [units_threeQuarters]
  decide +kernel

/-- The powers of ten by which numerals are scaled are rounded once. -/
theorem ofDecimal_power_eq {k : Nat} (hk : k ≤ 308) :
    ofDecimal false ⟨1, k⟩ = ofRatio false (10 ^ k * unitsPerOne) 1 := by
  have hnum : Decimal.num ⟨1, (k : Int)⟩ = 10 ^ k := by
    rw [Decimal.num, Int.toNat_natCast, Nat.one_mul]
    rfl
  have hden : Decimal.den ⟨1, (k : Int)⟩ = 1 := Decimal.den_of_nonneg (Int.natCast_nonneg k)
  have hlarge : ¬largestPower < (k : Int) := by
    unfold largestPower
    omega
  have hsmall : ¬(k : Int) < smallestPower - Nat.log2 1 := by
    unfold smallestPower
    omega
  rw [ofDecimal, if_neg Nat.one_ne_zero, if_neg hlarge, if_neg hsmall, hnum, hden]

theorem ofDecimal_power {k : Nat} (hk : k ≤ 308) :
    ∃ rank : Fin rankCount, ofDecimal false ⟨1, k⟩ = .finite false rank ∧
      oneRank ≤ rank.val := by
  have hlt : nearestRank (10 ^ k * unitsPerOne) 1 < rankCount := by
    have hpower : 10 ^ k ≤ 10 ^ 308 := pow_le_pow_right₀ (by decide) hk
    refine (nearestRank_le Nat.one_pos ?_).trans_lt threeQuarters_lt
    rw [Nat.mul_one]
    exact (Nat.mul_le_mul_right unitsPerOne hpower).trans ten_pow_le
  refine ⟨⟨_, hlt⟩, ?_, oneRank_le Nat.one_pos ?_⟩
  · rw [ofDecimal_power_eq hk, ofRatio, ofRank, dif_pos hlt]
  · rw [Nat.mul_one]
    exact Nat.le_mul_of_pos_left _ (Nat.pow_pos (by decide))

end Assay.Binary64
