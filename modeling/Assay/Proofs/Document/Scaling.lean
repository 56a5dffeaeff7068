import Mathlib.Tactic.Ring
import Assay.Proofs.Document.Text

/-!
# Scaling of numerals

The leading digits of a numeral that fit a machine word never stand for more than
the whole numeral. They are scaled by the power of ten that they stand before, as
one rounded product where the power is not negative, so that the larger the word
and the power, the sooner the product leaves the finite numbers. Where it does is
settled by its value at a few places: for whole numbers at one bound, which lies a
little below the magnitudes that would still be rounded to a finite number.
-/

set_option autoImplicit false

namespace Assay.Json

open Decimal (AllDigits)
open Binary64 (nearestRank nearestRank_mono units units_strictMono unitsPerOne_pos)

/-! ## Leading digits -/

theorem digitValue_lt {c : Char} (h : c.isDigit = true) : digitValue c < 10 := by
  simp only [Char.isDigit, Bool.and_eq_true, decide_eq_true_eq] at h
  have hle : c.toNat ≤ '9'.toNat := h.2
  have hnine : '9'.toNat = 57 := rfl
  have hzero : '0'.toNat = 48 := rfl
  unfold digitValue
  omega

/-- More digits stand for at least the number with zeros in their place, and for less than the
next number with zeros. -/
theorem digitsFrom_bounds {cs : List Char} (h : AllDigits cs) (word : Nat) :
    word * 10 ^ cs.length ≤ digitsFrom word cs ∧
      digitsFrom word cs < (word + 1) * 10 ^ cs.length := by
  induction cs generalizing word with
  | nil => simp [digitsFrom]
  | cons c cs ih =>
    have hc := digitValue_lt (h c (List.mem_cons_self ..))
    obtain ⟨hlower, hupper⟩ :=
      ih (fun d hd => h d (List.mem_cons_of_mem _ hd)) (10 * word + digitValue c)
    have hstep : digitsFrom word (c :: cs) = digitsFrom (10 * word + digitValue c) cs := rfl
    rw [hstep, List.length_cons, pow_succ]
    constructor
    · calc word * (10 ^ cs.length * 10)
        _ = 10 * word * 10 ^ cs.length := by ring
        _ ≤ (10 * word + digitValue c) * 10 ^ cs.length :=
          Nat.mul_le_mul_right _ (Nat.le_add_right _ _)
        _ ≤ _ := hlower
    · calc digitsFrom (10 * word + digitValue c) cs
        _ < (10 * word + digitValue c + 1) * 10 ^ cs.length := hupper
        _ ≤ (10 * (word + 1)) * 10 ^ cs.length := Nat.mul_le_mul_right _ (by omega)
        _ = (word + 1) * (10 ^ cs.length * 10) := by ring

theorem digitsFrom_append (word : Nat) (cs ds : List Char) :
    digitsFrom word (cs ++ ds) = digitsFrom (digitsFrom word cs) ds :=
  List.foldl_append

/-- The word holds the leading digits, and would not hold the next one. -/
structure Takes (word : Nat) (cs : List Char) (last taken : Nat) : Prop where
  le_length : taken ≤ cs.length
  last_eq : digitsFrom word (cs.take taken) = last
  full : ∀ c ∈ cs[taken]?, wordBound ≤ 10 * last + digitValue c

theorem takeDigits_takes (word : Nat) (cs : List Char) :
    Takes word cs (takeDigits word cs).1 (takeDigits word cs).2 := by
  induction cs generalizing word with
  | nil => exact ⟨Nat.le_refl 0, rfl, by simp⟩
  | cons c cs ih =>
    rw [takeDigits]
    dsimp only
    split
    · obtain ⟨hle, hlast, hfull⟩ := ih (10 * word + digitValue c)
      exact ⟨Nat.succ_le_succ hle, hlast, by simpa using hfull⟩
    · rename_i hnext
      exact ⟨Nat.zero_le _, rfl, by simpa using hnext⟩

namespace Takes

variable {word last taken : Nat} {cs : List Char}

/-- All the digits stand for the word, continued by those that were left out. -/
theorem digitsFrom_eq (h : Takes word cs last taken) :
    digitsFrom word cs = digitsFrom last (cs.drop taken) := by
  rw [← h.last_eq, ← digitsFrom_append, List.take_append_drop]

theorem bounds (h : Takes word cs last taken) (hd : AllDigits cs) :
    last * 10 ^ (cs.length - taken) ≤ digitsFrom word cs ∧
      digitsFrom word cs < (last + 1) * 10 ^ (cs.length - taken) := by
  have hdrop : AllDigits (cs.drop taken) := fun c hc => hd c (List.mem_of_mem_drop hc)
  rw [h.digitsFrom_eq, ← List.length_drop]
  exact digitsFrom_bounds hdrop last

theorem nearly_full (h : Takes word cs last taken) (hd : AllDigits cs) (hlt : taken < cs.length) :
    wordBound ≤ 10 * last + 9 := by
  have hfull := h.full cs[taken] (by simp [hlt])
  have hdigit := digitValue_lt (hd cs[taken] (List.getElem_mem hlt))
  omega

theorem ten_mul_le (h : Takes word cs last taken) (hd : AllDigits cs) (hlast : last < wordBound)
    {next : Nat} (hle : 10 * word ≤ next) (hnext : wordBound ≤ next) :
    10 * last ≤ next * 10 ^ taken := by
  have hlength : (cs.take taken).length = taken := List.length_take_of_le h.le_length
  have hdigits : AllDigits (cs.take taken) := fun c hc => hd c (List.mem_of_mem_take hc)
  have hvalue := h.last_eq
  generalize cs.take taken = ds at hlength hdigits hvalue
  cases ds with
  | nil =>
    obtain rfl : word = last := hvalue
    exact hle.trans (Nat.le_mul_of_pos_right _ (Nat.pow_pos (by decide)))
  | cons d ds =>
    obtain rfl : ds.length + 1 = taken := hlength
    have hrest : AllDigits ds := fun c hc => hdigits c (List.mem_cons_of_mem _ hc)
    obtain ⟨hlower, hupper⟩ := digitsFrom_bounds hrest (10 * word + digitValue d)
    have hstep : digitsFrom (10 * word + digitValue d) ds = last := hvalue
    rw [hstep] at hlower hupper
    have hsmall : 10 * word + digitValue d < next := by
      have hle' := hlower.trans' (Nat.le_mul_of_pos_right _ (Nat.pow_pos (by decide)))
      omega
    calc 10 * last
      _ ≤ 10 * ((10 * word + digitValue d + 1) * 10 ^ ds.length) :=
        Nat.mul_le_mul_left 10 hupper.le
      _ ≤ 10 * (next * 10 ^ ds.length) :=
        Nat.mul_le_mul_left 10 (Nat.mul_le_mul_right _ hsmall)
      _ = next * 10 ^ (ds.length + 1) := by ring

end Takes

namespace Numeral

variable {n : Numeral}

/-- The word and its shift, by how many digits are left out before the point and how many are
taken behind it. Behind digits that were left out a digit of the fraction can only be taken if
it is less than the first of them, so that the word is not too large even then. -/
theorem significand_le (hw : AllDigits n.whole) (hf : AllDigits n.fraction) :
    ∃ left taken : Nat, n.significand.2 = (left : Int) - taken ∧
      n.significand.1 * 10 ^ (left + n.fraction.length) ≤
        digitsValue (n.whole ++ n.fraction) * 10 ^ taken := by
  have hwhole := takeDigits_takes 0 n.whole
  have hfraction := takeDigits_takes (takeDigits 0 n.whole).1 n.fraction
  have hword := n.significand_lt
  unfold significand at hword ⊢
  generalize takeDigits 0 n.whole = first at *
  obtain ⟨start, before⟩ := first
  dsimp only at hfraction hword hwhole ⊢
  generalize takeDigits start n.fraction = second at *
  obtain ⟨word, taken⟩ := second
  dsimp only at hfraction hword ⊢
  refine ⟨n.whole.length - before, taken, rfl, ?_⟩
  have hvalue : digitsValue (n.whole ++ n.fraction) =
      digitsFrom (digitsValue n.whole) n.fraction := digitsFrom_append 0 _ _
  rw [hvalue]
  by_cases hall : before = n.whole.length
  · -- no digit is left out before the point
    have hstart : digitsValue n.whole = start := by
      rw [← hwhole.last_eq, hall, List.take_length]
      rfl
    have hle := (hfraction.bounds hf).1
    rw [hstart, hall, Nat.sub_self, Nat.zero_add]
    calc word * 10 ^ n.fraction.length
      _ = word * 10 ^ (n.fraction.length - taken) * 10 ^ taken := by
        rw [Nat.mul_assoc, ← pow_add, Nat.sub_add_cancel hfraction.le_length]
      _ ≤ digitsFrom start n.fraction * 10 ^ taken := Nat.mul_le_mul_right _ hle
  · have hlt : before < n.whole.length := lt_of_le_of_ne hwhole.le_length hall
    have hdrop := List.drop_eq_getElem_cons hlt
    have hfull := hwhole.full n.whole[before] (by simp [hlt])
    have hrest : AllDigits (n.whole.drop (before + 1)) :=
      fun c hc => hw c (List.mem_of_mem_drop hc)
    have hlength : n.whole.length - before = (n.whole.drop (before + 1)).length + 1 := by
      rw [List.length_drop]
      omega
    have hlower := (digitsFrom_bounds hrest (10 * start + digitValue n.whole[before])).1
    have hsize : digitsFrom (10 * start + digitValue n.whole[before]) (n.whole.drop (before + 1)) =
        digitsValue n.whole := by
      rw [digitsValue, hwhole.digitsFrom_eq, hdrop]
      rfl
    rw [hsize] at hlower
    have hle : 10 * start ≤ 10 * start + digitValue n.whole[before] := Nat.le_add_right _ _
    rw [hlength]
    generalize 10 * start + digitValue n.whole[before] = next at *
    generalize (n.whole.drop (before + 1)).length = left at *
    have hten := hfraction.ten_mul_le hf hword hle hfull
    calc word * 10 ^ (left + 1 + n.fraction.length)
      _ = 10 * word * (10 ^ left * 10 ^ n.fraction.length) := by ring
      _ ≤ next * 10 ^ taken * (10 ^ left * 10 ^ n.fraction.length) := Nat.mul_le_mul_right _ hten
      _ = next * 10 ^ left * 10 ^ n.fraction.length * 10 ^ taken := by ring
      _ ≤ digitsValue n.whole * 10 ^ n.fraction.length * 10 ^ taken :=
        Nat.mul_le_mul_right _ (Nat.mul_le_mul_right _ hlower)
      _ ≤ _ := Nat.mul_le_mul_right _ (digitsFrom_bounds hf _).1

theorem word_le_decimal (hw : AllDigits n.whole) (hf : AllDigits n.fraction) {k : Nat}
    (hk : n.significand.2 + n.power = k) :
    n.significand.1 * 10 ^ k * n.decimal.den ≤ n.decimal.num := by
  obtain ⟨left, taken, hshift, hle⟩ := significand_le hw hf
  rw [hshift] at hk
  have hexponent : k + (-n.decimal.exponent).toNat + taken =
      left + n.fraction.length + n.decimal.exponent.toNat := by
    unfold decimal
    dsimp only
    omega
  have hden : n.decimal.den = 10 ^ (-n.decimal.exponent).toNat := rfl
  have hnum : n.decimal.num =
      digitsValue (n.whole ++ n.fraction) * 10 ^ n.decimal.exponent.toNat := rfl
  rw [hden, hnum]
  generalize (-n.decimal.exponent).toNat = small at *
  generalize n.decimal.exponent.toNat = large at *
  have hpos : 0 < 10 ^ taken := Nat.pow_pos (by decide)
  apply Nat.le_of_mul_le_mul_right ?_ hpos
  calc n.significand.1 * 10 ^ k * 10 ^ small * 10 ^ taken
    _ = n.significand.1 * 10 ^ (k + small + taken) := by ring
    _ = n.significand.1 * 10 ^ (left + n.fraction.length) * 10 ^ large := by
      rw [hexponent]
      ring
    _ ≤ digitsValue (n.whole ++ n.fraction) * 10 ^ taken * 10 ^ large :=
      Nat.mul_le_mul_right _ hle
    _ = digitsValue (n.whole ++ n.fraction) * 10 ^ large * 10 ^ taken := by ring

end Numeral

/-! ## Products that stay finite -/

/-- The rounded product of a word and a power of ten is finite. -/
def Scales (word k : Nat) : Prop :=
  (Binary64.mul (Binary64.ofNat word) (Binary64.ofDecimal false ⟨1, k⟩)).isFinite = true

instance (word k : Nat) : Decidable (Scales word k) := inferInstanceAs (Decidable (_ = true))

theorem scales_iff {word k : Nat} (hword : word ≤ 2 ^ 64) (hk : k ≤ 308) :
    Scales word k ↔ nearestRank (units (nearestRank (word * unitsPerOne) 1) *
      units (nearestRank (10 ^ k * unitsPerOne) 1)) unitsPerOne < rankCount := by
  obtain ⟨a, ha, hrank⟩ := Binary64.ofNat_eq hword
  obtain ⟨b, hb, -⟩ := Binary64.ofDecimal_power hk
  have hpower : b.val = nearestRank (10 ^ k * unitsPerOne) 1 := by
    have hratio := (Binary64.ofDecimal_power_eq hk).symm.trans hb
    unfold Binary64.ofRatio Binary64.ofRank at hratio
    split at hratio
    · cases hratio
      rfl
    · cases hratio
  rw [Scales, ha, hb, Binary64.mul, Binary64.isFinite_ofRatio_iff, hrank, hpower]

theorem Scales.mono {word word' k k' : Nat} (h : Scales word' k') (hword : word ≤ word')
    (hbound : word' ≤ 2 ^ 64) (hk : k ≤ k') (hlimit : k' ≤ 308) : Scales word k := by
  rw [scales_iff hbound hlimit] at h
  rw [scales_iff (hword.trans hbound) (hk.trans hlimit)]
  refine (nearestRank_mono unitsPerOne_pos (Nat.mul_le_mul ?_ ?_)).trans_lt h
  · exact units_strictMono.monotone (nearestRank_mono Nat.one_pos (Nat.mul_le_mul_right _ hword))
  · have hpower : 10 ^ k ≤ 10 ^ k' := pow_le_pow_right₀ (by decide) hk
    exact units_strictMono.monotone
      (nearestRank_mono Nat.one_pos (Nat.mul_le_mul_right _ hpower))

/-- Where products stop being finite: for every word, for the last word and the next one, and
for every word that fills up. -/
theorem scale_limits :
    Scales (2 ^ 64) 288 ∧ Scales 17976931348623156224 289 ∧
      ¬ Scales 17976931348623156225 289 ∧ ¬ Scales 1844674407370955161 290 := by
  decide +kernel

/-! ## What can be scaled -/

theorem isZero_ofNat_iff {word : Nat} (h : word ≤ 2 ^ 64) :
    (Binary64.ofNat word).isZero = true ↔ word = 0 := by
  obtain ⟨rank, hrank, hvalue⟩ := Binary64.ofNat_eq h
  rw [hrank, Binary64.isZero, beq_iff_eq, hvalue]
  constructor
  · intro hzero
    by_contra hpos
    have hunit : unitsPerOne * 1 ≤ word * unitsPerOne := by
      rw [Nat.mul_one]
      exact Nat.le_mul_of_pos_left unitsPerOne (Nat.pos_of_ne_zero hpos)
    have hone := Binary64.oneRank_le Nat.one_pos hunit
    have := Binary64.oneRank_pos
    omega
  · rintro rfl
    rw [Nat.zero_mul, Binary64.nearestRank_zero Nat.one_pos]

theorem isSome_scaleByTen_iff {word : Nat} (h : word ≤ 2 ^ 64) (k steps : Nat) :
    (scaleByTen (Binary64.ofNat word) k (steps + 1)).isSome ↔
      word = 0 ∨ (k ≤ 308 ∧ Scales word k) := by
  have hzero : k ≤ 308 → Scales 0 k := by
    intro hk
    rw [scales_iff (Nat.zero_le _) hk, Nat.zero_mul, Binary64.nearestRank_zero Nat.one_pos,
      Binary64.units_zero, Nat.zero_mul, Binary64.nearestRank_zero unitsPerOne_pos]
    exact Binary64.rankCount_pos
  unfold scaleByTen
  rw [Int.natAbs_natCast]
  by_cases hk : k ≤ 308
  · have hscales : (Binary64.mul (Binary64.ofNat word)
        (Binary64.ofDecimal false ⟨1, k⟩)).isFinite = true ↔ Scales word k := Iff.rfl
    rw [if_pos hk]
    dsimp only
    rw [if_pos (Int.natCast_nonneg k)]
    split_ifs with hproduct
    · exact iff_of_true rfl (.inr ⟨hk, hscales.1 hproduct⟩)
    · refine iff_of_false (by simp) ?_
      rintro (rfl | ⟨-, hfinite⟩)
      · exact hproduct (hscales.2 (hzero hk))
      · exact hproduct (hscales.2 hfinite)
  · have hpositive : 0 < (k : Int) := by omega
    rw [if_neg hk]
    split_ifs with hword
    · exact iff_of_true rfl (.inl ((isZero_ofNat_iff h).1 hword))
    · refine iff_of_false (by simp) ?_
      rintro (rfl | ⟨hle, -⟩)
      · exact hword ((isZero_ofNat_iff h).2 rfl)
      · exact hk hle

theorem isSome_scaleByTen_of_neg {exponent : Int} (h : exponent < 0) (x : Binary64)
    (steps : Nat) : (scaleByTen x exponent steps).isSome := by
  induction steps generalizing x exponent with
  | zero => rfl
  | succ steps ih =>
    unfold scaleByTen
    dsimp only
    split_ifs with hsmall hsign hproduct hzero hlarge
    · omega
    · omega
    · rfl
    · rfl
    · omega
    · exact ih (by omega) _

/-- Whole numbers below this bound are read, whatever their length. -/
def literalBound : Nat := 17976931348623156225 * 10 ^ 289

theorem literalBound_eq : literalBound = 17976931348623156225 * 10 * 10 ^ 288 := by
  rw [literalBound, Nat.mul_assoc, ← pow_succ']

theorem word_le_literalBound : 2 ^ 64 ≤ literalBound := by
  have hpower : 0 < 10 ^ 288 := by positivity
  calc 2 ^ 64
    _ ≤ 17976931348623156225 * 10 := by decide
    _ ≤ 17976931348623156225 * 10 * 10 ^ 288 := Nat.le_mul_of_pos_right _ hpower
    _ = literalBound := literalBound_eq.symm

/-- Where a word stands before zeros, and the digits behind it do not fit it, what they make up
is below the bound exactly if the word can be scaled. -/
theorem scales_iff_lt_literalBound {word left size : Nat} (hword : word ≤ 2 ^ 64)
    (hlower : word * 10 ^ left ≤ size) (hupper : size < (word + 1) * 10 ^ left)
    (hfull : 0 < left → 1844674407370955161 ≤ word) :
    (word = 0 ∨ (left ≤ 308 ∧ Scales word left)) ↔ size < literalBound := by
  obtain ⟨hsmall, hlast, hnext, hfilled⟩ := scale_limits
  rcases Nat.lt_trichotomy left 289 with hshort | rfl | hlong
  · -- a short numeral is always read
    refine iff_of_true (.inr ⟨by omega, ?_⟩) ?_
    · exact hsmall.mono hword (Nat.le_refl _) (by omega) (by decide)
    · have hpower : 10 ^ left ≤ 10 ^ 288 := pow_le_pow_right₀ (by decide) (by omega)
      calc size
        _ < (word + 1) * 10 ^ left := hupper
        _ ≤ (2 ^ 64 + 1) * 10 ^ 288 := Nat.mul_le_mul (Nat.succ_le_succ hword) hpower
        _ ≤ 17976931348623156225 * 10 * 10 ^ 288 := Nat.mul_le_mul_right _ (by decide)
        _ = literalBound := literalBound_eq.symm
  · have hlt : size < literalBound ↔ word < 17976931348623156225 := by
      unfold literalBound
      constructor
      · intro h
        exact Nat.lt_of_mul_lt_mul_right (hlower.trans_lt h)
      · intro h
        exact hupper.trans_le (Nat.mul_le_mul_right _ h)
    have hlarge := hfull (by decide)
    rw [hlt]
    constructor
    · rintro (rfl | ⟨-, hscales⟩)
      · decide
      · by_contra hge
        exact hnext (hscales.mono (not_lt.1 hge) hword (Nat.le_refl _) (by decide))
    · intro h
      exact .inr ⟨by decide, hlast.mono (Nat.le_of_lt_succ h) (by decide) (Nat.le_refl _)
        (by decide)⟩
  · -- a long numeral has a large word, which cannot be scaled so far
    have hlarge := hfull (by omega)
    refine iff_of_false ?_ ?_
    · rintro (rfl | ⟨hle, hscales⟩)
      · omega
      · exact hfilled (hscales.mono hlarge hword hlong hle)
    · have hpower : 10 ^ 290 ≤ 10 ^ left := pow_le_pow_right₀ (by decide) hlong
      apply Nat.not_lt_of_le
      calc literalBound
        _ ≤ 1844674407370955161 * 10 * 10 ^ 289 := Nat.mul_le_mul_right _ (by decide)
        _ = 1844674407370955161 * 10 ^ 290 := by rw [Nat.mul_assoc, ← pow_succ']
        _ ≤ word * 10 ^ left := Nat.mul_le_mul hlarge hpower
        _ ≤ size := hlower

/-- Numerals up to this bound can be scaled: it is half way between the two greatest numbers. -/
def readableBound : Nat := (2 ^ 54 - 3) * 2 ^ 970

theorem scales_readable : readableBound < 10 ^ 309 ∧
    ∀ j < 20, readableBound / 10 ^ (289 + j) ≤ 2 ^ 64 ∧
      Scales (readableBound / 10 ^ (289 + j)) (289 + j) := by
  decide +kernel

theorem le_of_pow_le_readableBound {k : Nat} (h : 10 ^ k ≤ readableBound) : k ≤ 308 := by
  by_contra hlarge
  have hpower : 10 ^ 309 ≤ 10 ^ k := pow_le_pow_right₀ (by decide) (by omega)
  exact absurd (hpower.trans h) (Nat.not_le_of_lt scales_readable.1)

theorem isSome_scaleByTen_of_le {word k : Nat} (hword : word ≤ 2 ^ 64)
    (h : word * 10 ^ k ≤ readableBound) : (scaleByTen (Binary64.ofNat word) k 4).isSome := by
  rw [isSome_scaleByTen_iff hword]
  by_cases hzero : word = 0
  · exact .inl hzero
  have hlimit : k ≤ 308 :=
    le_of_pow_le_readableBound ((Nat.le_mul_of_pos_left _ (Nat.pos_of_ne_zero hzero)).trans h)
  refine .inr ⟨hlimit, ?_⟩
  by_cases hshort : k ≤ 288
  · exact scale_limits.1.mono hword (Nat.le_refl _) hshort (by decide)
  · obtain ⟨hquotient, hscales⟩ := scales_readable.2 (k - 289) (by omega)
    have hsum : 289 + (k - 289) = k := by omega
    rw [hsum] at hquotient hscales
    have hle : word ≤ readableBound / 10 ^ k :=
      (Nat.le_div_iff_mul_le (Nat.pow_pos (by decide))).2 h
    exact hscales.mono hle hquotient (Nat.le_refl _) hlimit

namespace Numeral

variable {n : Numeral}

theorem isSome_signed (o : Option Binary64) : (o.map n.signed).isSome = o.isSome :=
  Option.isSome_map

theorem isSome_float?_iff_of_whole (hd : AllDigits n.whole) (hfraction : n.fraction = [])
    (hexponent : n.exponent = none) :
    n.float?.isSome ↔ digitsValue n.whole < literalBound := by
  have hword := n.significand_lt
  have htakes := takeDigits_takes 0 n.whole
  have hsignificand : n.significand = ((takeDigits 0 n.whole).1,
      ((n.whole.length - (takeDigits 0 n.whole).2 : Nat) : Int)) := by
    simp [significand, hfraction, takeDigits]
  unfold float?
  rw [hsignificand] at hword ⊢
  rw [hexponent]
  dsimp only at hword ⊢
  generalize takeDigits 0 n.whole = first at *
  obtain ⟨word, taken⟩ := first
  dsimp only at htakes hword ⊢
  have hbounds := htakes.bounds hd
  have hfull := htakes.nearly_full hd
  have hwordBound : wordBound = 2 ^ 64 := rfl
  have hle : word ≤ 2 ^ 64 := by omega
  rw [isSome_signed, isSome_scaleByTen_iff hle]
  exact scales_iff_lt_literalBound hle hbounds.1 hbounds.2 fun hleft => by
    have := hfull (by omega)
    omega

theorem pow_le_decimal {size : Nat} (hf : AllDigits n.fraction) (hwhole : 0 < digitsValue n.whole)
    (hpower : n.power = size) : 10 ^ size * n.decimal.den ≤ n.decimal.num := by
  have hlower := (digitsFrom_bounds hf (digitsValue n.whole)).1
  have hvalue : digitsValue (n.whole ++ n.fraction) =
      digitsFrom (digitsValue n.whole) n.fraction := digitsFrom_append 0 _ _
  have hden : n.decimal.den = 10 ^ (-n.decimal.exponent).toNat := rfl
  have hnum : n.decimal.num =
      digitsValue (n.whole ++ n.fraction) * 10 ^ n.decimal.exponent.toNat := rfl
  have hexponent : size + (-n.decimal.exponent).toNat =
      n.fraction.length + n.decimal.exponent.toNat := by
    unfold decimal
    dsimp only
    omega
  rw [hden, hnum, ← pow_add, hexponent, pow_add, hvalue]
  exact Nat.mul_le_mul_right _ ((Nat.le_mul_of_pos_left _ hwhole).trans hlower)

/-- A numeral up to the bound is read. An exponent of many digits is refused apart, but goes
with no such numeral that has a digit before the point. -/
theorem isSome_float?_of_le (hw : AllDigits n.whole) (hf : AllDigits n.fraction)
    (hle : n.decimal.num ≤ readableBound * n.decimal.den)
    (hshape : n.exponent = none ∨ 0 < digitsValue n.whole) : n.float?.isSome := by
  have hword := n.significand_lt
  have hwordBound : wordBound = 2 ^ 64 := rfl
  have hscaled : (scaleByTen (Binary64.ofNat n.significand.1) (n.significand.2 + n.power)
      4).isSome := by
    by_cases hneg : n.significand.2 + n.power < 0
    · exact isSome_scaleByTen_of_neg hneg _ _
    · obtain ⟨k, hk⟩ := Int.eq_ofNat_of_zero_le (not_lt.1 hneg)
      rw [hk]
      apply isSome_scaleByTen_of_le (by omega)
      apply Nat.le_of_mul_le_mul_right ?_ n.decimal.den_pos
      exact (word_le_decimal hw hf hk).trans hle
  unfold float?
  dsimp only
  cases hexponent : n.exponent with
  | none =>
    have hpower : n.power = 0 := by rw [power, hexponent, Option.elim_none]
    rw [hpower, Int.add_zero] at hscaled
    rw [isSome_signed]
    exact hscaled
  | some e =>
    have hpower : n.power = e.value := by rw [power, hexponent, Option.elim_some]
    dsimp only
    split_ifs with hgreat hlost hnegative
    · exfalso
      have hwhole : 0 < digitsValue n.whole := hshape.resolve_left (by simp [hexponent])
      have hsize : n.power = digitsValue e.digits := by
        rw [hpower, Exponent.value, if_neg (by simpa using hlost.2)]
      have hpow := Nat.le_of_mul_le_mul_right
        ((pow_le_decimal hf hwhole hsize).trans hle) n.decimal.den_pos
      have hsmall := le_of_pow_le_readableBound hpow
      have hgreatest : greatestExponent = 2147483647 := by decide
      omega
    · rfl
    · rw [hpower, Exponent.value, if_pos hnegative] at hscaled
      rw [isSome_signed]
      exact hscaled
    · rw [hpower, Exponent.value, if_neg hnegative] at hscaled
      rw [isSome_signed]
      exact hscaled

end Numeral

end Assay.Json
