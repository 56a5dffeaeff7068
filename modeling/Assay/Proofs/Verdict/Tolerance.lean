import Assay.Document.Reader
import Assay.Proofs.Binary64.Exact
import Assay.Proofs.Verdict.Integers

/-!
# Verdicts within tolerance

Rounding keeps order, so that the verdict on two finite numbers compares ranks,
and follows from their exact difference and the exact tolerance but for what
rounding adds. It does not depend on which of the two numbers comes first.
-/

set_option autoImplicit false

namespace Assay

/-!
## Closeness by ranks

Rounding keeps order. So the verdict on two finite numbers compares ranks: that
of their difference with that of the tolerated share of the larger one, and
with that of the absolute tolerance. All ranks behind the last one stand for
infinity, and are one.
-/

namespace Binary64

/-- A rank, or the first one behind the last, where infinity stands. -/
def capped (rank : Nat) : Nat := min rank rankCount

theorem capped_mono {r s : Nat} (h : r ≤ s) : capped r ≤ capped s := min_le_min_right rankCount h

theorem abs_ofRank (negative : Bool) (rank : Nat) :
    (ofRank negative rank).abs = ofRank false rank := by
  unfold ofRank
  split <;> rfl

theorem isNan_ofRank (negative : Bool) (rank : Nat) : (ofRank negative rank).isNan = false := by
  unfold ofRank
  split <;> rfl

theorem place_ofRank (rank : Nat) : (ofRank false rank).place = capped rank := by
  unfold ofRank capped
  split_ifs with h
  · exact congrArg Int.ofNat (min_eq_left h.le).symm
  · exact congrArg Int.ofNat (min_eq_right (Nat.le_of_not_lt h)).symm

theorem place_ofRank_of_sign {negative : Bool} {rank : Nat} (h : negative = true → rank = 0) :
    (ofRank negative rank).place = capped rank := by
  cases negative with
  | false => exact place_ofRank rank
  | true =>
    obtain rfl := h rfl
    decide

theorem isNan_max {x y : Binary64} (hx : x.isNan = false) (hy : y.isNan = false) :
    (max x y).isNan = false := by
  rcases max_eq_or x y with h | h <;> rw [h] <;> assumption

theorem place_max {x y : Binary64} (hx : x.isNan = false) (hy : y.isNan = false) :
    (max x y).place = Max.max x.place y.place := by
  unfold max le
  simp only [hx, hy, Bool.not_false, Bool.true_and, decide_eq_true_eq, Bool.false_eq_true, if_false]
  split_ifs <;> omega

theorem le_iff_place {x y : Binary64} (hx : x.isNan = false) (hy : y.isNan = false) :
    le x y = true ↔ x.place ≤ y.place := by
  simp [le, hx, hy]

theorem abs_sub_finite (s t : Bool) (a b : Fin rankCount) :
    (sub (.finite s a) (.finite t b)).abs = ofRank false (nearestRank (gap s t a b) 1) := by
  rw [sub, neg, add, signedUnits_not, ← sub_eq_add_neg]
  split_ifs with hzero
  · rw [gap, hzero, Int.natAbs_zero, nearestRank_zero Nat.one_pos]
    rfl
  · rw [ofRatio, abs_ofRank, gap]

theorem exists_max_abs (s t : Bool) (a b : Fin rankCount) :
    ∃ m : Fin rankCount, max (Binary64.finite s a).abs (Binary64.finite t b).abs = .finite false m ∧
      units m = Max.max (units a) (units b) := by
  simp only [abs, max, le, isNan, place]
  simp only [Bool.not_false, Bool.and_self, Bool.true_and, Bool.false_eq_true, if_false,
    decide_eq_true_eq, Int.ofNat_le]
  split_ifs with h
  · exact ⟨b, rfl, (max_eq_right (units_strictMono.monotone h)).symm⟩
  · exact ⟨a, rfl, (max_eq_left (units_strictMono.monotone (Nat.le_of_not_le h))).symm⟩

theorem place_mul_finite {u : Bool} {r : Fin rankCount} (hu : u = true → r.val = 0)
    (m : Fin rankCount) : (mul (.finite u r) (.finite false m)).place =
      capped (nearestRank (units r * units m) unitsPerOne) := by
  rw [mul, Bool.bne_false, ofRatio]
  refine place_ofRank_of_sign fun hsign => ?_
  rw [hu hsign, units_zero, Nat.zero_mul, nearestRank_zero unitsPerOne_pos]

theorem isNan_mul_finite (u v : Bool) (r m : Fin rankCount) :
    (mul (.finite u r) (.finite v m)).isNan = false := by
  rw [mul, ofRatio]
  exact isNan_ofRank _ _

theorem place_of_sign {v : Bool} {w : Fin rankCount} (hv : v = true → w.val = 0) :
    (Binary64.finite v w).place = w.val := by
  cases v with
  | false => rfl
  | true => simp [place, hv rfl]

theorem exists_of_isAdmissible {x : Binary64} (h : Case.isAdmissible x = true) :
    ∃ (s : Bool) (rank : Fin rankCount), x = .finite s rank ∧ (s = true → rank.val = 0) := by
  cases x with
  | nan => cases h
  | inf s => cases h
  | finite s rank =>
    refine ⟨s, rank, rfl, ?_⟩
    rintro rfl
    simpa [Case.isAdmissible, isFinite, le, zero, isNan, place] using h

end Binary64

theorem isClose_iff_ranks {s t u v : Bool} {a b r w : Fin rankCount}
    (hu : u = true → r.val = 0) (hv : v = true → w.val = 0) :
    isClose (.finite s a) (.finite t b) (.finite u r) (.finite v w) = true ↔
      Binary64.capped (Binary64.nearestRank (Binary64.gap s t a b) 1) ≤
        max (Binary64.capped (Binary64.nearestRank
          (Binary64.units r * max (Binary64.units a) (Binary64.units b)) unitsPerOne)) w := by
  unfold isClose
  split_ifs with hequal hfinite
  · have hgap : Binary64.gap s t a b = 0 := by
      rw [Binary64.equal_iff_of_finite rfl rfl, ← Binary64.signedUnits_eq_iff] at hequal
      rw [Binary64.gap, hequal, sub_self, Int.natAbs_zero]
    rw [hgap, Binary64.nearestRank_zero Nat.one_pos]
    simp [Binary64.capped]
  · simp [Binary64.isFinite] at hfinite
  · obtain ⟨m, hmax, hunits⟩ := Binary64.exists_max_abs s t a b
    dsimp only
    rw [hmax, Binary64.abs_sub_finite, ← hunits]
    have hbound := Binary64.isNan_mul_finite u false r m
    have hproduct := Binary64.place_mul_finite hu m
    have hmaximum := Binary64.place_max (y := .finite v w) hbound rfl
    have hnan := Binary64.isNan_max (y := .finite v w) hbound rfl
    rw [hproduct, Binary64.place_of_sign hv] at hmaximum
    rw [Binary64.le_iff_place (Binary64.isNan_ofRank _ _) hnan, hmaximum, Binary64.place_ofRank,
      ← Nat.cast_max, Nat.cast_le]

/-!
## Exact tolerances

Two numbers whose exact difference is within the exact tolerance are close, since
rounding keeps order. Two numbers whose difference is beyond it, and by more than
one part in `2 ^ 50`, are close only where rounding brings the tolerated share
of the larger one up to the difference: to infinity, or to a whole number of the
smallest units. A larger tolerance rejects nothing that a smaller one accepts.
-/

/-- What a product below a difference is rounded up to: infinity, or the difference itself, if
it is half of the least positive number away at most, and this half goes to an even one. -/
inductive RoundedUp (product difference : ℚ) : Prop
  | toInfinity (h : 2 ^ 1024 - 2 ^ 970 ≤ product)
  | toNearest (h : difference - product < (1 / 2) ^ 1075)
  | toEven {n : ℕ} (hn : difference = n * (1 / 2) ^ 1073)
    (h : difference - product = (1 / 2) ^ 1075)

section Ranks

open Binary64 (capped nearestRank units)

variable {gap num : Nat} {w : Fin rankCount}

theorem capped_le_of_within (h : gap * unitsPerOne ≤ num ∨ gap ≤ units w) :
    capped (nearestRank gap 1) ≤ max (capped (nearestRank num unitsPerOne)) w := by
  rcases h with h | h
  · have hscaled := Binary64.nearestRank_mul_mul gap Nat.one_pos Binary64.unitsPerOne_pos
    rw [Nat.one_mul] at hscaled
    refine le_max_of_le_left (Binary64.capped_mono ?_)
    rw [← hscaled]
    exact Binary64.nearestRank_mono Binary64.unitsPerOne_pos h
  · refine le_max_of_le_right ((min_le_left _ _).trans ?_)
    exact Binary64.nearestRank_le Nat.one_pos (by rwa [Nat.mul_one])

/-- A difference far beyond both tolerances has a larger rank than each, unless the product is
rounded up to it. -/
theorem capped_le_iff_of_beyond (hrelative : (2 ^ 50 + 1) * num < 2 ^ 50 * (gap * unitsPerOne))
    (habsolute : (2 ^ 50 + 1) * units w < 2 ^ 50 * gap) :
    capped (nearestRank gap 1) ≤ max (capped (nearestRank num unitsPerOne)) w ↔
      rankCount ≤ nearestRank num unitsPerOne ∨
        2 * (gap * unitsPerOne) ≤ 2 * num + unitsPerOne ∧
          (gap % 2 = 1 → 2 * (gap * unitsPerOne) < 2 * num + unitsPerOne) := by
  have hlimit : w < capped (nearestRank gap 1) :=
    lt_min (Binary64.lt_nearestRank_of_far habsolute) w.isLt
  rw [le_max_iff, or_iff_left (Nat.not_le_of_lt hlimit),
    ← Binary64.nearestRank_le_iff_of_far Binary64.unitsPerOne_pos hrelative, capped, capped,
    le_min_iff, and_iff_left (min_le_right _ _), min_le_iff, or_comm]

end Ranks

/-! ## Exact quantities -/

section Quantities

open Binary64 (half_unit lowerEnd nearestRank two_units)

variable {gap num w : Nat}

theorem unitsPerOne_cast_pos : (0 : ℚ) < unitsPerOne := Nat.cast_pos.mpr Binary64.unitsPerOne_pos

theorem mul_div_units (m n : Nat) : (m / unitsPerOne : ℚ) * (n / unitsPerOne) =
    (m * n : Nat) / (unitsPerOne * unitsPerOne) := by
  rw [div_mul_div_comm, Nat.cast_mul]

theorem within_iff : (gap / unitsPerOne : ℚ) ≤
    max (num / (unitsPerOne * unitsPerOne) : ℚ) (w / unitsPerOne : ℚ) ↔
      gap * unitsPerOne ≤ num ∨ gap ≤ w := by
  have hpos := unitsPerOne_cast_pos
  rw [le_max_iff, div_le_div_iff_of_pos_right hpos, Nat.cast_le, ← div_div,
    div_le_div_iff_of_pos_right hpos, le_div_iff₀ hpos, ← Nat.cast_mul, Nat.cast_le]

theorem far_iff {den : Nat} (hden : 0 < den) : (num / den : ℚ) * (1 + 1 / 2 ^ 50) < gap ↔
    (2 ^ 50 + 1) * num < 2 ^ 50 * (gap * den) := by
  have hpos : (0 : ℚ) < den := Nat.cast_pos.mpr hden
  have hfactor : (1 + 1 / 2 ^ 50 : ℚ) = (2 ^ 50 + 1) / 2 ^ 50 := by norm_num
  rw [hfactor, div_mul_div_comm, div_lt_iff₀ (by positivity), ← Nat.cast_lt (α := ℚ)]
  push_cast
  constructor <;> intro h <;> linarith

theorem beyond_iff : max (num / (unitsPerOne * unitsPerOne) : ℚ) (w / unitsPerOne : ℚ) *
    (1 + 1 / 2 ^ 50) < gap / unitsPerOne ↔
      (2 ^ 50 + 1) * num < 2 ^ 50 * (gap * unitsPerOne) ∧ (2 ^ 50 + 1) * w < 2 ^ 50 * gap := by
  have hpos := unitsPerOne_cast_pos
  have hlimit : (w : ℚ) * (1 + 1 / 2 ^ 50) < gap ↔ (2 ^ 50 + 1) * w < 2 ^ 50 * gap := by
    simpa only [Nat.cast_one, div_one, Nat.mul_one] using @far_iff gap w 1 Nat.one_pos
  rw [← div_div, max_div_div_right hpos.le, div_mul_eq_mul_div,
    div_lt_div_iff_of_pos_right hpos, max_mul_of_nonneg _ _ (by positivity), max_lt_iff,
    far_iff Binary64.unitsPerOne_pos, hlimit]

theorem pow_sub_le_iff {m n den : Nat} (hden : 0 < den) :
    (2 ^ m - 2 ^ n : ℚ) ≤ num / (den * den) ↔ 2 ^ m * (den * den) ≤ num + 2 ^ n * (den * den) := by
  have hpos : (0 : ℚ) < den := Nat.cast_pos.mpr hden
  rw [le_div_iff₀ (mul_pos hpos hpos), sub_mul, sub_le_iff_le_add]
  norm_cast

/-- The least ratio that is rounded to infinity lies half a step above the largest number. -/
theorem infinite_iff : rankCount ≤ nearestRank num unitsPerOne ↔
    (2 ^ 1024 - 2 ^ 970 : ℚ) ≤ num / (unitsPerOne * unitsPerOne) := by
  have hend : lowerEnd rankCount + 2 * (2 ^ 970 * unitsPerOne) =
      2 * (2 ^ 1024 * unitsPerOne) := by decide +kernel
  have heven : rankCount % 2 ≠ 1 := by decide
  have hscaled : (lowerEnd rankCount + 2 * (2 ^ 970 * unitsPerOne)) * unitsPerOne =
      2 * (2 ^ 1024 * unitsPerOne) * unitsPerOne := by rw [hend]
  have hnat : lowerEnd rankCount * unitsPerOne ≤ 2 * num ↔
      2 ^ 1024 * (unitsPerOne * unitsPerOne) ≤ num + 2 ^ 970 * (unitsPerOne * unitsPerOne) := by
    rw [← Nat.mul_assoc, ← Nat.mul_assoc]
    rw [Nat.add_mul, Nat.mul_assoc 2, Nat.mul_assoc 2] at hscaled
    omega
  rw [Binary64.le_nearestRank_iff Binary64.unitsPerOne_pos,
    and_iff_left (fun hodd => absurd hodd heven), hnat, pow_sub_le_iff Binary64.unitsPerOne_pos]

/-- The distance from a product up to a difference, beyond half of the least positive number. -/
theorem distance_eq :
    (gap / unitsPerOne - num / (unitsPerOne * unitsPerOne) : ℚ) - (1 / 2) ^ 1075 =
      ((2 * (gap * unitsPerOne) : Nat) - (2 * num + unitsPerOne : Nat) : ℚ) /
        (2 * (unitsPerOne * unitsPerOne)) := by
  have hpos := unitsPerOne_cast_pos
  rw [half_unit]
  field_simp
  push_cast
  ring

theorem nearer_iff : (gap / unitsPerOne - num / (unitsPerOne * unitsPerOne) : ℚ) < (1 / 2) ^ 1075 ↔
    2 * (gap * unitsPerOne) < 2 * num + unitsPerOne := by
  have hpos := unitsPerOne_cast_pos
  have hdouble := mul_pos (two_pos (α := ℚ)) (mul_pos hpos hpos)
  rw [← sub_neg, distance_eq, div_lt_iff₀ hdouble, zero_mul, sub_neg, Nat.cast_lt]

theorem half_away_iff :
    (gap / unitsPerOne - num / (unitsPerOne * unitsPerOne) : ℚ) = (1 / 2) ^ 1075 ↔
      2 * (gap * unitsPerOne) = 2 * num + unitsPerOne := by
  have hpos := unitsPerOne_cast_pos
  have hdouble := mul_pos (two_pos (α := ℚ)) (mul_pos hpos hpos)
  rw [← sub_eq_zero, distance_eq, div_eq_zero_iff, or_iff_left hdouble.ne', sub_eq_zero,
    Nat.cast_inj]

theorem even_iff : (∃ n : ℕ, (gap / unitsPerOne : ℚ) = n * (1 / 2) ^ 1073) ↔ gap % 2 = 0 := by
  have hunits (n : ℕ) : (gap / unitsPerOne : ℚ) = n * (1 / 2) ^ 1073 ↔ gap = n * 2 := by
    rw [two_units, ← mul_div_assoc, div_left_inj' unitsPerOne_cast_pos.ne']
    norm_cast
  simp only [hunits]
  exact ⟨fun ⟨n, hn⟩ => by omega, fun heven => ⟨gap / 2, by omega⟩⟩

theorem roundedUp_iff : RoundedUp (num / (unitsPerOne * unitsPerOne)) (gap / unitsPerOne) ↔
    rankCount ≤ nearestRank num unitsPerOne ∨
      2 * (gap * unitsPerOne) ≤ 2 * num + unitsPerOne ∧
        (gap % 2 = 1 → 2 * (gap * unitsPerOne) < 2 * num + unitsPerOne) := by
  constructor
  · rintro (h | h | ⟨hn, h⟩)
    · exact .inl (infinite_iff.mpr h)
    · have hnear := nearer_iff.mp h
      exact .inr ⟨hnear.le, fun _ => hnear⟩
    · have heven := even_iff.mp ⟨_, hn⟩
      exact .inr ⟨(half_away_iff.mp h).le, fun hodd => by omega⟩
  · rintro (hinfinite | ⟨hle, hodd⟩)
    · exact .toInfinity (infinite_iff.mp hinfinite)
    · rcases hle.lt_or_eq with hlt | heq
      · exact .toNearest (nearer_iff.mpr hlt)
      · have heven : gap % 2 = 0 :=
          (Nat.mod_two_eq_zero_or_one gap).resolve_right fun h => (hodd h).ne heq
        obtain ⟨n, hn⟩ := even_iff.mpr heven
        exact .toEven hn (half_away_iff.mpr heq)

end Quantities

/-- The share of the larger one of two numbers that a relative tolerance allows. -/
def exactShare (a b relative : Binary64) : ℚ := relative.value * max |a.value| |b.value|

/-- The bound that two tolerances set for the difference of two numbers. -/
def exactBound (a b relative absolute : Binary64) : ℚ :=
  max (exactShare a b relative) absolute.value

/-- Two finite numbers are close if their exact difference is within the bound. If it is beyond
the bound by more than one part in `2 ^ 50`, they are not, unless the share that is allowed is
rounded up to infinity or to the difference. The tolerances are those that a document may ask
for. -/
theorem verdict_follows_exact_bound {a b relative absolute : Binary64}
    (ha : a.isFinite = true) (hb : b.isFinite = true)
    (hrelative : Case.isAdmissible relative = true)
    (habsolute : Case.isAdmissible absolute = true) :
    (|a.value - b.value| ≤ exactBound a b relative absolute →
      isClose a b relative absolute = true) ∧
    (exactBound a b relative absolute * (1 + 1 / 2 ^ 50) < |a.value - b.value| →
      (isClose a b relative absolute = false ↔
        ¬RoundedUp (exactShare a b relative) |a.value - b.value|)) := by
  obtain ⟨s, x, rfl⟩ := Binary64.exists_of_isFinite ha
  obtain ⟨t, y, rfl⟩ := Binary64.exists_of_isFinite hb
  obtain ⟨u, r, rfl, hu⟩ := Binary64.exists_of_isAdmissible hrelative
  obtain ⟨v, w, rfl, hv⟩ := Binary64.exists_of_isAdmissible habsolute
  rw [exactBound, exactShare, Binary64.abs_value_sub, Binary64.max_abs_value,
    Binary64.value_of_sign hu, Binary64.value_of_sign hv, mul_div_units, within_iff, beyond_iff,
    ← Bool.not_eq_true, isClose_iff_ranks hu hv, roundedUp_iff]
  refine ⟨capped_le_of_within, ?_⟩
  rintro ⟨hfar, hfar'⟩
  exact not_congr (capped_le_iff_of_beyond hfar hfar')

/-- Six tenths of the least positive number are rounded up to it, and one and a half times the
largest number is rounded to infinity, as is twice that number. So the distance from the least
positive number to zero, and that between the largest number and its negative, are accepted
though they are far beyond the bound. -/
theorem shares_are_rounded_up_to_differences :
    let least : Binary64 := .finite false ⟨1, by decide⟩
    let largest : Binary64 := .finite false ⟨rankCount - 1, by decide⟩
    let zero := Binary64.zero false
    let sixTenths := Binary64.ofDecimal false ⟨6, -1⟩
    let threeHalves := Binary64.ofDecimal false ⟨15, -1⟩
    ¬(exactBound least zero sixTenths zero * (1 + 1 / 2 ^ 50) < |least.value - zero.value| →
        isClose least zero sixTenths zero = false) ∧
      ¬(exactBound largest largest.neg threeHalves zero * (1 + 1 / 2 ^ 50) <
          |largest.value - largest.neg.value| →
        isClose largest largest.neg threeHalves zero = false) := by
  decide +kernel

/-- The sum of a tenth and two tenths is no more than one part in a thousand million away from
three tenths, and is away from it. -/
theorem sum_of_tenths_is_close_within_tolerance :
    let sum := Binary64.add (Binary64.ofDecimal false ⟨1, -1⟩) (Binary64.ofDecimal false ⟨2, -1⟩)
    let direct := Binary64.ofDecimal false ⟨3, -1⟩
    isClose sum direct Tolerance.defaultRelative (Binary64.zero false) = true ∧
      isClose sum direct (Binary64.zero false) (Binary64.zero true) = false := by
  intro sum direct
  have hsum : sum.isFinite = true := by decide +kernel
  have hdirect : direct.isFinite = true := by decide +kernel
  constructor
  · refine (verdict_follows_exact_bound hsum hdirect (by decide +kernel) (by decide)).1 ?_
    decide +kernel
  · refine ((verdict_follows_exact_bound hsum hdirect (by decide) (by decide)).2 ?_).mpr ?_
    · decide +kernel
    · rintro (h | h | ⟨-, h⟩) <;> revert h <;> decide +kernel

/-! ## Larger tolerances -/

theorem isClose_of_not_finite {a b : Binary64} (h : ¬(a.isFinite = true ∧ b.isFinite = true))
    (relative absolute : Binary64) : isClose a b relative absolute = Binary64.equal a b := by
  unfold isClose
  cases Binary64.equal a b with
  | true => rfl
  | false => cases ha : a.isFinite <;> cases hb : b.isFinite <;> simp_all

theorem isClose_of_looser {r r' t t' : Binary64} (hr : Case.isAdmissible r = true)
    (hr' : Case.isAdmissible r' = true) (ht : Case.isAdmissible t = true)
    (ht' : Case.isAdmissible t' = true) (hrelative : Binary64.le r r' = true)
    (habsolute : Binary64.le t t' = true) {a b : Binary64} (h : isClose a b r t = true) :
    isClose a b r' t' = true := by
  by_cases hfinite : a.isFinite = true ∧ b.isFinite = true
  · obtain ⟨s, x, rfl⟩ := Binary64.exists_of_isFinite hfinite.1
    obtain ⟨s', y, rfl⟩ := Binary64.exists_of_isFinite hfinite.2
    obtain ⟨u, r, rfl, hu⟩ := Binary64.exists_of_isAdmissible hr
    obtain ⟨u', r', rfl, hu'⟩ := Binary64.exists_of_isAdmissible hr'
    obtain ⟨v, w, rfl, hv⟩ := Binary64.exists_of_isAdmissible ht
    obtain ⟨v', w', rfl, hv'⟩ := Binary64.exists_of_isAdmissible ht'
    rw [Binary64.le_iff_place rfl rfl, Binary64.place_of_sign hu, Binary64.place_of_sign hu',
      Nat.cast_le] at hrelative
    rw [Binary64.le_iff_place rfl rfl, Binary64.place_of_sign hv, Binary64.place_of_sign hv',
      Nat.cast_le] at habsolute
    rw [isClose_iff_ranks hu hv] at h
    rw [isClose_iff_ranks hu' hv']
    refine h.trans (max_le_max (Binary64.capped_mono ?_) habsolute)
    refine Binary64.nearestRank_mono Binary64.unitsPerOne_pos (Nat.mul_le_mul_right _ ?_)
    exact Binary64.units_strictMono.monotone hrelative
  · rw [isClose_of_not_finite hfinite] at h ⊢
    exact h

namespace Value

/-- What is accepted with some tolerances is accepted with all larger ones. -/
theorem larger_tolerances_keep_acceptance (expected : Value) (output : Option String)
    {relative absolute relative' absolute' : Binary64}
    (hr : Case.isAdmissible relative = true) (ha : Case.isAdmissible absolute = true)
    (hr' : Case.isAdmissible relative' = true) (ha' : Case.isAdmissible absolute' = true)
    (hrelative : Binary64.le relative relative' = true)
    (habsolute : Binary64.le absolute absolute' = true)
    (h : expected.judges ⟨some relative, some absolute⟩ output = true) :
    expected.judges ⟨some relative', some absolute'⟩ output = true := by
  cases output with
  | none => cases h
  | some output =>
    rw [judges, accepts] at h ⊢
    cases htruth : expected.truth? with
    | some b => simpa [acceptsTrimmed, htruth] using h
    | none =>
      cases hnumber : expected.number? with
      | none => simpa [acceptsTrimmed, htruth, hnumber] using h
      | some x =>
        rw [acceptsTrimmed_number htruth hnumber, Option.any_eq_true] at h ⊢
        obtain ⟨g, hread, hclose⟩ := h
        exact ⟨g, hread, isClose_of_looser hr hr' ha ha' hrelative habsolute hclose⟩

/-- A share that is rounded to infinity accepts what half of the larger number accepts. -/
theorem infinite_share_keeps_acceptance :
    let half := Binary64.ofDecimal false ⟨5, -1⟩
    let huge := Binary64.ofDecimal false ⟨1, 300⟩
    Case.isAdmissible half = true ∧ Case.isAdmissible huge = true ∧
      Binary64.le half huge = true ∧
      (text "1e300").judges ⟨some half, some (Binary64.zero false)⟩ (some "1.5e300\n") = true ∧
      (text "1e300").judges ⟨some huge, some (Binary64.zero true)⟩ (some "1.5e300\n") = true := by
  intro half huge
  have hhalf : Case.isAdmissible half = true := by decide +kernel
  have hhuge : Case.isAdmissible huge = true := by decide +kernel
  have hle : Binary64.le half huge = true := by decide +kernel
  have haccepts : (text "1e300").judges ⟨some half, some (Binary64.zero false)⟩
      (some "1.5e300\n") = true := by decide +kernel
  exact ⟨hhalf, hhuge, hle, haccepts, larger_tolerances_keep_acceptance _ _ hhalf (by decide)
    hhuge (by decide) hle (by decide) haccepts⟩

end Value

/-! ## Either order of the numbers -/

namespace Binary64

theorem gap_comm (s t : Bool) (a b : Nat) : gap s t a b = gap t s b a := by
  unfold gap
  omega

/-- A difference and its opposite are rounded to one magnitude, or to none. -/
theorem abs_sub_swap (a b : Binary64) : (sub a b).abs = (sub b a).abs := by
  cases a with
  | nan => cases b <;> rfl
  | inf s =>
    cases b with
    | nan => rfl
    | inf t => cases s <;> cases t <;> rfl
    | finite t q => rfl
  | finite s r =>
    cases b with
    | nan => rfl
    | inf t => rfl
    | finite t q => rw [abs_sub_finite, abs_sub_finite, gap_comm]

/-- Magnitudes are told apart by their places, since the two zeros have one magnitude. -/
theorem abs_eq_of_place {a b : Binary64} (ha : a.isNan = false) (hb : b.isNan = false)
    (h : a.abs.place = b.abs.place) : a.abs = b.abs := by
  cases a with
  | nan => cases ha
  | inf s =>
    cases b with
    | nan => cases hb
    | inf t => rfl
    | finite t q => exact absurd (Int.ofNat.inj h) q.isLt.ne'
  | finite s r =>
    cases b with
    | nan => cases hb
    | inf t => exact absurd (Int.ofNat.inj h) r.isLt.ne
    | finite t q => exact congrArg (finite false) (Fin.ext (Int.ofNat.inj h))

theorem max_abs_swap (a b : Binary64) : max a.abs b.abs = max b.abs a.abs := by
  have hnan (x : Binary64) : x.abs.isNan = x.isNan := by cases x <;> rfl
  unfold max le
  cases ha : a.isNan <;> cases hb : b.isNan <;> simp only [hnan, ha, hb]
  · by_cases hab : a.abs.place ≤ b.abs.place
    · by_cases hba : b.abs.place ≤ a.abs.place
      · have heq := abs_eq_of_place ha hb (Int.le_antisymm hab hba)
        simp [heq]
      · simp [hab, hba]
    · have hba : b.abs.place ≤ a.abs.place := by omega
      simp [hab, hba]
  -- A NaN gives way to the other magnitude on either side.
  · simp
  · simp
  · cases a <;> cases b <;> cases ha <;> cases hb
    simp

end Binary64

/-- Closeness looks at two numbers in no order, whatever they and the tolerances are. -/
theorem closeness_has_no_direction (a b relative absolute : Binary64) :
    isClose a b relative absolute = isClose b a relative absolute := by
  unfold isClose
  rw [Binary64.equal_comm a b, Bool.or_comm (!a.isFinite), Binary64.max_abs_swap a b,
    Binary64.abs_sub_swap a b]

end Assay
