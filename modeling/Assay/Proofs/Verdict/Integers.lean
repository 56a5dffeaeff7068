import Assay.Proofs.Binary64.Range
import Assay.Proofs.Verdict.Echo

/-!
# Verdicts on whole numbers

Where no tolerance is allowed, closeness is equality of numbers. A whole number
of a machine word is read as the nearest number of 53 binary digits, so two of
them are told apart exactly when they are not rounded to the same one: always
where one of them has no more than those digits, and not always beyond.
-/

set_option autoImplicit false

namespace Assay

theorem divHalfEven_mul_mul (num den : Nat) {unit : Nat} (hunit : 0 < unit) :
    divHalfEven (num * unit) (den * unit) = divHalfEven num den := by
  have hlow : 2 * (num % den * unit) < den * unit ↔ 2 * (num % den) < den := by
    rw [← Nat.mul_assoc, Nat.mul_lt_mul_right hunit]
  have hhigh : den * unit < 2 * (num % den * unit) ↔ den < 2 * (num % den) := by
    rw [← Nat.mul_assoc, Nat.mul_lt_mul_right hunit]
  simp only [divHalfEven, Nat.mul_div_mul_right _ _ hunit, Nat.mul_mod_mul_right, hlow, hhigh]

theorem divHalfEven_mul_self (n : Nat) {den : Nat} (hden : 0 < den) :
    divHalfEven (n * den) den = n := by
  simp [divHalfEven, Nat.mul_div_cancel _ hden, hden]

namespace Binary64

/-! ## Whole numbers -/

/-- The nearest whole number of at most 53 binary digits and zeros behind them. Of two that
are equally near it is the one with the even digits. -/
def nearestWhole (n : Nat) : Nat :=
  let step := 2 ^ (n.log2 - 52)
  divHalfEven n step * step

theorem nearestWhole_of_lt {n : Nat} (h : n < 2 ^ 53) : nearestWhole n = n := by
  have hstep : 2 ^ (n.log2 - 52) = 1 := by
    rcases Nat.eq_zero_or_pos n with rfl | hpos
    · rfl
    · have hlog := (Nat.log2_lt hpos.ne').mpr h
      rw [Nat.sub_eq_zero_of_le (by omega), Nat.pow_zero]
  have hself := divHalfEven_mul_self n Nat.one_pos
  rw [Nat.mul_one] at hself
  rw [nearestWhole, hstep, hself, Nat.mul_one]

theorem le_nearestWhole {n : Nat} (h : 2 ^ 53 ≤ n) : 2 ^ 53 ≤ nearestWhole n := by
  have hlog : 53 ≤ n.log2 := (Nat.le_log2 (by omega)).mpr h
  obtain ⟨k, hk⟩ : ∃ k, n.log2 - 52 = k + 1 := ⟨n.log2 - 53, by omega⟩
  have hbounds := significand_bounds n Nat.one_pos (by rw [Nat.div_one, hk])
  rw [Nat.one_mul] at hbounds
  have hdigits : 2 ^ 52 ≤ divHalfEven n (2 ^ (k + 1)) := by
    rcases hbounds.2 with hzero | ⟨-, hdigits⟩
    · omega
    · exact hdigits
  calc 2 ^ 53
    _ ≤ 2 ^ 52 * 2 ^ (k + 1) := by
      rw [← pow_add]
      exact Nat.pow_le_pow_right Nat.two_pos (by omega)
    _ ≤ nearestWhole n := by
      rw [nearestWhole, hk]
      exact Nat.mul_le_mul_right _ hdigits

theorem nearestWhole_eq_iff {m n : Nat} (hm : m < 2 ^ 53) :
    nearestWhole m = nearestWhole n ↔ m = n := by
  rw [nearestWhole_of_lt hm]
  by_cases hn : n < 2 ^ 53
  · rw [nearestWhole_of_lt hn]
  · have := le_nearestWhole (Nat.le_of_not_lt hn)
    omega

theorem log2_mul_two_pow {n : Nat} (hn : n ≠ 0) (k : Nat) : (n * 2 ^ k).log2 = n.log2 + k := by
  induction k with
  | zero => simp
  | succ k ih =>
    rw [pow_succ, ← Nat.mul_assoc, Nat.mul_comm, Nat.log2_two_mul (by positivity), ih,
      Nat.add_assoc]

theorem units_nearestRank_whole (n : Nat) :
    units (nearestRank (n * unitsPerOne) 1) = nearestWhole n * unitsPerOne := by
  rcases Nat.eq_zero_or_pos n with rfl | hpos
  · rw [Nat.zero_mul, nearestRank_zero Nat.one_pos, nearestWhole_of_lt (Nat.two_pow_pos 53),
      units_zero, Nat.zero_mul]
  · have hscale : (n * unitsPerOne / 1).log2 - 52 = n.log2 + 1022 := by
      rw [Nat.div_one, unitsPerOne_eq, log2_mul_two_pow hpos.ne']
      omega
    rw [units_nearestRank _ Nat.one_pos hscale, Nat.one_mul, unitsPerOne_eq]
    by_cases hlog : 52 ≤ n.log2
    · obtain ⟨k, hk⟩ := Nat.exists_eq_add_of_le' hlog
      have hstep : 2 ^ (n.log2 + 1022) = 2 ^ k * 2 ^ 1074 := by rw [hk, ← pow_add]
      rw [hstep, divHalfEven_mul_mul _ _ (by positivity), nearestWhole, hk, Nat.add_sub_cancel,
        Nat.mul_assoc]
    · -- The step of the scale divides one, so nothing is rounded.
      have hsmall : n < 2 ^ 53 := (Nat.log2_lt hpos.ne').mp (by omega)
      obtain ⟨k, hk⟩ := Nat.exists_eq_add_of_le (show n.log2 + 1022 ≤ 1074 by omega)
      have hsplit : n * 2 ^ 1074 = n * 2 ^ k * 2 ^ (n.log2 + 1022) := by
        rw [Nat.mul_assoc, ← pow_add, hk, Nat.add_comm]
      rw [nearestWhole_of_lt hsmall, hsplit, divHalfEven_mul_self _ (by positivity)]

def nearestInt (z : Int) : Int :=
  if z < 0 then -(nearestWhole z.natAbs : Int) else nearestWhole z.natAbs

theorem nearestRank_whole_eq_iff (m n : Nat) :
    nearestRank (m * unitsPerOne) 1 = nearestRank (n * unitsPerOne) 1 ↔
      nearestWhole m = nearestWhole n := by
  rw [← units_strictMono.injective.eq_iff, units_nearestRank_whole, units_nearestRank_whole,
    Nat.mul_left_inj unitsPerOne_pos.ne']

theorem place_ofInt {z : Int} (h : z.natAbs ≤ 2 ^ 64) :
    (ofInt z).place = if z < 0 then -(nearestRank (z.natAbs * unitsPerOne) 1 : Int)
      else nearestRank (z.natAbs * unitsPerOne) 1 := by
  rw [ofInt, ofRatio, ofRank, dif_pos (nearestRank_word_lt h), place]
  simp

theorem equal_iff_of_finite {x y : Binary64} (hx : x.isFinite = true) (hy : y.isFinite = true) :
    equal x y = true ↔ x.place = y.place := by
  cases x <;> cases y <;> simp_all [isFinite, equal, isNan]

/-- Numbers of a machine word are read as equal ones exactly when they are rounded to the
same whole number. -/
theorem equal_ofInt_iff {a b : Int} (ha : a.natAbs ≤ 2 ^ 64) (hb : b.natAbs ≤ 2 ^ 64) :
    equal (ofInt a) (ofInt b) = true ↔ nearestInt a = nearestInt b := by
  have hsame := nearestRank_whole_eq_iff a.natAbs b.natAbs
  have hzero := nearestRank_whole_eq_iff a.natAbs 0
  have hzero' := nearestRank_whole_eq_iff b.natAbs 0
  have hwhole : nearestWhole 0 = 0 := nearestWhole_of_lt (Nat.two_pow_pos 53)
  rw [Nat.zero_mul, nearestRank_zero Nat.one_pos, hwhole] at hzero hzero'
  rw [equal_iff_of_finite (isFinite_ofInt ha) (isFinite_ofInt hb), place_ofInt ha, place_ofInt hb,
    nearestInt, nearestInt]
  generalize nearestRank (a.natAbs * unitsPerOne) 1 = r at *
  generalize nearestRank (b.natAbs * unitsPerOne) 1 = s at *
  -- Numbers of two signs are equal only where both are zero.
  split_ifs <;> omega

theorem nearestInt_eq_iff {a : Int} (h : a.natAbs < 2 ^ 53) (b : Int) :
    nearestInt a = nearestInt b ↔ a = b := by
  have hsame := nearestWhole_eq_iff (n := b.natAbs) h
  have hzero := nearestWhole_eq_iff (n := a.natAbs) (Nat.two_pow_pos 53)
  have hzero' := nearestWhole_eq_iff (n := b.natAbs) (Nat.two_pow_pos 53)
  rw [nearestWhole_of_lt (Nat.two_pow_pos 53)] at hzero hzero'
  unfold nearestInt
  split_ifs <;> omega

/-! ## Closeness without tolerance -/

theorem mul_zero_finite (s t : Bool) (r : Fin rankCount) :
    mul (zero s) (.finite t r) = zero (s != t) := by
  simp [zero, mul, units_zero, ofRatio, nearestRank_zero unitsPerOne_pos, ofRank, rankCount_pos]

theorem signedUnits_not (t : Bool) (r : Nat) : signedUnits (!t) r = -signedUnits t r := by
  cases t <;> simp [signedUnits]

theorem units_eq_zero_iff (rank : Nat) : units rank = 0 ↔ rank = 0 :=
  ⟨fun h => units_strictMono.injective (h.trans units_zero.symm), fun h => h ▸ units_zero⟩

theorem signedUnits_eq_iff (s t : Bool) (a b : Fin rankCount) :
    signedUnits s a = signedUnits t b ↔ (finite s a).place = (finite t b).place := by
  have hsame : units a = units b ↔ a.val = b.val := units_strictMono.injective.eq_iff
  have hzero := units_eq_zero_iff a
  have hzero' := units_eq_zero_iff b
  cases s <;> cases t <;> simp only [signedUnits, place] <;> simp <;> omega

theorem nearestRank_pos {num : Nat} (h : 0 < num) : 0 < nearestRank num 1 := by
  refine Nat.pos_of_ne_zero fun hzero => ?_
  have hupper := ((nearestRank_eq_iff 0 num Nat.one_pos).mp hzero).upper
  have hend : upperEnd 0 = 1 := by decide
  omega

theorem place_abs_ofRank_pos (negative : Bool) {rank : Nat} (h : 0 < rank) :
    0 < (ofRank negative rank).abs.place := by
  unfold ofRank
  split
  · simpa [abs, place] using h
  · simpa [abs, place] using rankCount_pos

theorem le_abs_sub_zero_iff (s t u : Bool) (a b : Fin rankCount) :
    le (sub (.finite s a) (.finite t b)).abs (zero u) = true ↔
      equal (.finite s a) (.finite t b) = true := by
  rw [equal_iff_of_finite rfl rfl, ← signedUnits_eq_iff, sub, neg, add, signedUnits_not]
  split_ifs with hz
  · simp only [le, abs, zero, isNan, place]
    simp
    omega
  · have hpos := place_abs_ofRank_pos (decide (signedUnits s a + -signedUnits t b < 0))
      (nearestRank_pos (Int.natAbs_pos.mpr hz))
    rw [← ofRatio] at hpos
    simp only [le, place_zero, decide_eq_false (Int.not_le.mpr hpos), Bool.and_false]
    simp
    omega

theorem max_eq_or (x y : Binary64) : max x y = x ∨ max x y = y := by
  unfold max
  split_ifs <;> simp

theorem bound_without_tolerance (s t u v : Bool) (a b : Fin rankCount) :
    ∃ w, max (mul (zero s) (max (.finite u a) (.finite v b))) (zero t) = zero w := by
  obtain ⟨x, hx⟩ : ∃ x, mul (zero s) (max (.finite u a) (.finite v b)) = zero x := by
    rcases max_eq_or (.finite u a) (.finite v b) with h | h
    · exact ⟨_, by rw [h, mul_zero_finite]⟩
    · exact ⟨_, by rw [h, mul_zero_finite]⟩
  rw [hx]
  rcases max_eq_or (zero x) (zero t) with h | h
  · exact ⟨x, h⟩
  · exact ⟨t, h⟩

end Binary64

theorem isClose_without_tolerance (x y : Binary64) (s t : Bool) :
    isClose x y (Binary64.zero s) (Binary64.zero t) = Binary64.equal x y := by
  unfold isClose
  cases hequal : Binary64.equal x y with
  | true => rfl
  | false =>
    cases x with
    | nan => rfl
    | inf _ => rfl
    | finite u a =>
      cases y with
      | nan => rfl
      | inf _ => rfl
      | finite v b =>
        obtain ⟨w, hw⟩ := Binary64.bound_without_tolerance s t false false a b
        have hle := Binary64.le_abs_sub_zero_iff u v w a b
        rw [hequal, ← hw] at hle
        exact Bool.eq_false_iff.mpr fun hclose => Bool.false_ne_true (hle.mp hclose)

namespace Value

/-- Where nothing is tolerated, a whole number accepts the text of another one exactly when
both are rounded to the same number of 53 binary digits. So it accepts only itself where
one of the two has no more than those digits. -/
theorem integers_are_judged_as_rounded (i j : Int64) :
    let exact : Tolerance := ⟨some (Binary64.zero false), some (Binary64.zero false)⟩
    ((integer i).judges exact (some (integer j).toText) = true ↔
      Binary64.nearestInt i.toInt = Binary64.nearestInt j.toInt) ∧
    (i.toInt.natAbs < 2 ^ 53 ∨ j.toInt.natAbs < 2 ^ 53 →
      ((integer i).judges exact (some (integer j).toText) = true ↔ i = j)) := by
  intro exact
  have hword (k : Int64) : k.toInt.natAbs ≤ 2 ^ 64 := by
    have := k.le_toInt
    have := k.toInt_lt
    omega
  have hjudges : (integer i).judges exact (some (integer j).toText) = true ↔
      Binary64.nearestInt i.toInt = Binary64.nearestInt j.toInt := by
    rw [judges, accepts, acceptsTrimmed_number rfl rfl, ofText?_toText rfl, Option.any_some]
    change isClose _ _ (Binary64.zero false) (Binary64.zero false) = true ↔ _
    rw [isClose_without_tolerance, Binary64.equal_comm,
      Binary64.equal_ofInt_iff (hword i) (hword j)]
  refine ⟨hjudges, ?_⟩
  rw [hjudges, ← Int64.toInt_inj]
  rintro (hi | hj)
  · exact Binary64.nearestInt_eq_iff hi j.toInt
  · rw [eq_comm, Binary64.nearestInt_eq_iff hj i.toInt, eq_comm]

/-- One more than the bound is read as the bound, which then accepts it. -/
theorem neighbour_beyond_bound_is_accepted :
    ¬ ((integer 9007199254740992).judges
        ⟨some (Binary64.zero false), some (Binary64.zero false)⟩
        (some (integer 9007199254740993).toText) = true ↔
      (9007199254740992 : Int64) = 9007199254740993) := by
  decide +kernel

/-- The last number below the bound does not accept the bound. -/
theorem last_exact_integer_stands_alone :
    let i : Int64 := 9007199254740991
    let j : Int64 := 9007199254740992
    (i.toInt.natAbs < 2 ^ 53 ∨ j.toInt.natAbs < 2 ^ 53) ∧
      ((integer i).judges ⟨some (Binary64.zero false), some (Binary64.zero false)⟩
        (some (integer j).toText) = true ↔ i = j) := by
  intro i j
  have hbound : i.toInt.natAbs < 2 ^ 53 ∨ j.toInt.natAbs < 2 ^ 53 := .inl (by decide)
  exact ⟨hbound, (integers_are_judged_as_rounded i j).2 hbound⟩

end Value

end Assay
