import Assay.Proofs.Binary64.Shortest
import Assay.Proofs.Json.Numeral

/-!
# Written numbers lead back

What a layout writes for a finite number is a numeral behind a sign, and stands
for the decimal that was laid out. As that decimal is the shortest one in the
cell of the number, whoever reads the numeral comes back to the number. A whole
number is read as the number nearest to it.
-/

set_option autoImplicit false

namespace Assay

open Decimal (AllDigits allDigits_zero)
open Json (Numeral NumeralAt FractionAt ExponentAt)

namespace Layout

/-- A layout whose numerals are numerals wherever they stand, and tell that they are no
integers: whole numbers keep a point, and no sign of an exponent but plus is added. -/
structure Marked (l : Layout) : Prop where
  mark : l.wholeMark = ".0"
  plus : l.exponentPlus = "" ∨ l.exponentPlus = "+"

theorem text_marked : text.Marked := ⟨rfl, .inl rfl⟩

theorem json_marked : json.Marked := ⟨rfl, .inr rfl⟩

/-- A text of a numeral that stands for a decimal, and that is not spelled as an integer. Where
it has an exponent it does not start with a zero. -/
def Spells (negative : Bool) (cs : List Char) (d : Decimal) : Prop :=
  ∃ n, NumeralAt negative cs n [] ∧ n.decimal.Same d ∧
    (n.fraction ≠ [] ∨ n.exponent ≠ none) ∧ (n.exponent = none ∨ 0 < digitsValue n.whole)

section Magnitude

variable (negative : Bool) {d : Decimal}

/-- Digits on either side of a point stand for all of them, scaled by those behind it. -/
theorem pointed_spells {whole fraction : List Char} (hd : AllDigits whole) (hne : whole ≠ [])
    (hzero : whole.head? = some '0' → whole = ['0']) (hfraction : AllDigits fraction)
    (hsome : fraction ≠ [])
    (hsame : Decimal.Same ⟨digitsValue (whole ++ fraction), -fraction.length⟩ d) :
    Spells negative (whole ++ '.' :: fraction) d := by
  have h := FractionAt.digits [] hfraction hsome
  rw [List.append_nil] at h
  refine ⟨⟨negative, whole, fraction, none⟩, .intro hd hne hzero h (.absent []), ?_, .inl hsome,
    .inl rfl⟩
  simpa [Numeral.decimal, Numeral.power] using hsame

theorem allDigits_replicate (k : Nat) : AllDigits (List.replicate k '0') := by
  have h := Decimal.allDigits_zeros k
  rwa [zeros, String.toList_ofList] at h

/-- Digits of the coefficient of a decimal, of which the first is no zero. -/
structure Leads (digits : List Char) (d : Decimal) : Prop where
  all : AllDigits digits
  ne_nil : digits ≠ []
  head : digits.head? ≠ some '0'
  value : digitsValue digits = d.coefficient

theorem leads_decimalDigits (hpos : 0 < d.coefficient) : Leads (decimalDigits d.coefficient) d :=
  ⟨Decimal.allDigits_decimalDigits _, Decimal.decimalDigits_ne_nil _,
    decimalDigits_head_ne_zero hpos, digitsValue_decimalDigits _⟩

theorem digitValue_pos {c : Char} (h : c.isDigit = true) (hne : c ≠ '0') : 0 < digitValue c := by
  simp only [Char.isDigit, Bool.and_eq_true, decide_eq_true_eq] at h
  have hle : '0'.toNat ≤ c.toNat := h.1
  have hcode : c.toNat ≠ '0'.toNat := fun heq => hne (Char.toNat_inj.mp heq)
  unfold digitValue
  omega

variable {digits : List Char} {point : Int}

theorem front_spells (h : Leads digits d) (hpoint : d.exponent + digits.length = point)
    (hfront : point ≤ 0) :
    Spells negative ('0' :: '.' :: (List.replicate (-point).toNat '0' ++ digits)) d := by
  have hfraction : AllDigits (List.replicate (-point).toNat '0' ++ digits) :=
    (Decimal.allDigits_append _ _).mpr ⟨allDigits_replicate _, h.all⟩
  have hzeros : ['0'] ++ (List.replicate (-point).toNat '0' ++ digits) =
      List.replicate ((-point).toNat + 1) '0' ++ digits := by
    rw [List.replicate_succ]
    rfl
  have hexponent : -((List.replicate (-point).toNat '0' ++ digits).length : Int) =
      d.exponent := by
    rw [List.length_append, List.length_replicate]
    omega
  refine pointed_spells negative allDigits_zero (by simp) (fun _ => rfl) hfraction
    (by simp [h.ne_nil]) ?_
  rw [hzeros, digitsValue_zeros_append, h.value, hexponent]
  rfl

theorem among_spells (h : Leads digits d) (hpoint : d.exponent + digits.length = point)
    (hpos : 0 < point) (hamong : point < digits.length) :
    Spells negative (digits.take point.toNat ++ '.' :: digits.drop point.toNat) d := by
  have htake (c : Char) (hc : c ∈ digits.take point.toNat) : c.isDigit = true :=
    h.all c (List.mem_of_mem_take hc)
  have hdrop (c : Char) (hc : c ∈ digits.drop point.toNat) : c.isDigit = true :=
    h.all c (List.mem_of_mem_drop hc)
  have hhead : (digits.take point.toNat).head? = digits.head? := by
    rw [List.head?_take, if_neg (by omega)]
  have hexponent : -((digits.drop point.toNat).length : Int) = d.exponent := by
    rw [List.length_drop]
    omega
  refine pointed_spells negative htake ?_ ?_ hdrop ?_ ?_
  · simp only [ne_eq, List.take_eq_nil_iff, not_or]
    exact ⟨by omega, h.ne_nil⟩
  · intro hzero
    exact absurd (hhead.symm.trans hzero) h.head
  · simp only [ne_eq, List.drop_eq_nil_iff]
    omega
  · rw [List.take_append_drop, h.value, hexponent]
    rfl

theorem behind_spells (h : Leads digits d) (hpoint : d.exponent + digits.length = point)
    (hbehind : digits.length ≤ point) :
    Spells negative (digits ++ List.replicate (point.toNat - digits.length) '0' ++ ['.', '0'])
      d := by
  have hwhole : AllDigits (digits ++ List.replicate (point.toNat - digits.length) '0') :=
    (Decimal.allDigits_append _ _).mpr ⟨h.all, allDigits_replicate _⟩
  have hzeros : digits ++ List.replicate (point.toNat - digits.length) '0' ++ ['0'] =
      digits ++ List.replicate (d.exponent.toNat + 1) '0' := by
    have hcount : point.toNat - digits.length = d.exponent.toNat := by omega
    rw [hcount, List.replicate_succ', List.append_assoc]
  refine pointed_spells negative hwhole (by simp [h.ne_nil]) ?_ allDigits_zero (by simp) ?_
  · intro hzero
    obtain ⟨first, more, rfl⟩ := List.exists_cons_of_ne_nil h.ne_nil
    exact absurd hzero h.head
  · have hscale : Decimal.den ⟨d.coefficient * 10 ^ (d.exponent.toNat + 1), -1⟩ = 10 := rfl
    have hnum : d.num = d.coefficient * 10 ^ d.exponent.toNat := rfl
    rw [hzeros, digitsValue_append_zeros, h.value, Decimal.Same, Decimal.num_of_nonpos (by simp),
      Decimal.den_of_nonneg (d := d) (by omega)]
    change _ = d.num * Decimal.den ⟨_, -1⟩
    rw [hscale, hnum]
    ring

theorem positional_spells (h : Leads digits d) :
    Spells negative (positional ".0" digits (d.exponent + digits.length)).toList d := by
  unfold positional
  split_ifs with hfront hamong
  · simpa [zeros] using front_spells negative h rfl hfront
  · simpa using among_spells negative h rfl (by omega) hamong
  · simpa [zeros] using behind_spells negative h rfl (by omega)

theorem scientific_spells {plus : String} (hplus : plus = "" ∨ plus = "+") (h : Leads digits d) :
    Spells negative (scientific plus digits (d.exponent + digits.length - 1)).toList d := by
  obtain ⟨first, more, rfl⟩ := List.exists_cons_of_ne_nil h.ne_nil
  have hfirst : AllDigits [first] := fun c hc => h.all c (by simp_all)
  have hmore : AllDigits more := fun c hc => h.all c (by simp_all)
  have hlead : [first].head? = some '0' → [first] = ['0'] := by simp
  have hpositive : 0 < digitsValue [first] := by
    have hne : first ≠ '0' := by simpa using h.head
    simpa [digitsValue, digitsFrom] using digitValue_pos (h.all first (List.mem_cons_self ..)) hne
  generalize hexponent : d.exponent + (first :: more).length - 1 = exponent
  have hexponentAt : ExponentAt ('e' :: ((if exponent < 0 then "-" else plus).toList ++
      decimalDigits exponent.natAbs))
      (some ⟨decide (exponent < 0), decimalDigits exponent.natAbs⟩) [] := by
    have hsign : ((if exponent < 0 then "-" else plus).toList, decide (exponent < 0)) ∈
        Json.signs := by
      by_cases hneg : exponent < 0
      · simp [hneg, Json.signs]
      · rcases hplus with rfl | rfl <;> simp [hneg, Json.signs]
    have hat := ExponentAt.marked [] (.inl rfl) hsign
      (Decimal.allDigits_decimalDigits exponent.natAbs) (Decimal.decimalDigits_ne_nil _)
    rwa [List.append_nil] at hat
  have hvalue : (if decide (exponent < 0) then -(exponent.natAbs : Int) else exponent.natAbs) =
      exponent := by
    by_cases hneg : exponent < 0
    · rw [if_pos (decide_eq_true hneg)]
      omega
    · rw [if_neg (by simp [hneg])]
      omega
  refine ⟨⟨negative, [first], more, some ⟨decide (exponent < 0), decimalDigits exponent.natAbs⟩⟩,
    ?_, ?_, .inr (by simp), .inr hpositive⟩
  · cases more with
    | nil =>
      have hat : NumeralAt negative _ _ [] :=
        .intro hfirst (by simp) hlead (.absent _) hexponentAt
      simpa [scientific] using hat
    | cons second more =>
      have hat : NumeralAt negative _ _ [] :=
        .intro hfirst (by simp) hlead (.digits _ hmore (by simp)) hexponentAt
      simpa [scientific] using hat
  · have hdecimal : Numeral.decimal
        ⟨negative, [first], more, some ⟨decide (exponent < 0), decimalDigits exponent.natAbs⟩⟩ =
          d := by
      rw [Numeral.decimal, Numeral.power]
      simp only [Option.elim_some, Json.Exponent.value, digitsValue_decimalDigits, hvalue]
      rw [List.singleton_append, h.value]
      have hpower : exponent - more.length = d.exponent := by
        rw [List.length_cons] at hexponent
        omega
      rw [hpower]
    rw [hdecimal]
    rfl

theorem magnitude_spells {l : Layout} (hl : l.Marked) (d : Decimal) :
    Spells negative (l.magnitude d).toList d := by
  unfold magnitude
  split
  · rename_i hzero
    have hsame : Decimal.Same ⟨digitsValue ['0', '0'], -1⟩ d := by
      have hvalue : digitsValue ['0', '0'] = 0 := rfl
      simp [Decimal.Same, Decimal.num, hzero, hvalue]
    have h := pointed_spells negative allDigits_zero (by simp) (fun _ => rfl) allDigits_zero
      (by simp) hsame
    simpa [hl.mark] using h
  · rename_i hzero
    dsimp only
    have hdigits := leads_decimalDigits (Nat.pos_of_ne_zero hzero)
    split
    · rw [hl.mark]
      exact positional_spells negative hdigits
    · exact scientific_spells negative hl.plus hdigits

end Magnitude

end Layout

namespace Binary64

theorem ofDecimal_zero (negative : Bool) {d : Decimal} (h : d.coefficient = 0) :
    ofDecimal negative d = zero negative := by
  rw [ofDecimal, if_pos h]

theorem nearest_of_same {tie : Tie} {negative : Bool} {rank : Fin rankCount} {n : Numeral}
    (hnegative : n.negative = negative) (hsame : n.decimal.Same (shortest tie rank)) :
    n.nearest = .finite negative rank := by
  rw [Numeral.nearest, hnegative]
  obtain ⟨_ | r, hr⟩ := rank
  -- Zero is written without a search, so its cell says nothing about its decimal.
  · have hzero : n.decimal.coefficient = 0 := by
      have hnum : n.decimal.num * 1 = 0 * n.decimal.den := hsame
      rw [Nat.mul_one, Nat.zero_mul, Decimal.num, Nat.mul_eq_zero] at hnum
      exact hnum.resolve_right (Nat.pow_pos (by decide)).ne'
    rw [ofDecimal, if_pos hzero]
    rfl
  · have hpos : 0 < r + 1 := Nat.succ_pos r
    exact ofDecimal_of_inInterval negative hpos
      (inInterval_of_same hsame.symm (inInterval_shortest tie hpos hr))

/-- A finite number is laid out as a numeral, not spelled as an integer, that is read as
the number again. -/
theorem exists_numeral_render {l : Layout} (hl : l.Marked) (negative : Bool)
    (rank : Fin rankCount) : ∃ cs n, (l.render (.finite negative rank)).toList =
      (if negative then ['-'] else []) ++ cs ∧ NumeralAt negative cs n [] ∧
      (n.fraction ≠ [] ∨ n.exponent ≠ none) ∧ n.nearest = .finite negative rank := by
  obtain ⟨n, hat, hsame, hmarked, -⟩ :=
    Layout.magnitude_spells negative hl (shortest l.tie rank)
  refine ⟨_, n, ?_, hat, hmarked, nearest_of_same hat.negative_eq hsame⟩
  cases negative <;> simp [Layout.render]

theorem ofText?_toText (x : Binary64) : ofText? x.toText.toList = some x := by
  cases x with
  | nan => decide
  | inf s => cases s <;> decide
  | finite s r =>
    obtain ⟨cs, n, htext, hat, -, hnearest⟩ := exists_numeral_render Layout.text_marked s r
    rw [toText, htext, ofText?_of_numeralAt hat, hnearest]

/-! ## Whole numbers -/

theorem decimalDigits_at (negative : Bool) (n : Nat) :
    NumeralAt negative (decimalDigits n) ⟨negative, decimalDigits n, [], none⟩ [] := by
  have hat : NumeralAt negative (decimalDigits n ++ []) _ [] :=
    .intro (Decimal.allDigits_decimalDigits n) (Decimal.decimalDigits_ne_nil n)
      decimalDigits_eq_of_head (.absent []) (.absent [])
  rwa [List.append_nil] at hat

theorem ofInt_eq_ofDecimal (z : Int) : ofInt z = ofDecimal (decide (z < 0)) ⟨z.natAbs, 0⟩ := by
  have hratio : Decimal.num ⟨z.natAbs, 0⟩ = z.natAbs := Decimal.num_of_nonpos (Int.le_refl 0)
  by_cases hzero : z.natAbs = 0
  · have hrank : nearestRank (z.natAbs * unitsPerOne) 1 = 0 := by
      rw [← Nat.le_zero]
      exact nearestRank_le Nat.one_pos (by simp [hzero])
    rw [ofDecimal_zero _ hzero, ofInt, ofRatio, hrank, ofRank, dif_pos rankCount_pos]
    rfl
  · have hlarge : ¬largestPower < 0 := by decide
    have hsmall : ¬(0 : Int) < smallestPower - z.natAbs.log2 := by
      unfold smallestPower
      omega
    rw [ofDecimal, if_neg hzero, if_neg hlarge, if_neg hsmall, hratio]
    rfl

theorem toList_toString (z : Int) : (toString z).toList =
    (if decide (z < 0) then ['-'] else []) ++ decimalDigits z.natAbs := by
  cases z with
  | ofNat n =>
    have hsign : decide (Int.ofNat n < 0) = false := by simp
    rw [toString_ofNat, hsign]
    rfl
  | negSucc n =>
    rw [toString_negSucc, decide_eq_true (Int.negSucc_lt_zero n)]
    rfl

theorem ofText?_toString (z : Int) : ofText? (toString z).toList = some (ofInt z) := by
  have hat := decimalDigits_at (decide (z < 0)) z.natAbs
  rw [toList_toString, ofText?_of_numeralAt hat, Numeral.nearest, Numeral.decimal, Numeral.power,
    ofInt_eq_ofDecimal]
  simp [digitsValue_decimalDigits]

end Binary64

end Assay
