import Mathlib.Algebra.GroupWithZero.Nat
import Assay.Proofs.Json.Scan

/-!
# What numerals stand for

A numeral stands for a coefficient times a power of ten. Whoever reads its text
as a number, with or without JSON around it, comes upon that decimal. The digits
that are written for a whole number stand for it, and lead with a zero only
where it is zero.
-/

set_option autoImplicit false

namespace Assay

open Decimal (AllDigits)

/-! ## Digits -/

theorem digitsFrom_eq (start : Nat) (cs : List Char) :
    digitsFrom start cs = Nat.ofDigitChars 10 cs start :=
  Nat.ofDigitChars_eq_foldl.symm

theorem digitsValue_decimalDigits (n : Nat) : digitsValue (decimalDigits n) = n := by
  rw [digitsValue, digitsFrom_eq]
  exact Nat.ofDigitChars_ten_toDigits

theorem digitsValue_append_zeros (cs : List Char) (k : Nat) :
    digitsValue (cs ++ List.replicate k '0') = digitsValue cs * 10 ^ k := by
  rw [digitsValue, digitsValue, digitsFrom_eq, digitsFrom_eq, Nat.ofDigitChars_append,
    Nat.ofDigitChars_replicate_zero, Nat.mul_comm]

theorem digitsValue_zeros_append (k : Nat) (cs : List Char) :
    digitsValue (List.replicate k '0' ++ cs) = digitsValue cs := by
  rw [digitsValue, digitsValue, digitsFrom_eq, digitsFrom_eq, Nat.ofDigitChars_append,
    Nat.ofDigitChars_replicate_zero, Nat.mul_zero]

theorem decimalDigits_head_ne_zero {n : Nat} (h : 0 < n) :
    (decimalDigits n).head? ≠ some '0' := by
  induction n using Nat.strongRecOn with
  | ind n ih =>
    unfold decimalDigits at ih ⊢
    by_cases hlt : n < 10
    · have hdigit : ∀ d < 10, 0 < d → Nat.digitChar d ≠ '0' := by decide
      simpa [Nat.toDigits_of_lt_base hlt] using hdigit n hlt h
    · rw [Nat.toDigits_of_base_le (by decide) (by omega),
        List.head?_append]
      have hhead := ih (n / 10) (by omega) (by omega)
      have hne : Nat.toDigits 10 (n / 10) ≠ [] := Nat.toDigits_ne_nil
      obtain ⟨d, ds, hds⟩ := List.exists_cons_of_ne_nil hne
      rw [hds] at hhead ⊢
      exact hhead

theorem decimalDigits_eq_of_head {n : Nat} (h : (decimalDigits n).head? = some '0') :
    decimalDigits n = ['0'] := by
  rcases Nat.eq_zero_or_pos n with rfl | hpos
  · rfl
  · exact absurd h (decimalDigits_head_ne_zero hpos)

namespace Json

def Exponent.value (e : Exponent) : Int :=
  if e.negative then -(digitsValue e.digits : Int) else digitsValue e.digits

namespace Numeral

/-- Power of ten that is written behind a numeral. -/
def power (n : Numeral) : Int := n.exponent.elim 0 Exponent.value

def decimal (n : Numeral) : Decimal :=
  ⟨digitsValue (n.whole ++ n.fraction), n.power - n.fraction.length⟩

def nearest (n : Numeral) : Binary64 := Binary64.ofDecimal n.negative n.decimal

structure IsWhole (n : Numeral) (z : Int) : Prop where
  fraction : n.fraction = []
  exponent : n.exponent = none
  value : (if n.negative then -(digitsValue n.whole : Int) else digitsValue n.whole) = z

end Numeral

/-! ## Texts of numerals -/

variable {negative : Bool} {cs rest : List Char} {n : Numeral}

theorem FractionAt.append {fraction : List Char} (h : FractionAt cs fraction rest)
    (more : List Char) : FractionAt (cs ++ more) fraction (rest ++ more) := by
  cases h with
  | absent => exact .absent _
  | digits rest hd hne =>
    simpa using FractionAt.digits (rest ++ more) hd hne

theorem ExponentAt.append {exponent : Option Exponent} (h : ExponentAt cs exponent rest)
    (more : List Char) : ExponentAt (cs ++ more) exponent (rest ++ more) := by
  cases h with
  | absent => exact .absent _
  | marked rest hmark hsign hd hne =>
    simpa using ExponentAt.marked (rest ++ more) hmark hsign hd hne

theorem NumeralAt.append (h : NumeralAt negative cs n rest) (more : List Char) :
    NumeralAt negative (cs ++ more) n (rest ++ more) := by
  cases h with
  | intro hd hne hzero hfraction hexponent =>
    rw [List.append_assoc]
    exact .intro hd hne hzero (hfraction.append more) (hexponent.append more)

theorem NumeralAt.negative_eq (h : NumeralAt negative cs n rest) : n.negative = negative := by
  cases h
  rfl

theorem exponentOf?_of_at {exponent : Option Exponent} (h : ExponentAt cs exponent []) :
    Decimal.exponentOf? cs = some (exponent.elim 0 Exponent.value) := by
  cases h with
  | absent => rfl
  | marked rest hmark hsign hd hne =>
    have hspan := spanSign_of_sign hsign [] hd hne
    rw [List.append_nil] at hspan
    simp [Decimal.exponentOf?, Exponent.value, hmark, hspan, Decimal.spanDigits_self _ hd, hne]

theorem ofText?_of_numeralAt (h : NumeralAt negative cs n []) :
    Decimal.ofText? cs = some n.decimal := by
  cases h with
  | @intro whole fraction after mid _ exponent hd hne hzero hfraction hexponent =>
    have hpower := exponentOf?_of_at hexponent
    have hmid := hexponent.head stops_nil
    have hafter := hfraction.head_not_digit fun c hc => (hmid c hc).1
    have hwhole := Decimal.spanDigits_append _ _ hd hafter
    cases hfraction with
    | absent =>
      have hpoint (more : List Char) : after ≠ '.' :: more := by
        rintro rfl
        exact (hmid '.' rfl).2 rfl
      simp [Decimal.ofText?, hwhole, hne, hpower, Numeral.decimal, Numeral.power]
    | digits mid hdigits hsome =>
      have hspan := Decimal.spanDigits_append _ _ hdigits fun c hc => (hmid c hc).1
      simp [Decimal.ofText?, hwhole, hspan, hne, hpower, Numeral.decimal, Numeral.power]

end Json

namespace Binary64

open Json

theorem toLower_of_isDigit {c : Char} (h : c.isDigit = true) : c.toLower = c := by
  simp only [Char.isDigit, Bool.and_eq_true, decide_eq_true_eq] at h
  unfold Char.toLower
  rw [dif_neg]
  rintro ⟨hletter, -⟩
  exact absurd (UInt32.le_trans hletter h.2) (by decide)

theorem foldCase_ne {c : Char} {tail : List Char} {word : String} (hc : c.isDigit = true)
    (hword : word.toList.head?.any Char.isDigit = false) :
    String.ofList (foldCase (c :: tail)) ≠ word := by
  rintro rfl
  rw [String.toList_ofList, foldCase, List.map_cons, List.head?_cons, Option.any_some,
    toLower_of_isDigit hc, hc] at hword
  cases hword

theorem ofText?_of_numeralAt {negative : Bool} {cs : List Char} {n : Json.Numeral}
    (h : NumeralAt negative cs n []) :
    ofText? ((if negative then ['-'] else []) ++ cs) = some n.nearest := by
  have hread := Json.ofText?_of_numeralAt h
  obtain ⟨c, tail, rfl, hc⟩ := h.starts_with_digit
  have hsign : Decimal.spanSign ((if negative then ['-'] else []) ++ c :: tail) =
      (negative, c :: tail) := by
    cases negative with
    | true => rfl
    | false => exact Decimal.spanSign_append [c] tail (by simpa [AllDigits] using hc) (by simp)
  have hinf : String.ofList (foldCase (c :: tail)) ≠ "inf" := foldCase_ne hc (by decide)
  have hinfinity : String.ofList (foldCase (c :: tail)) ≠ "infinity" := foldCase_ne hc (by decide)
  have hnan : String.ofList (foldCase (c :: tail)) ≠ "nan" := foldCase_ne hc (by decide)
  unfold ofText?
  simp only [hsign, hread]
  rw [if_neg (not_or.mpr ⟨hinf, hinfinity⟩), if_neg hnan, Json.Numeral.nearest, h.negative_eq]
  rfl

end Binary64

end Assay
