import Mathlib.Data.List.TakeDrop
import Assay.Binary64.Layout
import Assay.Text.Word

/-!
# Written numbers are read

The texts that are read as a number form a grammar: digits around an optional
point, then an optional exponent. What is written for a whole number or for any
other number lies in that grammar or is one of the words, so it is always read
as some number. Nothing is said here about which number that is.
-/

set_option autoImplicit false

namespace Assay

namespace Decimal

def AllDigits (cs : List Char) : Prop := ∀ c ∈ cs, c.isDigit = true

inductive ExponentForm : List Char → Prop where
  | absent : ExponentForm []
  | marked (mark : Char) (sign digits : List Char)
      (hmark : mark = 'e' ∨ mark = 'E')
      (hsign : sign = [] ∨ sign = ['-'] ∨ sign = ['+'])
      (hdigits : AllDigits digits) (hne : digits ≠ []) :
      ExponentForm (mark :: (sign ++ digits))

inductive Numeral : List Char → Prop where
  | whole (digits exponent : List Char) (hdigits : AllDigits digits) (hne : digits ≠ [])
      (hexponent : ExponentForm exponent) : Numeral (digits ++ exponent)
  | pointed (digits fraction exponent : List Char) (hdigits : AllDigits digits)
      (hfraction : AllDigits fraction) (hne : digits ≠ [] ∨ fraction ≠ [])
      (hexponent : ExponentForm exponent) :
      Numeral (digits ++ '.' :: (fraction ++ exponent))

theorem allDigits_zero : AllDigits ['0'] := by
  simp [AllDigits, Char.isDigit]

theorem allDigits_append (ds es : List Char) :
    AllDigits (ds ++ es) ↔ AllDigits ds ∧ AllDigits es := by
  simp only [AllDigits, List.mem_append, or_imp, forall_and]

theorem allDigits_decimalDigits (n : Nat) : AllDigits (decimalDigits n) :=
  fun _ hc => Nat.isDigit_of_mem_toDigits (by decide) (by decide) hc

theorem decimalDigits_ne_nil (n : Nat) : decimalDigits n ≠ [] := Nat.toDigits_ne_nil

theorem allDigits_zeros (n : Nat) : AllDigits (Layout.zeros n).toList := by
  intro c hc
  simp only [Layout.zeros, String.toList_ofList, List.mem_replicate] at hc
  rw [hc.2]
  rfl

theorem spanDigits_eq (cs : List Char) :
    spanDigits cs = (cs.takeWhile Char.isDigit, cs.dropWhile Char.isDigit) :=
  List.span_eq_takeWhile_dropWhile Char.isDigit cs

/-- Digits are split off whole in front of a text that starts with none. -/
theorem spanDigits_append (ds rest : List Char) (hd : AllDigits ds)
    (hr : ∀ c ∈ rest.head?, c.isDigit = false) : spanDigits (ds ++ rest) = (ds, rest) := by
  induction ds with
  | nil =>
    rw [spanDigits_eq]
    cases rest with
    | nil => rfl
    | cons c cs =>
      have hc := hr c rfl
      simp [hc]
  | cons d ds ih =>
    have hdd := hd d (by simp)
    have htail := ih (fun c hc => hd c (by simp [hc]))
    rw [spanDigits_eq] at htail ⊢
    simpa [hdd] using htail

theorem spanDigits_self (ds : List Char) (hd : AllDigits ds) : spanDigits ds = (ds, []) := by
  have h := spanDigits_append ds [] hd (by simp)
  rwa [List.append_nil] at h

theorem ExponentForm.head_not_digit {cs : List Char} (h : ExponentForm cs) :
    ∀ c ∈ cs.head?, c.isDigit = false := by
  intro c hc
  cases h with
  | absent => simp at hc
  | marked mark sign digits hmark =>
    obtain rfl : mark = c := by simpa using hc
    rcases hmark with rfl | rfl <;> rfl

theorem ExponentForm.head_not_point {cs : List Char} (h : ExponentForm cs) :
    ∀ rest, cs ≠ '.' :: rest := by
  rintro rest rfl
  cases h with
  | marked mark sign digits hmark => simp at hmark

theorem spanSign_append (ds rest : List Char) (hd : AllDigits ds) (hne : ds ≠ []) :
    spanSign (ds ++ rest) = (false, ds ++ rest) := by
  obtain ⟨d, more, rfl⟩ := List.exists_cons_of_ne_nil hne
  have hfirst : d.isDigit = true := hd d (by simp)
  unfold spanSign
  split <;> simp_all

theorem exponentOf?_isSome {cs : List Char} (h : ExponentForm cs) : (exponentOf? cs).isSome := by
  cases h with
  | absent => rfl
  | marked mark sign digits hmark hsign hdigits hne =>
    have hspan : ∃ negative, spanSign (sign ++ digits) = (negative, digits) := by
      rcases hsign with rfl | rfl | rfl
      · have h := spanSign_append digits [] hdigits hne
        rw [List.append_nil] at h
        exact ⟨false, h⟩
      · exact ⟨true, rfl⟩
      · exact ⟨false, rfl⟩
    obtain ⟨negative, hspan⟩ := hspan
    simp [exponentOf?, hmark, hspan, spanDigits_self digits hdigits, hne]

theorem ofText?_isSome {cs : List Char} (h : Numeral cs) : (ofText? cs).isSome := by
  cases h with
  | whole digits exponent hdigits hne hexponent =>
    have hspan := spanDigits_append digits exponent hdigits hexponent.head_not_digit
    have hpoint := hexponent.head_not_point
    simp [ofText?, hspan, hne, exponentOf?_isSome hexponent]
  | pointed digits fraction exponent hdigits hfraction hne hexponent =>
    have hwhole := spanDigits_append digits ('.' :: (fraction ++ exponent)) hdigits
      (by simp)
    have hrest := spanDigits_append fraction exponent hfraction hexponent.head_not_digit
    have hread : (digits.isEmpty && fraction.isEmpty) = false := by
      rcases hne with hne | hne <;> simp [hne]
    simp [ofText?, hwhole, hrest, hread, exponentOf?_isSome hexponent]

theorem spanSign_numeral {cs : List Char} (h : Numeral cs) : spanSign cs = (false, cs) := by
  cases h with
  | whole digits exponent hdigits hne hexponent => exact spanSign_append digits exponent hdigits hne
  | pointed digits fraction exponent hdigits hfraction hne hexponent =>
    by_cases hnil : digits = []
    · subst hnil
      rfl
    · exact spanSign_append digits _ hdigits hnil

end Decimal

namespace Binary64

theorem ofText?_isSome_of_body {cs body : List Char} {negative : Bool}
    (hsign : Decimal.spanSign cs = (negative, body)) (hbody : Decimal.Numeral body) :
    (ofText? cs).isSome := by
  have hread := Decimal.ofText?_isSome hbody
  unfold ofText?
  simp only [hsign]
  split
  · rfl
  · split
    · rfl
    · simpa using hread

/-- What is written for a number: a word, or a numeral behind an optional minus. -/
inductive Written : List Char → Prop where
  | word (cs : List Char) (h : cs = "NaN".toList ∨ cs = "inf".toList ∨ cs = "-inf".toList) :
      Written cs
  | plain (cs : List Char) (h : Decimal.Numeral cs) : Written cs
  | negative (cs : List Char) (h : Decimal.Numeral cs) : Written ('-' :: cs)

theorem Written.isSome_ofText? {cs : List Char} (h : Written cs) : (ofText? cs).isSome := by
  cases h with
  | word cs h => rcases h with rfl | rfl | rfl <;> decide
  | plain cs h => exact ofText?_isSome_of_body (Decimal.spanSign_numeral h) h
  | negative cs h => exact ofText?_isSome_of_body rfl h

end Binary64

namespace Layout

open Decimal (AllDigits Numeral ExponentForm allDigits_zero)

theorem positional_numeral (digits : List Char) (point : Int) (hd : AllDigits digits)
    (hne : digits ≠ []) : Numeral (positional ".0" digits point).toList := by
  unfold positional
  split
  · have hfraction : AllDigits ((zeros (-point).toNat).toList ++ digits) :=
      (Decimal.allDigits_append _ _).mpr ⟨Decimal.allDigits_zeros _, hd⟩
    have h := Numeral.pointed ['0'] _ [] allDigits_zero hfraction (.inl (by simp)) .absent
    simpa using h
  · split
    · rename_i hpos hlt
      have htake : AllDigits (digits.take point.toNat) := fun c hc => hd c (List.mem_of_mem_take hc)
      have hdrop : AllDigits (digits.drop point.toNat) := fun c hc => hd c (List.mem_of_mem_drop hc)
      have htake_ne : digits.take point.toNat ≠ [] := by
        simp only [ne_eq, List.take_eq_nil_iff, not_or]
        exact ⟨by omega, hne⟩
      have h := Numeral.pointed _ _ [] htake hdrop (.inl htake_ne) .absent
      simpa using h
    · have hwhole : AllDigits (digits ++ (zeros (point.toNat - digits.length)).toList) :=
        (Decimal.allDigits_append _ _).mpr ⟨hd, Decimal.allDigits_zeros _⟩
      have h := Numeral.pointed _ ['0'] [] hwhole allDigits_zero (.inl (by simp [hne])) .absent
      simpa using h

theorem exponentForm_written (exponent : Int) :
    ExponentForm ('e' :: ((if exponent < 0 then "-" else "").toList ++
      decimalDigits exponent.natAbs)) := by
  refine .marked 'e' _ _ (.inl rfl) ?_ (Decimal.allDigits_decimalDigits _)
    (Decimal.decimalDigits_ne_nil _)
  split
  · exact .inr (.inl rfl)
  · exact .inl rfl

theorem scientific_numeral (digits : List Char) (exponent : Int) (hd : AllDigits digits) :
    Numeral (scientific "" digits exponent).toList := by
  have hexp := exponentForm_written exponent
  match digits, hd with
  | [], _ => simpa [scientific] using Numeral.whole ['0'] _ allDigits_zero (by simp) hexp
  | [d], hd => simpa [scientific] using Numeral.whole [d] _ hd (by simp) hexp
  | d :: e :: ds, hd =>
    have hfirst : AllDigits [d] := fun c hc => hd c (by simp_all)
    have hrest : AllDigits (e :: ds) := fun c hc => hd c (by simp_all)
    simpa [scientific] using
      Numeral.pointed [d] (e :: ds) _ hfirst hrest (.inl (by simp)) hexp

theorem text_magnitude_numeral (d : Decimal) : Numeral (text.magnitude d).toList := by
  unfold magnitude
  have hd := Decimal.allDigits_decimalDigits d.coefficient
  split
  · exact Numeral.pointed ['0'] ['0'] [] allDigits_zero allDigits_zero (.inl (by simp)) .absent
  · dsimp only
    split
    · exact positional_numeral _ _ hd (Decimal.decimalDigits_ne_nil _)
    · exact scientific_numeral _ _ hd

end Layout

namespace Binary64

theorem decimalDigits_numeral (n : Nat) : Decimal.Numeral (decimalDigits n) := by
  have h := Decimal.Numeral.whole _ [] (Decimal.allDigits_decimalDigits n)
    (Decimal.decimalDigits_ne_nil n) .absent
  rwa [List.append_nil] at h

theorem toText_written (x : Binary64) : Written x.toText.toList := by
  cases x with
  | nan => exact .word _ (.inl rfl)
  | inf s =>
    cases s with
    | true => exact .word _ (.inr (.inr rfl))
    | false => exact .word _ (.inr (.inl rfl))
  | finite s r =>
    have h := Layout.text_magnitude_numeral (shortest Layout.text.tie r.val)
    cases s with
    | true => simpa [toText, Layout.render] using Written.negative _ h
    | false => simpa [toText, Layout.render] using Written.plain _ h

theorem toString_ofNat (n : Nat) : (toString (Int.ofNat n)).toList = decimalDigits n :=
  Nat.toList_repr

theorem toString_negSucc (n : Nat) :
    (toString (Int.negSucc n)).toList = '-' :: decimalDigits (n + 1) := by
  change ("-" ++ (n + 1).repr).toList = _
  rw [String.toList_append, Nat.toList_repr]
  rfl

theorem toString_written (z : Int) : Written (toString z).toList := by
  cases z with
  | ofNat n =>
    rw [toString_ofNat]
    exact .plain _ (decimalDigits_numeral n)
  | negSucc n =>
    rw [toString_negSucc]
    exact .negative _ (decimalDigits_numeral (n + 1))

end Binary64

namespace Text

theorem trimStart_of_not_blank {cs : List Char} (h : ∀ c ∈ cs, isBlank c = false) :
    trimStart cs = cs := by
  cases cs with
  | nil => rfl
  | cons c cs => simp [trimStart, h c (by simp)]

theorem trimChars_of_not_blank {cs : List Char} (h : ∀ c ∈ cs, isBlank c = false) :
    trimChars cs = cs := by
  have hrev : trimStart cs.reverse = cs.reverse := trimStart_of_not_blank (by simpa using h)
  unfold trimChars trimEnd
  rw [trimStart_of_not_blank h]
  unfold trimStart at hrev
  rw [hrev, List.reverse_reverse]

theorem isBlank_of_isDigit {c : Char} (h : c.isDigit = true) : isBlank c = false := by
  simp only [Char.isDigit, Bool.and_eq_true, decide_eq_true_eq, UInt32.le_iff_toNat_le] at h
  have hlow : 48 ≤ c.toNat := h.1
  have hhigh : c.toNat ≤ 57 := h.2
  simp only [isBlank, decide_eq_false_iff_not]
  omega

theorem isBlank_of_exponentForm {cs : List Char} (h : Decimal.ExponentForm cs) :
    ∀ c ∈ cs, isBlank c = false := by
  cases h with
  | absent => simp
  | marked mark sign digits hmark hsign hdigits hne =>
    intro c hc
    simp only [List.mem_cons, List.mem_append] at hc
    rcases hc with rfl | hc | hc
    · rcases hmark with rfl | rfl <;> rfl
    · rcases hsign with rfl | rfl | rfl
      · simp at hc
      · obtain rfl := List.mem_singleton.mp hc
        rfl
      · obtain rfl := List.mem_singleton.mp hc
        rfl
    · exact isBlank_of_isDigit (hdigits c hc)

theorem isBlank_of_numeral {cs : List Char} (h : Decimal.Numeral cs) :
    ∀ c ∈ cs, isBlank c = false := by
  intro c hc
  cases h with
  | whole digits exponent hdigits hne hexponent =>
    rcases List.mem_append.mp hc with hc | hc
    · exact isBlank_of_isDigit (hdigits c hc)
    · exact isBlank_of_exponentForm hexponent c hc
  | pointed digits fraction exponent hdigits hfraction hne hexponent =>
    simp only [List.mem_append, List.mem_cons] at hc
    rcases hc with hc | rfl | hc | hc
    · exact isBlank_of_isDigit (hdigits c hc)
    · rfl
    · exact isBlank_of_isDigit (hfraction c hc)
    · exact isBlank_of_exponentForm hexponent c hc

theorem isBlank_of_written {cs : List Char} (h : Binary64.Written cs) :
    ∀ c ∈ cs, isBlank c = false := by
  cases h with
  | word cs h => rcases h with rfl | rfl | rfl <;> simp [isBlank]
  | plain cs h => exact isBlank_of_numeral h
  | negative cs h =>
    intro c hc
    rcases List.mem_cons.mp hc with rfl | hc
    · rfl
    · exact isBlank_of_numeral h c hc

end Text

end Assay
