import Mathlib.Data.List.TakeWhile
import Assay.Proofs.Json.Grammar

/-!
# Tokens of JSON text

Every scanner of the reader takes exactly the tokens of the grammar: what it
takes is a token, and a token is taken whole wherever the text behind it cannot
carry it on.
-/

set_option autoImplicit false

namespace Assay.Json

open Decimal (AllDigits)

theorem isSpace_iff (c : Char) : isSpace c = true ↔ c ∈ blanks := by
  simp [isSpace, blanks, or_assoc]

theorem AfterBlanks.trans {cs mid rest : List Char} (h : AfterBlanks cs mid)
    (hrest : AfterBlanks mid rest) : AfterBlanks cs rest := by
  induction h with
  | here cs => exact hrest
  | blank hc h ih => exact .blank hc (ih hrest)

theorem AfterBlanks.length_le {cs rest : List Char} (h : AfterBlanks cs rest) :
    rest.length ≤ cs.length := by
  induction h with
  | here cs => exact Nat.le_refl _
  | blank hc h ih =>
    rw [List.length_cons]
    omega

theorem afterBlanks_skipSpace (cs : List Char) : AfterBlanks cs (skipSpace cs) := by
  induction cs with
  | nil => exact .here []
  | cons c cs ih =>
    by_cases hc : isSpace c = true
    · rw [skipSpace, List.dropWhile_cons_of_pos hc]
      exact .blank ((isSpace_iff c).mp hc) ih
    · rw [skipSpace, List.dropWhile_cons_of_neg hc]
      exact .here _

theorem AfterBlanks.skipSpace_eq {cs rest : List Char} (h : AfterBlanks cs rest) :
    skipSpace cs = skipSpace rest := by
  induction h with
  | here cs => rfl
  | blank hc h ih =>
    rw [skipSpace, List.dropWhile_cons_of_pos ((isSpace_iff _).mpr hc)]
    exact ih

theorem skipSpace_cons {c : Char} (hc : isSpace c = false) (cs : List Char) :
    skipSpace (c :: cs) = c :: cs := by
  rw [skipSpace, List.dropWhile_cons_of_neg (by simp [hc])]

theorem AfterBlanks.skipSpace_cons {c : Char} {cs rest : List Char}
    (h : AfterBlanks cs (c :: rest)) (hc : isSpace c = false) : skipSpace cs = c :: rest := by
  rw [h.skipSpace_eq, Json.skipSpace_cons hc]

theorem scanWord_eq_done_iff (word cs rest : List Char) :
    scanWord word cs = .done () rest ↔ cs = word ++ rest := by
  induction word generalizing cs with
  | nil => simp [scanWord]
  | cons w word ih =>
    cases cs with
    | nil => simp [scanWord]
    | cons c cs =>
      by_cases hc : w = c
      · subst hc
        simp [scanWord, ih]
      · simp [scanWord, hc, Ne.symm hc]

/-- No numeral goes on where `rest` starts. -/
def Stops (rest : List Char) : Prop :=
  ∀ c ∈ rest.head?, c.isDigit = false ∧ c ≠ '.' ∧ c ≠ 'e' ∧ c ≠ 'E'

theorem stops_nil : Stops [] := by
  intro c hc
  simp at hc

theorem Stops.of_blanks {cs rest : List Char} (h : AfterBlanks cs rest) (hrest : Stops rest) :
    Stops cs := by
  cases h with
  | here => exact hrest
  | blank hc h =>
    intro d hd
    simp only [List.head?_cons, Option.mem_def, Option.some.injEq] at hd
    subst hd
    simp only [blanks, List.mem_cons, List.not_mem_nil, or_false] at hc
    rcases hc with rfl | rfl | rfl | rfl <;> decide

theorem scanDigits_append {ds rest : List Char} (hd : AllDigits ds) (hne : ds ≠ [])
    (hrest : ∀ c ∈ rest.head?, c.isDigit = false) :
    scanDigits (ds ++ rest) = .done ds rest := by
  have hspan := Decimal.spanDigits_append ds rest hd hrest
  unfold Decimal.spanDigits at hspan
  obtain ⟨d, more, rfl⟩ := List.exists_cons_of_ne_nil hne
  rw [scanDigits, hspan]

theorem of_scanDigits {cs ds rest : List Char} (h : scanDigits cs = .done ds rest) :
    cs = ds ++ rest ∧ AllDigits ds ∧ ds ≠ [] := by
  have hspan := Decimal.spanDigits_eq cs
  unfold Decimal.spanDigits at hspan
  unfold scanDigits at h
  rw [hspan] at h
  split at h
  · simp at h
  · simp at h
  · rename_i ds rest hnil hcons heq
    obtain ⟨htake, hdrop⟩ := Prod.mk.inj heq
    simp only [Scan.done.injEq] at h
    obtain ⟨rfl, rfl⟩ := h
    have hne : ds ≠ [] := by
      rintro rfl
      cases rest with
      | nil => exact hnil rfl rfl
      | cons c more => exact hcons c more rfl rfl
    refine ⟨?_, ?_, hne⟩
    · rw [← htake, ← hdrop, List.takeWhile_append_dropWhile]
    · rw [← htake]
      exact fun c hc => List.mem_takeWhile_imp hc

theorem scanWhole_append {ds rest : List Char} (hd : AllDigits ds) (hne : ds ≠ [])
    (hzero : ds.head? = some '0' → ds = ['0'])
    (hrest : ∀ c ∈ rest.head?, c.isDigit = false) :
    scanWhole (ds ++ rest) = .done ds rest := by
  rw [scanWhole, scanDigits_append hd hne hrest]
  split
  · rename_i heq
    simp only [Scan.done.injEq] at heq
    obtain ⟨rfl, rfl⟩ := heq
    simp at hzero
  · rfl

theorem of_scanWhole {cs ds rest : List Char} (h : scanWhole cs = .done ds rest) :
    cs = ds ++ rest ∧ AllDigits ds ∧ ds ≠ [] ∧ (ds.head? = some '0' → ds = ['0']) := by
  unfold scanWhole at h
  split at h
  · simp at h
  · rename_i hzero
    obtain ⟨hcs, hd, hne⟩ := of_scanDigits h
    refine ⟨hcs, hd, hne, ?_⟩
    intro hhead
    obtain ⟨d, more, rfl⟩ := List.exists_cons_of_ne_nil hne
    obtain rfl : d = '0' := by simpa using hhead
    cases more with
    | nil => rfl
    | cons e more => exact absurd h (hzero _ _ _)

theorem FractionAt.head_not_digit {cs fraction rest : List Char}
    (h : FractionAt cs fraction rest) (hrest : ∀ c ∈ rest.head?, c.isDigit = false) :
    ∀ c ∈ cs.head?, c.isDigit = false := by
  cases h with
  | absent => exact hrest
  | digits rest hd hne => simp

theorem ExponentAt.head {cs rest : List Char} {exponent : Option Exponent}
    (h : ExponentAt cs exponent rest) (hrest : Stops rest) :
    ∀ c ∈ cs.head?, c.isDigit = false ∧ c ≠ '.' := by
  cases h with
  | absent => exact fun c hc => ⟨(hrest c hc).1, (hrest c hc).2.1⟩
  | marked rest hmark hsign hd hne => rcases hmark with rfl | rfl <;> simp

theorem scanFraction_of_at {cs fraction rest : List Char} (h : FractionAt cs fraction rest)
    (hrest : ∀ c ∈ rest.head?, c.isDigit = false ∧ c ≠ '.') :
    scanFraction cs = .done fraction rest := by
  cases h with
  | absent =>
    unfold scanFraction
    split
    · exact absurd rfl (hrest '.' rfl).2
    · rfl
  | digits rest hd hne => exact scanDigits_append hd hne fun c hc => (hrest c hc).1

theorem of_scanFraction {cs fraction rest : List Char}
    (h : scanFraction cs = .done fraction rest) : FractionAt cs fraction rest := by
  unfold scanFraction at h
  split at h
  · obtain ⟨rfl, hd, hne⟩ := of_scanDigits h
    exact .digits rest hd hne
  · simp only [Scan.done.injEq] at h
    obtain ⟨rfl, rfl⟩ := h
    exact .absent _

theorem spanSign_of_sign {sign ds : List Char} {negative : Bool}
    (hsign : (sign, negative) ∈ signs) (rest : List Char) (hd : AllDigits ds) (hne : ds ≠ []) :
    Decimal.spanSign (sign ++ (ds ++ rest)) = (negative, ds ++ rest) := by
  simp only [signs, List.mem_cons, Prod.mk.injEq, List.not_mem_nil, or_false] at hsign
  rcases hsign with ⟨rfl, rfl⟩ | ⟨rfl, rfl⟩ | ⟨rfl, rfl⟩
  · exact Decimal.spanSign_append ds rest hd hne
  · rfl
  · rfl

theorem exists_sign (cs : List Char) :
    ∃ sign, (sign, (Decimal.spanSign cs).1) ∈ signs ∧ cs = sign ++ (Decimal.spanSign cs).2 := by
  unfold Decimal.spanSign
  split
  · exact ⟨['-'], by simp [signs], rfl⟩
  · exact ⟨['+'], by simp [signs], rfl⟩
  · exact ⟨[], by simp [signs], rfl⟩

theorem scanExponent_of_at {cs rest : List Char} {exponent : Option Exponent}
    (h : ExponentAt cs exponent rest) (hrest : Stops rest) :
    scanExponent cs = .done exponent rest := by
  cases h with
  | absent =>
    cases cs with
    | nil => rfl
    | cons c cs =>
      have hc := hrest c rfl
      simp [scanExponent, hc.2.2.1, hc.2.2.2]
  | marked rest hmark hsign hd hne =>
    have hdigits := scanDigits_append hd hne fun c hc => (hrest c hc).1
    simp [scanExponent, hmark, spanSign_of_sign hsign rest hd hne, hdigits]

theorem of_scanExponent {cs rest : List Char} {exponent : Option Exponent}
    (h : scanExponent cs = .done exponent rest) : ExponentAt cs exponent rest := by
  cases cs with
  | nil =>
    simp only [scanExponent, Scan.done.injEq] at h
    obtain ⟨rfl, rfl⟩ := h
    exact .absent _
  | cons c cs =>
    simp only [scanExponent] at h
    split at h
    · rename_i hmark
      obtain ⟨sign, hsign, hcs⟩ := exists_sign cs
      split at h
      · rename_i ds rest hdigits
        simp only [Scan.done.injEq] at h
        obtain ⟨rfl, rfl⟩ := h
        obtain ⟨hbody, hd, hne⟩ := of_scanDigits hdigits
        have hat := ExponentAt.marked rest hmark hsign hd hne
        rwa [← hbody, ← hcs] at hat
      · simp at h
    · simp only [Scan.done.injEq] at h
      obtain ⟨rfl, rfl⟩ := h
      exact .absent _

theorem scanNumeral_of_at {negative : Bool} {cs rest : List Char} {n : Numeral}
    (h : NumeralAt negative cs n rest) (hrest : Stops rest) :
    scanNumeral negative cs = .done n rest := by
  cases h with
  | intro hd hne hzero hfraction hexponent =>
    have hmid := hexponent.head hrest
    have hafter := hfraction.head_not_digit fun c hc => (hmid c hc).1
    unfold scanNumeral
    simp only [scanWhole_append hd hne hzero hafter, scanFraction_of_at hfraction hmid,
      scanExponent_of_at hexponent hrest]

theorem of_scanNumeral {negative : Bool} {cs rest : List Char} {n : Numeral}
    (h : scanNumeral negative cs = .done n rest) : NumeralAt negative cs n rest := by
  unfold scanNumeral at h
  split at h
  · simp at h
  · rename_i whole after hwhole
    split at h
    · simp at h
    · rename_i fraction mid hfraction
      split at h
      · simp at h
      · rename_i exponent rest hexponent
        simp only [Scan.done.injEq] at h
        obtain ⟨rfl, rfl⟩ := h
        obtain ⟨rfl, hd, hne, hzero⟩ := of_scanWhole hwhole
        exact .intro hd hne hzero (of_scanFraction hfraction) (of_scanExponent hexponent)

theorem FractionAt.length_le {cs fraction rest : List Char} (h : FractionAt cs fraction rest) :
    rest.length ≤ cs.length := by
  cases h with
  | absent => exact Nat.le_refl _
  | digits =>
    simp only [List.length_cons, List.length_append]
    omega

theorem ExponentAt.length_le {cs rest : List Char} {exponent : Option Exponent}
    (h : ExponentAt cs exponent rest) : rest.length ≤ cs.length := by
  cases h with
  | absent => exact Nat.le_refl _
  | marked =>
    simp only [List.length_cons, List.length_append]
    omega

theorem NumeralAt.length_lt {negative : Bool} {cs rest : List Char} {n : Numeral}
    (h : NumeralAt negative cs n rest) : rest.length < cs.length := by
  cases h with
  | intro hd hne hzero hfraction hexponent =>
    have hwhole := List.length_pos_iff.mpr hne
    have hafter := hfraction.length_le
    have hmid := hexponent.length_le
    rw [List.length_append]
    omega

theorem NumeralAt.starts_with_digit {negative : Bool} {cs rest : List Char} {n : Numeral}
    (h : NumeralAt negative cs n rest) : ∃ c tail, cs = c :: tail ∧ c.isDigit = true := by
  cases h with
  | @intro whole fraction after mid rest exponent hd hne =>
    obtain ⟨c, more, rfl⟩ := List.exists_cons_of_ne_nil hne
    exact ⟨c, more ++ after, rfl, hd c (by simp)⟩

theorem toNat_lt_of_hexValue? {c : Char} {d : Nat} (h : hexValue? c = some d) :
    c.toNat < 128 := by
  have hle (m : Char) (hm : m.toNat < 128) (hc : c ≤ m) : c.toNat < 128 :=
    Nat.lt_of_le_of_lt (UInt32.le_iff_toNat_le.mp hc) hm
  unfold hexValue? at h
  split at h
  · rename_i hdigit
    simp only [Char.isDigit, Bool.and_eq_true, decide_eq_true_eq] at hdigit
    exact hle '9' (by decide) hdigit.2
  · split at h
    · rename_i hlower
      exact hle 'f' (by decide) hlower.2
    · split at h
      · rename_i hupper
        exact hle 'F' (by decide) hupper.2
      · simp at h

theorem hexValue?_eq_some_iff (c : Char) (d : Nat) : hexValue? c = some d ↔ HexDigit c d := by
  constructor
  · intro h
    have hascii : ∀ n < 128, ∀ d ∈ hexValue? (Char.ofNat n), HexDigit (Char.ofNat n) d := by
      unfold HexDigit
      decide
    have hc := hascii c.toNat (toNat_lt_of_hexValue? h) d
    rw [Char.ofNat_toNat] at hc
    exact hc h
  · have hdigit : ∀ d < 16, hexValue? (Nat.digitChar d) = some d ∧
        hexValue? (Nat.digitChar d).toUpper = some d := by
      decide
    rintro ⟨hd, rfl | rfl⟩
    · exact (hdigit d hd).1
    · exact (hdigit d hd).2

theorem hexNumber?_eq_some_iff (c₁ c₂ c₃ c₄ : Char) (n : Nat) :
    hexNumber? [c₁, c₂, c₃, c₄] = some n ↔
      ∃ d₁ d₂ d₃ d₄, HexDigit c₁ d₁ ∧ HexDigit c₂ d₂ ∧ HexDigit c₃ d₃ ∧ HexDigit c₄ d₄ ∧
        n = 16 * (16 * (16 * d₁ + d₂) + d₃) + d₄ := by
  simp only [hexNumber?, List.foldlM_cons, List.foldlM_nil, ← hexValue?_eq_some_iff]
  cases hexValue? c₁ <;> cases hexValue? c₂ <;> cases hexValue? c₃ <;> cases hexValue? c₄ <;>
    simp [eq_comm]

theorem escaped?_eq_some_iff (e c : Char) : escaped? e = some c ↔ (e, c) ∈ shortEscapes := by
  constructor
  · intro h
    unfold escaped? at h
    split at h
    · rename_i he
      obtain rfl : e = c := by simpa using h
      rcases he with rfl | rfl | rfl <;> decide
    · repeat' split at h
      all_goals simp only [Option.some.injEq, reduceCtorEq] at h
      all_goals
        subst_vars
        decide
  · intro h
    simp only [shortEscapes, List.mem_cons, Prod.mk.injEq, List.not_mem_nil, or_false] at h
    rcases h with ⟨rfl, rfl⟩ | ⟨rfl, rfl⟩ | ⟨rfl, rfl⟩ | ⟨rfl, rfl⟩ | ⟨rfl, rfl⟩ | ⟨rfl, rfl⟩ |
      ⟨rfl, rfl⟩ | ⟨rfl, rfl⟩ <;> rfl

theorem StringScan.cons_eq_done_iff (u : StringUnit) (s : StringScan) (units : List StringUnit)
    (rest : List Char) :
    s.cons u = .done units rest ↔ ∃ more, s = .done more rest ∧ units = u :: more := by
  cases s <;> simp [StringScan.cons, eq_comm, and_comm]

theorem at_of_scanString {cs : List Char} {units : List StringUnit} {rest : List Char}
    (h : scanString cs = .done units rest) : StringAt cs units rest := by
  fun_induction scanString cs generalizing units with
  | case1 => simp at h
  | case2 tail =>
    simp only [StringScan.done.injEq] at h
    obtain ⟨rfl, rfl⟩ := h
    exact .close _
  | case3 => simp at h
  | case4 c₁ c₂ c₃ c₄ tail n hn ih =>
    obtain ⟨more, hmore, rfl⟩ := (StringScan.cons_eq_done_iff _ _ _ _).mp h
    obtain ⟨d₁, d₂, d₃, d₄, h₁, h₂, h₃, h₄, rfl⟩ := (hexNumber?_eq_some_iff _ _ _ _ _).mp hn
    exact .code h₁ h₂ h₃ h₄ (ih hmore)
  | case5 => simp at h
  | case6 => simp at h
  | case7 => simp at h
  | case8 e tail hu c he ih =>
    obtain ⟨more, hmore, rfl⟩ := (StringScan.cons_eq_done_iff _ _ _ _).mp h
    exact .escape ((escaped?_eq_some_iff _ _).mp he) (ih hmore)
  | case9 => simp at h
  | case10 => simp at h
  | case11 c tail hquote hescape hlow ih =>
    obtain ⟨more, hmore, rfl⟩ := (StringScan.cons_eq_done_iff _ _ _ _).mp h
    exact .char (by omega) hquote hescape (ih hmore)

theorem scanString_of_at {cs : List Char} {units : List StringUnit} {rest : List Char}
    (h : StringAt cs units rest) : scanString cs = .done units rest := by
  induction h with
  | close rest => rw [scanString]
  | char hlow hquote hescape h ih =>
    rw [scanString.eq_def]
    simp [ih, Nat.not_lt.mpr hlow, StringScan.cons]
  | @escape e c cs units rest he h ih =>
    have hu : e ≠ 'u' := by
      rintro rfl
      simp [shortEscapes] at he
    simp [scanString, (escaped?_eq_some_iff _ _).mpr he, ih, StringScan.cons]
  | code h₁ h₂ h₃ h₄ h ih =>
    have hn := (hexNumber?_eq_some_iff _ _ _ _ _).mpr ⟨_, _, _, _, h₁, h₂, h₃, h₄, rfl⟩
    simp [scanString, hn, ih, StringScan.cons]

theorem StringAt.length_lt {cs : List Char} {units : List StringUnit} {rest : List Char}
    (h : StringAt cs units rest) : rest.length < cs.length := by
  induction h <;> simp only [List.length_cons] <;> omega

end Assay.Json
