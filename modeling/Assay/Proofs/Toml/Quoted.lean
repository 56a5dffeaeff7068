import Mathlib.Data.List.Basic
import Mathlib.Tactic.SplitIfs
import Assay.Toml.Quoted

/-!
# Quoted texts are read back

Whatever quotes a text is written between, it is read back as it was. A character
is either written as it is or escaped, and both readers with double quotes take
either spelling. Between tripled quotes there are at most two quotes in a row, so
that a third one in a row belongs to the closing quotes, and the quotes of the
text right before those are told apart by their number.
-/

set_option autoImplicit false

namespace Assay.Toml

/-! ## Characters between double quotes -/

/-- A spelling of a character between double quotes. -/
inductive Spells : List Char → Char → Prop where
  | plain {c : Char} : isPrintable c = true → c ≠ '"' → c ≠ '\\' → Spells [c] c
  | escape {e c : Char} : simpleEscape? e = some c → Spells ['\\', e] c
  | code {h₁ h₂ h₃ h₄ c : Char} : codeChar? [h₁, h₂, h₃, h₄] = some c →
      Spells ['\\', 'u', h₁, h₂, h₃, h₄] c

theorem isPrintable_of_not_control {c : Char} (h : isControl c = false) : isPrintable c = true := by
  simp only [isControl, isPrintable, Bool.or_eq_false_iff, decide_eq_false_iff_not] at h ⊢
  simp only [Bool.or_eq_true, Bool.and_eq_true, decide_eq_true_eq]
  refine .inr ⟨by omega, ?_⟩
  simpa [bne] using h.2

theorem codeEscape_spells {c : Char} (h : isControl c = true) : Spells (codeEscape c) c := by
  have hall : ∀ n < 0x80, isControl (Char.ofNat n) = true →
      (codeEscape (Char.ofNat n)).take 2 = ['\\', 'u'] ∧
        (codeEscape (Char.ofNat n)).length = 6 ∧
        codeChar? ((codeEscape (Char.ofNat n)).drop 2) = some (Char.ofNat n) := by
    decide
  have hlt : c.toNat < 0x80 := by
    simp only [isControl, Bool.or_eq_true, decide_eq_true_eq, beq_iff_eq] at h
    omega
  have hc := hall c.toNat hlt
  rw [Char.ofNat_toNat] at hc
  obtain ⟨htake, hlength, hcode⟩ := hc h
  match hds : codeEscape c, hlength with
  | [a, b, h₁, h₂, h₃, h₄], _ =>
    rw [hds] at htake hcode
    cases htake
    exact .code hcode

theorem escapeChar_spells {c : Char} (hquote : c ≠ '"') : Spells (escapeChar c) c := by
  unfold escapeChar
  split_ifs with hb ht hf hr hbackslash hcontrol
  · subst hb
    exact .escape (by decide)
  · subst ht
    exact .escape (by decide)
  · subst hf
    exact .escape (by decide)
  · subst hr
    exact .escape (by decide)
  · subst hbackslash
    exact .escape (by decide)
  · exact codeEscape_spells hcontrol
  · exact .plain (isPrintable_of_not_control (by simpa using hcontrol)) hquote hbackslash

theorem basicChar_spells (c : Char) : Spells (basicChar c) c := by
  unfold basicChar
  split_ifs with hquote hnewline
  · subst hquote
    exact .escape (by decide)
  · subst hnewline
    exact .escape (by decide)
  · exact escapeChar_spells hquote

/-- An escaped character is neither the mark of a code nor a blank. -/
theorem ne_of_simpleEscape? {e c m : Char} (h : simpleEscape? e = some c)
    (hm : m ∈ ['x', 'u', 'U', ' ', '\t', '\n', '\r']) : e ≠ m := by
  have hmarks : ∀ m ∈ ['x', 'u', 'U', ' ', '\t', '\n', '\r'], simpleEscape? m = none := by
    simp [simpleEscape?]
  rintro rfl
  rw [hmarks e hm] at h
  cases h

theorem atLineEnd_of_simpleEscape? {e c : Char} (h : simpleEscape? e = some c) (cs : List Char) :
    atLineEnd (e :: cs) = false := by
  have hne := fun m hm => ne_of_simpleEscape? (m := m) h hm
  have hw : isWs e = false := by simp [isWs, hne]
  unfold atLineEnd
  rw [List.dropWhile_cons_of_neg (by simp [hw])]
  split
  · rename_i heq
    exact absurd (List.cons.inj heq).1 (hne _ (by simp))
  · rename_i heq
    exact absurd (List.cons.inj heq).1 (hne _ (by simp))
  · rfl

theorem Spells.readBasic {text : List Char} {c : Char} (h : Spells text c) (rest : List Char) :
    readBasic (text ++ rest) = Quotation.cons c (readBasic rest) := by
  cases h with
  | plain hprintable hquote hbackslash =>
    rw [List.singleton_append, Toml.readBasic]
    · simp [hprintable, hbackslash]
    all_goals simp_all
  | escape he =>
    have hne := fun m hm => ne_of_simpleEscape? (m := m) he hm
    simp only [List.cons_append, List.nil_append]
    rw [Toml.readBasic, he]
    · rfl
    all_goals simp [hne]
  | code hcode =>
    simp only [List.cons_append, List.nil_append]
    rw [Toml.readBasic, hcode]
    rfl

theorem Spells.readBasicLines {text : List Char} {c : Char} (h : Spells text c)
    (rest : List Char) :
    readBasicLines false (text ++ rest) = Quotation.cons c (readBasicLines false rest) := by
  cases h with
  | plain hprintable hquote hbackslash =>
    have hreturn : c ≠ '\r' := by
      rintro rfl
      exact absurd hprintable (by decide)
    rw [List.singleton_append, Toml.readBasicLines]
    · simp [hprintable, hbackslash]
    all_goals simp_all
  | escape he =>
    have hne := fun m hm => ne_of_simpleEscape? (m := m) he hm
    simp only [List.cons_append, List.nil_append]
    rw [Toml.readBasicLines, he, atLineEnd_of_simpleEscape? he]
    · rfl
    all_goals simp [hne]
  | code hcode =>
    simp only [List.cons_append, List.nil_append]
    rw [Toml.readBasicLines, hcode]
    rfl

/-! ## One line -/

theorem readBasic_basicChars (cs rest : List Char) :
    readBasic (cs.flatMap basicChar ++ '"' :: rest) = some (cs, rest) := by
  induction cs with
  | nil => rfl
  | cons c cs ih =>
    rw [List.flatMap_cons, List.append_assoc, (basicChar_spells c).readBasic, ih]
    rfl

theorem readLiteral_chars {cs : List Char} (rest : List Char)
    (h : ∀ c ∈ cs, isPrintable c = true ∧ c ≠ '\'') :
    readLiteral (cs ++ '\'' :: rest) = some (cs, rest) := by
  induction cs with
  | nil => rfl
  | cons c cs ih =>
    obtain ⟨hc, hquote⟩ := h c List.mem_cons_self
    rw [List.cons_append, readLiteral, ih fun d hd => h d (List.mem_cons_of_mem c hd), if_pos hc]
    · rfl
    · simpa using hquote

/-! ## Quotes in a row -/

theorem closeTriple_replicate {quote : Char} {k : Nat} (hk : k ≤ 2) {rest : List Char}
    (hrest : rest.head? ≠ some quote) :
    closeTriple quote (List.replicate k quote ++ rest) = (List.replicate k quote, rest) := by
  match k, hk with
  | 0, _ => cases rest with
    | nil => rfl
    | cons a rest =>
      have ha : a ≠ quote := by simpa using hrest
      cases rest <;> simp [closeTriple, ha]
  | 1, _ => cases rest with
    | nil => simp [closeTriple]
    | cons a rest =>
      have ha : a ≠ quote := by simpa using hrest
      simp [closeTriple, ha, List.replicate]
  | 2, _ => simp [closeTriple, List.replicate]

theorem eq_replicate_append (quote : Char) (cs : List Char) :
    ∃ more, cs = List.replicate (runs quote cs).2 quote ++ more ∧ more.head? ≠ some quote ∧
      (runs quote cs).2 ≤ (runs quote cs).1 := by
  induction cs with
  | nil => exact ⟨[], rfl, by simp, Nat.le_refl 0⟩
  | cons c cs ih =>
    obtain ⟨more, hcs, hmore, hle⟩ := ih
    by_cases hc : c = quote
    · refine ⟨more, ?_, hmore, ?_⟩
      · simp only [runs, if_pos hc, List.replicate_succ, List.cons_append]
        rw [← hcs, hc]
      · simp only [runs, if_pos hc]
        exact Nat.le_max_right _ _
    · refine ⟨c :: cs, ?_, by simpa using hc, ?_⟩
      · simp [runs, hc]
      · simp [runs, hc]

theorem longestRun_tail_le (quote c : Char) (cs : List Char) :
    longestRun quote cs ≤ longestRun quote (c :: cs) := by
  by_cases hc : c = quote
  · simp only [longestRun, runs, if_pos hc]
    exact Nat.le_max_left _ _
  · simp [longestRun, runs, hc]

theorem not_mem_of_longestRun_eq_zero {quote : Char} {cs : List Char}
    (h : longestRun quote cs = 0) : quote ∉ cs := by
  induction cs with
  | nil => simp
  | cons c cs ih =>
    have hcs : longestRun quote cs = 0 := by
      have hle := longestRun_tail_le quote c cs
      omega
    have hc : c ≠ quote := by
      intro hc
      have hpos : (runs quote cs).2 + 1 ≤ longestRun quote (c :: cs) := by
        simp only [longestRun, runs, if_pos hc]
        exact Nat.le_max_right _ _
      omega
    simp [Ne.symm hc, ih hcs]

theorem quotes_or_not_triple {quote : Char} {cs : List Char} (h : longestRun quote cs ≤ 2) :
    (∃ k ≤ 2, cs = List.replicate k quote) ∨
      ∀ rest, ¬ [quote, quote, quote] <+: cs ++ rest := by
  obtain ⟨more, hcs, hmore, hle⟩ := eq_replicate_append quote cs
  have hk : (runs quote cs).2 ≤ 2 := Nat.le_trans hle h
  generalize (runs quote cs).2 = k at *
  cases more with
  | nil => exact .inl ⟨k, hk, by simpa using hcs⟩
  | cons c more =>
    have hc : c ≠ quote := by simpa using hmore
    refine .inr fun rest => ?_
    rw [hcs]
    match k, hk with
    | 0, _ => simp [Ne.symm hc]
    | 1, _ => simp [Ne.symm hc, List.replicate]
    | 2, _ => simp [Ne.symm hc, List.replicate]

/-! ## Several lines -/

abbrev closed (quote : Char) (rest : List Char) : List Char := [quote, quote, quote] ++ rest

theorem replicate_append_closed (quote : Char) (k : Nat) (rest : List Char) :
    List.replicate k quote ++ closed quote rest =
      closed quote (List.replicate k quote ++ rest) := by
  have hthree : [quote, quote, quote] = List.replicate 3 quote := rfl
  rw [closed, closed, hthree, ← List.append_assoc, ← List.append_assoc,
    List.replicate_append_replicate, List.replicate_append_replicate, Nat.add_comm]

theorem readLiteralLines_quotes {k : Nat} (hk : k ≤ 2) {rest : List Char}
    (hrest : rest.head? ≠ some '\'') :
    readLiteralLines (List.replicate k '\'' ++ closed '\'' rest) =
      some (List.replicate k '\'', rest) := by
  rw [replicate_append_closed, closed, List.cons_append, List.cons_append, List.cons_append,
    List.nil_append, readLiteralLines, closeTriple_replicate hk hrest]

theorem readLiteralLines_cons {c : Char} {rest : List Char}
    (hc : c = '\n' ∨ isPrintable c = true)
    (htriple : ¬ ['\'', '\'', '\''] <+: c :: rest) :
    readLiteralLines (c :: rest) = Quotation.cons c (readLiteralLines rest) := by
  have hreturn : c ≠ '\r' := by
    rintro rfl
    exact absurd hc (by decide)
  rw [readLiteralLines]
  · simp [hc]
  · rintro more rfl rfl
    exact htriple (by simp)
  · simp [hreturn]

theorem readLiteralLines_chars {cs rest : List Char} (hrest : rest.head? ≠ some '\'')
    (hprintable : ∀ c ∈ cs, c = '\n' ∨ isPrintable c = true) (hruns : longestRun '\'' cs ≤ 2) :
    readLiteralLines (cs ++ closed '\'' rest) = some (cs, rest) := by
  induction cs with
  | nil => exact readLiteralLines_quotes (k := 0) (by omega) hrest
  | cons c cs ih =>
    rcases quotes_or_not_triple hruns with ⟨k, hk, hcs⟩ | htriple
    · rw [hcs]
      exact readLiteralLines_quotes hk hrest
    · have htail := ih (fun d hd => hprintable d (List.mem_cons_of_mem c hd))
        (Nat.le_trans (longestRun_tail_le _ c cs) hruns)
      have hcons := readLiteralLines_cons (hprintable c List.mem_cons_self)
        (htriple (closed '\'' rest))
      rw [List.cons_append, ← List.append_eq, hcons, List.append_eq, htail]
      rfl

theorem readBasicLines_quotes {k : Nat} (hk : k ≤ 2) {rest : List Char}
    (hrest : rest.head? ≠ some '"') :
    readBasicLines false (List.replicate k '"' ++ closed '"' rest) =
      some (List.replicate k '"', rest) := by
  rw [replicate_append_closed, closed, List.cons_append, List.cons_append, List.cons_append,
    List.nil_append, readBasicLines, closeTriple_replicate hk hrest]

theorem readBasicLines_quote {rest : List Char} (htriple : ¬ ['"', '"', '"'] <+: '"' :: rest) :
    readBasicLines false ('"' :: rest) = Quotation.cons '"' (readBasicLines false rest) := by
  rw [readBasicLines]
  · rw [if_neg (by decide), if_pos (by decide)]
  · rintro more - rfl
    exact htriple (by simp)
  all_goals simp

theorem readBasicLines_newline (rest : List Char) :
    readBasicLines false ('\n' :: rest) = Quotation.cons '\n' (readBasicLines false rest) := by
  rw [readBasicLines]
  · rfl
  all_goals simp

theorem escapeChar_head {c : Char} (hquote : c ≠ '"') :
    ∃ d more, escapeChar c = d :: more ∧ d ≠ '"' ∧ isPrintable d = true := by
  have hs := escapeChar_spells hquote
  generalize escapeChar c = text at hs
  cases hs with
  | plain hprintable hne _ => exact ⟨_, _, rfl, hne, hprintable⟩
  | escape _ => exact ⟨_, _, rfl, by decide, by decide⟩
  | code _ => exact ⟨_, _, rfl, by decide, by decide⟩

theorem basicLinesBody_quote {quotes : Nat} (h : quotes ≠ 2) (cs : List Char) :
    basicLinesBody quotes ('"' :: cs) = '"' :: basicLinesBody (quotes + 1) cs := by
  simp [basicLinesBody, h]

/-- After some quotes in a row, what is written is nothing but quotes, or it does not start
with as many as would make three. -/
theorem body_quotes_or_not_triple (cs : List Char) {quotes : Nat} (hquotes : quotes ≤ 2) :
    (∃ k, k + quotes ≤ 2 ∧ cs = List.replicate k '"' ∧
        basicLinesBody quotes cs = List.replicate k '"') ∨
      ∀ rest, ¬ List.replicate (3 - quotes) '"' <+: basicLinesBody quotes cs ++ rest := by
  have hpos : ∃ n, 3 - quotes = n + 1 := ⟨2 - quotes, by omega⟩
  induction cs generalizing quotes with
  | nil => exact .inl ⟨0, by omega, rfl, rfl⟩
  | cons c cs ih =>
    obtain ⟨n, hn⟩ := hpos
    by_cases hc : c = '"'
    · subst hc
      by_cases htwo : quotes = 2
      · refine .inr fun rest => ?_
        simp [basicLinesBody, htwo]
      · rw [basicLinesBody_quote htwo]
        have hmore : quotes + 1 ≤ 2 := by omega
        rcases ih hmore ⟨1 - quotes, by omega⟩ with ⟨k, hk, hcs, hks⟩ | htriple
        · refine .inl ⟨k + 1, by omega, ?_, ?_⟩
          · rw [List.replicate_succ, ← hcs]
          · rw [List.replicate_succ, hks]
        · refine .inr fun rest => ?_
          have hless : n = 3 - (quotes + 1) := by omega
          rw [hn, List.replicate_succ, List.cons_append, List.cons_prefix_cons, hless]
          exact fun h => htriple rest h.2
    · refine .inr fun rest => ?_
      rw [hn, List.replicate_succ]
      by_cases hnewline : c = '\n'
      · simp [basicLinesBody, hnewline]
      · obtain ⟨d, more, hd, hne, -⟩ := escapeChar_head hc
        simp [basicLinesBody, hc, hnewline, hd, Ne.symm hne]

theorem readBasicLines_body {rest : List Char} (hrest : rest.head? ≠ some '"') (cs : List Char)
    {quotes : Nat} (hquotes : quotes ≤ 2) :
    readBasicLines false (basicLinesBody quotes cs ++ closed '"' rest) = some (cs, rest) := by
  induction cs generalizing quotes with
  | nil => exact readBasicLines_quotes (k := 0) (by omega) hrest
  | cons c cs ih =>
    rcases body_quotes_or_not_triple (c :: cs) hquotes with ⟨k, hk, hcs, hbody⟩ | htriple
    · rw [hbody, hcs]
      exact readBasicLines_quotes (by omega) hrest
    by_cases hc : c = '"'
    · subst hc
      by_cases htwo : quotes = 2
      · have hspells : Spells ['\\', '"'] '"' := .escape (by decide)
        have hbody : basicLinesBody quotes ('"' :: cs) = ['\\', '"'] ++ basicLinesBody 0 cs := by
          simp [basicLinesBody, htwo]
        rw [hbody, List.append_assoc, hspells.readBasicLines, ih (by omega)]
        rfl
      · rw [basicLinesBody_quote htwo] at htriple ⊢
        have hthree : ¬ ['"', '"', '"'] <+:
            '"' :: (basicLinesBody (quotes + 1) cs ++ closed '"' rest) := by
          intro h
          have hfewer : List.replicate (3 - quotes) '"' <+: ['"', '"', '"'] :=
            ⟨List.replicate quotes '"', by
              rw [List.replicate_append_replicate, Nat.sub_add_cancel (by omega)]; rfl⟩
          exact htriple _ (hfewer.trans h)
        rw [List.cons_append, readBasicLines_quote hthree, ih (by omega)]
        rfl
    · by_cases hnewline : c = '\n'
      · subst hnewline
        have hbody : basicLinesBody quotes ('\n' :: cs) = '\n' :: basicLinesBody 0 cs := by
          simp [basicLinesBody]
        rw [hbody, List.cons_append, readBasicLines_newline, ih (by omega)]
        rfl
      · have hbody : basicLinesBody quotes (c :: cs) = escapeChar c ++ basicLinesBody 0 cs := by
          simp [basicLinesBody, hc, hnewline]
        rw [hbody, List.append_assoc, (escapeChar_spells hc).readBasicLines, ih (by omega)]
        rfl

/-! ## The form that is chosen -/

section Style

variable {cs : List Char}

theorem printable_of_any_eq_false
    (h : (cs.any fun c => isControl c && c != '\t' && c != '\n') = false) :
    ∀ c ∈ cs, c = '\n' ∨ isPrintable c = true := by
  intro c hc
  have hcontrol := List.any_eq_false.1 h c hc
  by_cases htab : c = '\t'
  · exact .inr (by rw [htab]; decide)
  · by_cases hnewline : c = '\n'
    · exact .inl hnewline
    · refine .inr (isPrintable_of_not_control ?_)
      simpa [htab, hnewline] using hcontrol

theorem chars_of_literal (h : quoteStyle cs = .literal) :
    ∀ c ∈ cs, isPrintable c = true ∧ c ≠ '\'' := by
  unfold quoteStyle at h
  dsimp only at h
  split_ifs at h with _ _ hstyle
  simp only [Bool.and_eq_true, Bool.not_eq_true', decide_eq_true_eq] at hstyle
  obtain ⟨⟨hprintable, hsingle⟩, hnewline⟩ := hstyle
  have hquote := not_mem_of_longestRun_eq_zero hsingle
  intro c hc
  refine ⟨?_, fun h => hquote (h ▸ hc)⟩
  rcases printable_of_any_eq_false hprintable c hc with rfl | hc
  · simp [hc] at hnewline
  · exact hc

theorem chars_of_literalLines (h : quoteStyle cs = .literalLines) :
    (∀ c ∈ cs, c = '\n' ∨ isPrintable c = true) ∧ longestRun '\'' cs ≤ 2 := by
  unfold quoteStyle at h
  dsimp only at h
  split_ifs at h with _ _ _ _ hstyle
  simp only [Bool.and_eq_true, Bool.not_eq_true', decide_eq_true_eq] at hstyle
  exact ⟨printable_of_any_eq_false hstyle.1, hstyle.2⟩

end Style

/-! ## Any text -/

theorem dropLineEnd_of_head {cs : List Char} (h : ∀ c ∈ cs.head?, isPrintable c = true) :
    dropLineEnd cs = cs := by
  unfold dropLineEnd
  split
  · exact absurd (h '\n' rfl) (by decide)
  · exact absurd (h '\r' rfl) (by decide)
  · rfl

theorem dropLineEnd_opening {cs text : List Char}
    (h : '\n' ∉ cs → ∀ c ∈ text.head?, isPrintable c = true) :
    dropLineEnd (openingLineEnd cs ++ text) = text := by
  unfold openingLineEnd
  by_cases hnewline : '\n' ∈ cs
  · rw [if_pos (by simpa using hnewline)]
    rfl
  · rw [if_neg (by simpa using hnewline)]
    exact dropLineEnd_of_head (h hnewline)

theorem string?_of_not_triple {quote : Char} {rest : List Char}
    (h : ∀ more, rest ≠ quote :: quote :: more) :
    string? (quote :: rest) = lineString? (quote :: rest) := by
  unfold string?
  split
  · rename_i heq
    cases heq
    exact absurd rfl (h _)
  · rename_i heq
    cases heq
    exact absurd rfl (h _)
  · rfl

theorem basicChars_ne_quote (cs rest more : List Char) (hrest : rest.head? ≠ some '"') :
    cs.flatMap basicChar ++ '"' :: rest ≠ '"' :: '"' :: more := by
  intro h
  cases cs with
  | nil =>
    cases h
    simp at hrest
  | cons c cs =>
    have hs := basicChar_spells c
    rw [List.flatMap_cons] at h
    generalize basicChar c = text at hs h
    cases hs with
    | plain _ hne _ => exact hne (List.cons.inj h).1
    | escape _ => cases h
    | code _ => cases h

theorem literal_ne_quote {cs : List Char} (rest more : List Char)
    (hcs : ∀ c ∈ cs, c ≠ '\'') (hrest : rest.head? ≠ some '\'') :
    cs ++ '\'' :: rest ≠ '\'' :: '\'' :: more := by
  intro h
  cases cs with
  | nil =>
    cases h
    simp at hrest
  | cons c cs => exact hcs c List.mem_cons_self (List.cons.inj h).1

theorem isPrintable_head_body {cs : List Char} (hnewline : '\n' ∉ cs) (rest : List Char) :
    ∀ d ∈ (basicLinesBody 0 cs ++ closed '"' rest).head?, isPrintable d = true := by
  intro d hd
  cases cs with
  | nil =>
    cases hd
    decide
  | cons c cs =>
    have hc : c ≠ '\n' := fun h => hnewline (h ▸ List.mem_cons_self)
    by_cases hquote : c = '"'
    · simp only [basicLinesBody, if_pos hquote] at hd
      cases hd
      decide
    · obtain ⟨e, more, he, -, hprintable⟩ := escapeChar_head hquote
      simp only [basicLinesBody, if_neg hquote, if_neg hc, he] at hd
      cases hd
      exact hprintable

theorem string?_quoteChars (cs : List Char) {rest : List Char} (hdouble : rest.head? ≠ some '"')
    (hsingle : rest.head? ≠ some '\'') :
    string? (quoteChars cs ++ rest) = some (cs, rest) := by
  unfold quoteChars
  cases hstyle : quoteStyle cs with
  | basic =>
    simp only [List.cons_append, List.append_assoc, List.nil_append]
    rw [string?_of_not_triple fun more => basicChars_ne_quote cs rest more hdouble]
    exact readBasic_basicChars cs rest
  | literal =>
    have hcs := chars_of_literal hstyle
    simp only [List.cons_append, List.append_assoc, List.nil_append]
    rw [string?_of_not_triple fun more =>
      literal_ne_quote rest more (fun c hc => (hcs c hc).2) hsingle]
    exact readLiteral_chars rest hcs
  | basicLines =>
    have hdrop := dropLineEnd_opening fun h : '\n' ∉ cs => isPrintable_head_body h rest
    simp only [List.cons_append, List.append_assoc, List.nil_append] at hdrop ⊢
    rw [string?, hdrop]
    exact readBasicLines_body hdouble cs (by omega)
  | literalLines =>
    obtain ⟨hprintable, hruns⟩ := chars_of_literalLines hstyle
    have hhead : '\n' ∉ cs → ∀ d ∈ (cs ++ closed '\'' rest).head?, isPrintable d = true := by
      intro hnewline d hd
      cases cs with
      | nil =>
        cases hd
        decide
      | cons c cs =>
        cases hd
        rcases hprintable d List.mem_cons_self with rfl | h
        · exact absurd List.mem_cons_self hnewline
        · exact h
    have hdrop := dropLineEnd_opening hhead
    simp only [List.cons_append, List.append_assoc, List.nil_append] at hdrop ⊢
    rw [string?, hdrop]
    exact readLiteralLines_chars hsingle hprintable hruns

end Assay.Toml
