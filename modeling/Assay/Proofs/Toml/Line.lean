import Assay.Proofs.Binary64.Written
import Assay.Proofs.Json.Numeral
import Assay.Proofs.Toml.Quoted
import Assay.Toml.Reader

/-!
# Lines are read back

A text of lines that each bind a bare key to a string or a whole number is read
as the list of these bindings, in their order. What a value is written as must be
read up to the line end behind it, and no key may be bound twice.
-/

set_option autoImplicit false

namespace Assay.Toml

open Decimal (AllDigits)

def IsBare (key : String) : Prop := key.toList ≠ [] ∧ ∀ c ∈ key.toList, isKeyChar c = true

/-- A text that is read as a value up to the end of its line. -/
structure WritesItem (text : List Char) (item : Item) : Prop where
  read : ∀ depth fuel tail,
    value? depth (fuel + 1) (text ++ '\n' :: tail) = some (item, '\n' :: tail)
  head : ∃ c more, text = c :: more ∧ isWs c = false

theorem ne_of_passes {p : Char → Bool} {c d : Char} (hc : p c = true) (hd : p d = false) :
    c ≠ d := by
  rintro rfl
  rw [hc] at hd
  cases hd

theorem span_append {p : Char → Bool} {cs : List Char} {d : Char} (rest : List Char)
    (h : ∀ c ∈ cs, p c = true) (hd : p d = false) : (cs ++ d :: rest).span p = (cs, d :: rest) := by
  rw [List.span_eq_takeWhile_dropWhile, List.takeWhile_append_of_pos h,
    List.dropWhile_append_of_pos h, List.takeWhile_cons_of_neg (by simp [hd]),
    List.dropWhile_cons_of_neg (by simp [hd]), List.append_nil]

/-! ## Values -/

theorem quoteChars_head (cs : List Char) :
    ∃ more, quoteChars cs = '"' :: more ∨ quoteChars cs = '\'' :: more := by
  unfold quoteChars
  cases quoteStyle cs
  · exact ⟨_, .inl rfl⟩
  · exact ⟨_, .inr rfl⟩
  · exact ⟨_, .inl rfl⟩
  · exact ⟨_, .inr rfl⟩

theorem quote_writes (s : String) : WritesItem (quote s).toList (.string s) := by
  have htext : (quote s).toList = quoteChars s.toList := by rw [quote, String.toList_ofList]
  obtain ⟨more, hhead⟩ := quoteChars_head s.toList
  rw [htext]
  constructor
  · intro depth fuel tail
    have hread := @string?_quoteChars s.toList ('\n' :: tail) (by simp) (by simp)
    rcases hhead with hhead | hhead
    all_goals
      rw [hhead, List.cons_append] at hread ⊢
      rw [value?, hread]
      simp [String.ofList_toList]
  · rcases hhead with hhead | hhead
    all_goals exact ⟨_, _, hhead, by decide⟩

section Digits

variable {cs : List Char}

theorem decimalRun?_digits (hd : AllDigits cs) (hne : cs ≠ []) : decimalRun? cs = some cs := by
  induction cs with
  | nil => contradiction
  | cons c cs ih =>
    have hc := hd c List.mem_cons_self
    have htail : AllDigits cs := fun d h => hd d (List.mem_cons_of_mem c h)
    cases cs with
    | nil => simp [decimalRun?, digitRun?, hc]
    | cons d ds =>
      have hunderscore : d ≠ '_' := by
        rintro rfl
        exact absurd (hd '_' (by simp)) (by decide)
      have ih := ih htail (by simp)
      rw [decimalRun?] at ih ⊢
      rw [digitRun?, if_pos hc, ih]
      · rfl
      · simp
      · simpa using hunderscore

theorem isScalarChar_of_isDigit {c : Char} (h : c.isDigit = true) : isScalarChar c = true := by
  have hends : ∀ d ∈ ['=', ',', '[', ']', '\x7b', '\x7d', ' ', '\t', '#', '\r', '\n'],
      d.isDigit = false := by simp
  have hne := fun d hd => ne_of_passes h (hends d hd)
  simp [isScalarChar, hne]

theorem integer?_digits (hd : AllDigits cs) (hne : cs ≠ [])
    (hzero : cs.head? = some '0' → cs = ['0']) :
    integer? cs = some (.integer (digitsValue cs)) := by
  have hmark : ∀ c more, cs ≠ '0' :: c :: more := by
    intro c more h
    have hone := hzero (by rw [h]; rfl)
    rw [h] at hone
    cases hone
  have hsign : Decimal.spanSign cs = (false, cs) := by
    have happend := Decimal.spanSign_append cs [] hd hne
    rwa [List.append_nil] at happend
  have hwhole : wholeRun? cs = some cs := by
    rw [wholeRun?, decimalRun?_digits hd hne]
    split
    · rename_i heq
      exact absurd (Option.some.inj heq) (hmark _ _)
    · rfl
  unfold integer?
  split
  · exact absurd rfl (hmark _ _)
  · exact absurd rfl (hmark _ _)
  · exact absurd rfl (hmark _ _)
  · simp [hsign, hwhole, signed]

end Digits

theorem scalar?_decimalDigits (n : Nat) : scalar? (decimalDigits n) = some (.integer n) := by
  have hd := Decimal.allDigits_decimalDigits n
  have htrue : decimalDigits n ≠ "true".toList := fun h =>
    absurd (hd 't' (by rw [h]; decide)) (by decide)
  have hfalse : decimalDigits n ≠ "false".toList := fun h =>
    absurd (hd 'f' (by rw [h]; decide)) (by decide)
  rw [scalar?, if_neg htrue, if_neg hfalse,
    integer?_digits hd (Decimal.decimalDigits_ne_nil n) decimalDigits_eq_of_head,
    digitsValue_decimalDigits]

theorem decimalDigits_writes (n : Nat) : WritesItem (decimalDigits n) (.integer n) := by
  have hd := Decimal.allDigits_decimalDigits n
  obtain ⟨c, more, hcs⟩ := List.exists_cons_of_ne_nil (Decimal.decimalDigits_ne_nil n)
  have hc : c.isDigit = true := hd c (by simp [hcs])
  constructor
  · intro depth fuel tail
    have hspan := span_append (d := '\n') tail (fun c h => isScalarChar_of_isDigit (hd c h))
      (by decide)
    have hbare : bare? (decimalDigits n ++ '\n' :: tail) = some (.integer n, '\n' :: tail) := by
      rw [bare?, hspan]
      dsimp only
      rw [scalar?_decimalDigits]
      cases isDate (decimalDigits n) <;> rfl
    rw [hcs, List.cons_append] at hbare ⊢
    have hopening : ∀ d ∈ ['"', '\'', '[', '\x7b'], d.isDigit = false := by simp
    have hne := fun d hd => ne_of_passes hc (hopening d hd)
    rw [value?, hbare]
    all_goals simp [hne]
  · refine ⟨c, more, hcs, ?_⟩
    have hblanks : ∀ d ∈ [' ', '\t'], d.isDigit = false := by simp
    have hne := fun d hd => ne_of_passes hc (hblanks d hd)
    simp [isWs, hne]

/-! ## Keys -/

theorem skipWs_of_head {c : Char} (cs : List Char) (h : isWs c = false) :
    skipWs (c :: cs) = c :: cs := List.dropWhile_cons_of_neg (by simp [h])

theorem isWs_of_isKeyChar {c : Char} (h : isKeyChar c = true) : isWs c = false := by
  have hblank := ne_of_passes (d := ' ') h (by decide)
  have htab := ne_of_passes (d := '\t') h (by decide)
  simp [isWs, hblank, htab]

theorem keyPart?_bare {key : String} (h : IsBare key) (rest : List Char) :
    keyPart? (key.toList ++ ' ' :: rest) = some (key, ' ' :: rest) := by
  obtain ⟨hne, hchars⟩ := h
  have hspan := span_append (d := ' ') rest hchars (by decide)
  have hkey := String.ofList_toList (s := key)
  generalize key.toList = cs at *
  cases cs with
  | nil => contradiction
  | cons c cs =>
    have hdouble := ne_of_passes (d := '"') (hchars c List.mem_cons_self) (by decide)
    have hsingle := ne_of_passes (d := '\'') (hchars c List.mem_cons_self) (by decide)
    rw [List.cons_append] at hspan ⊢
    rw [keyPart?]
    · rw [hspan, ← hkey]
    all_goals simp [hdouble, hsingle]

theorem key?_bare {key : String} (h : IsBare key) (rest : List Char) :
    key? (key.toList ++ ' ' :: '=' :: rest) = some ([key], '=' :: rest) := by
  have hpart := keyPart?_bare h ('=' :: rest)
  have hskip : skipWs (key.toList ++ ' ' :: '=' :: rest) = key.toList ++ ' ' :: '=' :: rest := by
    obtain ⟨c, cs, hcs⟩ := List.exists_cons_of_ne_nil h.1
    rw [hcs]
    exact skipWs_of_head _ (isWs_of_isKeyChar (h.2 c (by simp [hcs])))
  rw [key?, pathLimit, keyPath?, hskip, hpart]
  rfl

/-! ## Lines -/

/-- A line that binds a key to a value, with the text the value is written as. -/
structure Binding where
  key : String
  text : String
  item : Item

namespace Binding

def chars (b : Binding) : List Char := (line b.key b.text).toList

structure Reads (b : Binding) : Prop where
  bare : IsBare b.key
  writes : WritesItem b.text.toList b.item

def entry (b : Binding) : String × Item := (b.key, b.item)

theorem chars_eq (b : Binding) :
    b.chars = b.key.toList ++ ' ' :: '=' :: ' ' :: (b.text.toList ++ ['\n']) := by
  simp [chars, line]

theorem Reads.head {b : Binding} (h : b.Reads) :
    ∃ c more, b.chars = c :: more ∧ isKeyChar c = true := by
  obtain ⟨c, cs, hcs⟩ := List.exists_cons_of_ne_nil h.bare.1
  exact ⟨c, _, by rw [chars_eq, hcs]; rfl, h.bare.2 c (by simp [hcs])⟩

end Binding

theorem endLine?_newline (rest : List Char) : endLine? ('\n' :: rest) = some rest := by
  rw [endLine?, skipWs_of_head _ (by decide)]
  rfl

theorem line?_binding {b : Binding} (h : b.Reads) {root : Entries} (hnew : root.get? b.key = none)
    (rest : List Char) :
    line? ⟨root, []⟩ (b.chars ++ rest) = some (⟨root ++ [b.entry], []⟩, rest) := by
  have hkey := key?_bare h.bare (' ' :: (b.text.toList ++ '\n' :: rest))
  have hskip : skipWs (' ' :: (b.text.toList ++ '\n' :: rest)) = b.text.toList ++ '\n' :: rest := by
    obtain ⟨c, more, htext, hc⟩ := h.writes.head
    rw [htext]
    exact skipWs_of_head _ hc
  have hadd : addPath? [b.key] b.item root = some (root ++ [b.entry]) := by
    simp [addPath?, splitLast, addDotted?, Entries.add?, hnew, Binding.entry]
  have hchars : b.chars ++ rest =
      b.key.toList ++ ' ' :: '=' :: ' ' :: (b.text.toList ++ '\n' :: rest) := by
    rw [Binding.chars_eq]
    simp
  obtain ⟨c, cs, hcs, hc⟩ := h.head
  have hbracket := ne_of_passes (d := '[') hc (by decide)
  rw [← hchars] at hkey
  rw [hcs, List.cons_append] at hkey ⊢
  rw [line?]
  · simp only [hkey, hskip, h.writes.read, bind, Option.bind, changeAt?, hadd, endLine?_newline]
    rfl
  all_goals simp [hbracket]

theorem skipAll?_nil : skipAll? [] = some [] := rfl

theorem skipAll?_of_key {c : Char} (cs : List Char) (h : isKeyChar c = true) :
    skipAll? (c :: cs) = some (c :: cs) := by
  have hnewline := ne_of_passes (d := '\n') h (by decide)
  have hreturn := ne_of_passes (d := '\r') h (by decide)
  have hmark := ne_of_passes (d := '#') h (by decide)
  rw [skipAll?, skipLines?, skipWs_of_head _ (isWs_of_isKeyChar h)]
  split <;> simp_all

theorem get?_eq_none {entries : Entries} {key : String} (h : key ∉ entries.map Prod.fst) :
    entries.get? key = none := by
  simp only [Entries.get?, Option.map_eq_none_iff, List.find?_eq_none, beq_iff_eq]
  intro e he hkey
  exact h (List.mem_map.2 ⟨e, he, hkey⟩)

theorem lines?_bindings {bs : List Binding} (h : ∀ b ∈ bs, b.Reads) (root : Entries)
    (hnew : (root.map Prod.fst ++ bs.map Binding.key).Nodup) {fuel : Nat}
    (hfuel : bs.length < fuel) :
    lines? fuel ⟨root, []⟩ (bs.flatMap Binding.chars) = some (root ++ bs.map Binding.entry) := by
  induction bs generalizing root fuel with
  | nil =>
    obtain ⟨fuel, rfl⟩ : ∃ n, fuel = n + 1 := ⟨fuel - 1, by simp at hfuel; omega⟩
    simp [lines?, skipAll?_nil]
  | cons b bs ih =>
    obtain ⟨fuel, rfl⟩ : ∃ n, fuel = n + 1 := ⟨fuel - 1, by omega⟩
    have hb := h b List.mem_cons_self
    have hkey : root.get? b.key = none := by
      apply get?_eq_none
      intro hm
      exact (List.nodup_append.1 hnew).2.2 _ hm _ (by simp) rfl
    have hfuel : bs.length < fuel := by simpa using hfuel
    have htail := ih (fun b' hb' => h b' (List.mem_cons_of_mem b hb')) (root ++ [b.entry])
      (by simpa [Binding.entry] using hnew) hfuel
    have hline := line?_binding hb hkey (bs.flatMap Binding.chars)
    obtain ⟨c, cs, hcs, hc⟩ := hb.head
    rw [List.flatMap_cons, lines?]
    rw [hcs, List.cons_append] at hline ⊢
    rw [skipAll?_of_key _ hc]
    simp only [bind, Option.bind, hline]
    rw [htail]
    simp

theorem parse?_bindings {text : String} {bs : List Binding} (h : ∀ b ∈ bs, b.Reads)
    (hkeys : (bs.map Binding.key).Nodup) (htext : text.toList = bs.flatMap Binding.chars) :
    parse? text = some (bs.map Binding.entry) := by
  have hlength : bs.length ≤ (bs.flatMap Binding.chars).length := by
    clear hkeys htext
    induction bs with
    | nil => simp
    | cons b bs ih =>
      obtain ⟨c, cs, hcs, -⟩ := (h b List.mem_cons_self).head
      have ih := ih fun b' hb' => h b' (List.mem_cons_of_mem b hb')
      simp only [List.flatMap_cons, List.length_append, hcs, List.length_cons]
      omega
  have hmark : ∀ rest, text.toList ≠ '\ufeff' :: rest := by
    intro rest hrest
    cases bs with
    | nil => simp [hrest] at htext
    | cons b bs =>
      obtain ⟨c, cs, hcs, hc⟩ := (h b List.mem_cons_self).head
      rw [hrest, List.flatMap_cons, hcs] at htext
      cases htext
      exact absurd hc (by decide)
  have hlines := lines?_bindings h [] (by simpa using hkeys) (Nat.lt_succ_of_le hlength)
  unfold parse?
  split
  · rename_i rest hrest
    exact absurd hrest (hmark rest)
  · rw [htext]
    exact hlines

end Assay.Toml
