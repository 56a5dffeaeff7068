import Mathlib.Data.List.DropRight
import Mathlib.Tactic.SplitIfs
import Assay.Invocation.Capture

/-!
# Printed text is read back

The first byte of a character opens a sequence, and each of its other bytes is
one that the sequence waits for, so the character comes out whole. What is
encoded is therefore decoded to itself, and nothing of it is unreadable. Blanks
around it are trimmed away, however many there are.

Texts are ordered by their characters and so are their bytes: a character with more
bytes has a greater first byte, and among those with the same number of bytes the
digits to base 64 decide one after the other.
-/

set_option autoImplicit false

namespace Assay.Text

/-! ## Bytes of a text -/

theorem byteArray_loop (bytes : ByteArray) (i : Nat) (read : List UInt8) :
    ByteArray.toList.loop bytes i read = read.reverse ++ bytes.data.toList.drop i := by
  fun_induction ByteArray.toList.loop bytes i read with
  | case1 i read h ih =>
    have hi : i < bytes.data.toList.length := by simpa using h
    rw [ih, List.drop_eq_getElem_cons hi]
    simp [ByteArray.get!, h]
  | case2 i read h =>
    rw [List.drop_eq_nil_of_le (by simpa using Nat.le_of_not_lt h), List.append_nil]

theorem encode_eq (s : String) : encode s = s.toList.flatMap String.utf8EncodeChar := by
  have hlist : encode s = s.toByteArray.data.toList := by
    rw [encode, String.toUTF8_eq_toByteArray, ByteArray.toList, byteArray_loop]
    rfl
  rw [hlist, ← String.utf8Encode_toList, List.utf8Encode, List.toList_data_toByteArray]

theorem encode_ne_nil {s : String} (hs : s ≠ "") : encode s ≠ [] := by
  have hcs : s.toList ≠ [] := by simpa using hs
  obtain ⟨c, cs, hcs⟩ := List.exists_cons_of_ne_nil hcs
  rw [encode_eq, hcs, List.flatMap_cons]
  simp

theorem toNat_ofNat {n : Nat} (h : n < 0x100) : (UInt8.ofNat n).toNat = n :=
  UInt8.toNat_ofNat_of_lt' h

/-! ## Order of bytes -/

theorem byte_cons_lt_iff {m n : Nat} (hm : m < 0x100) (hn : n < 0x100) (bs bs' : List UInt8) :
    UInt8.ofNat m :: bs < UInt8.ofNat n :: bs' ↔ m < n ∨ m = n ∧ bs < bs' := by
  have heq : UInt8.ofNat m = UInt8.ofNat n ↔ m = n := by
    rw [← UInt8.toNat_inj, toNat_ofNat hm, toNat_ofNat hn]
  rw [List.cons_lt_cons_iff, UInt8.lt_iff_toNat_lt, toNat_ofNat hm, toNat_ofNat hn, heq]

theorem utf8EncodeChar_lt {c d : Char} (h : c < d) (bs bs' : List UInt8) :
    String.utf8EncodeChar c ++ bs < String.utf8EncodeChar d ++ bs' := by
  have hlt : c.val.toNat < d.val.toNat := h
  have hvalid : d.val.toNat < 0xd800 ∨ 0xdfff < d.val.toNat ∧ d.val.toNat < 0x110000 := d.valid
  unfold String.utf8EncodeChar
  dsimp only
  generalize c.val.toNat = m at *
  generalize d.val.toNat = n at *
  -- Each digit to base 64 is taken off the one before it.
  have hsecond (k : Nat) : k / 4096 = k / 64 / 64 := (Nat.div_div_eq_div_mul k 64 64).symm
  have hthird (k : Nat) : k / 262144 = k / 64 / 64 / 64 := by
    rw [Nat.div_div_eq_div_mul, Nat.div_div_eq_div_mul]
  simp only [hsecond, hthird]
  split_ifs
  all_goals
    simp only [List.cons_append, List.nil_append]
    simp (disch := omega) only [byte_cons_lt_iff]
    omega

theorem encode_lt {a b : String} (h : a < b) : encode a < encode b := by
  rw [encode_eq, encode_eq]
  have hlt : a.toList < b.toList := h
  generalize a.toList = cs at *
  generalize b.toList = ds at *
  induction cs generalizing ds with
  | nil =>
    cases ds with
    | nil => exact absurd hlt (List.lt_irrefl [])
    | cons d ds =>
      obtain ⟨b, bs, hbytes⟩ :=
        List.exists_cons_of_ne_nil (l := (d :: ds).flatMap String.utf8EncodeChar) (by simp)
      rw [hbytes, List.flatMap_nil]
      exact List.nil_lt_cons _ _
  | cons c cs ih =>
    cases ds with
    | nil => exact absurd hlt (List.not_lt_nil _)
    | cons d ds =>
      rw [List.flatMap_cons, List.flatMap_cons]
      rcases List.cons_lt_cons_iff.1 hlt with hcd | ⟨rfl, hrest⟩
      · exact utf8EncodeChar_lt hcd _ _
      · exact List.append_left_lt (ih ds hrest)

/-! ## Sequences -/

section Sequences

variable (bs : List UInt8)

theorem scalarsFrom_opens {n : Nat} {p : Partial} (h : opening (UInt8.ofNat n) = .sequence p) :
    scalarsFrom none (UInt8.ofNat n :: bs) = scalarsFrom (some p) bs := by
  rw [scalarsFrom, h]

/-- A byte within the bounds of a sequence takes it on by six bits. -/
theorem scalarsFrom_next {k bits m : Nat} {least greatest : UInt8}
    (hlow : least.toNat ≤ m % 0x40 + 0x80) (hhigh : m % 0x40 + 0x80 ≤ greatest.toNat) :
    scalarsFrom (some ⟨k + 1, least, greatest, bits⟩) (UInt8.ofNat (m % 0x40 + 0x80) :: bs) =
      if k = 0 then some (Char.ofNat (bits * 0x40 + m % 0x40)) :: scalarsFrom none bs
      else scalarsFrom (some ⟨k, 0x80, 0xbf, bits * 0x40 + m % 0x40⟩) bs := by
  have hvalue := toNat_ofNat (show m % 0x40 + 0x80 < 0x100 by omega)
  have hwithin : least ≤ UInt8.ofNat (m % 0x40 + 0x80) ∧
      UInt8.ofNat (m % 0x40 + 0x80) ≤ greatest := by
    rw [UInt8.le_iff_toNat_le, UInt8.le_iff_toNat_le, hvalue]
    exact ⟨hlow, hhigh⟩
  have hbits : (m % 0x40 + 0x80) % 0x40 = m % 0x40 := by omega
  have hlast : k + 1 ≤ 1 ↔ k = 0 := by omega
  rw [scalarsFrom, if_pos hwithin, hvalue, hbits]
  simp only [hlast, Nat.add_sub_cancel]

end Sequences

theorem opening_two {n : Nat} (hlow : 0xc2 ≤ n) (hhigh : n < 0xe0) :
    opening (UInt8.ofNat n) = .sequence ⟨1, 0x80, 0xbf, n % 0x20⟩ := by
  simp only [opening, toNat_ofNat (show n < 0x100 by omega)]
  rw [if_neg (by omega), if_neg (by omega), if_pos hhigh]

/-- The first byte of three keeps out what two bytes could hold, and the surrogates. -/
theorem opening_three {n : Nat} (hlow : 0xe0 ≤ n) (hhigh : n < 0xf0) :
    opening (UInt8.ofNat n) = .sequence ⟨2, if n = 0xe0 then 0xa0 else 0x80,
      if n = 0xed then 0x9f else 0xbf, n % 0x10⟩ := by
  simp only [opening, toNat_ofNat (show n < 0x100 by omega)]
  rw [if_neg (by omega), if_neg (by omega), if_neg (by omega)]
  split_ifs <;> simp_all

/-- The first byte of four keeps out what three bytes could hold, and what is no scalar. -/
theorem opening_four {n : Nat} (hlow : 0xf0 ≤ n) (hhigh : n < 0xf5) :
    opening (UInt8.ofNat n) = .sequence ⟨3, if n = 0xf0 then 0x90 else 0x80,
      if n = 0xf4 then 0x8f else 0xbf, n % 0x8⟩ := by
  simp only [opening, toNat_ofNat (show n < 0x100 by omega)]
  rw [if_neg (by omega), if_neg (by omega), if_neg (by omega), if_neg (by omega), if_neg (by omega)]
  split_ifs <;> simp_all <;> omega

theorem scalarsFrom_utf8EncodeChar (c : Char) (bs : List UInt8) :
    scalarsFrom none (String.utf8EncodeChar c ++ bs) = some c :: scalarsFrom none bs := by
  have hvalid : c.val.toNat < 0xd800 ∨ 0xdfff < c.val.toNat ∧ c.val.toNat < 0x110000 := c.valid
  have hchar (m : Nat) (hm : m = c.val.toNat) : Char.ofNat m = c := by
    rw [hm]
    exact Char.ofNat_toNat c
  unfold String.utf8EncodeChar
  dsimp only
  generalize c.val.toNat = v at *
  -- One case for each number of bytes that a character may take.
  split_ifs with hone htwo hthree
  · have hvalue := toNat_ofNat (show v < 0x100 by omega)
    simp only [List.cons_append, List.nil_append, scalarsFrom, opening, hvalue]
    rw [if_pos (by omega), hchar v rfl]
  · simp only [List.cons_append, List.nil_append]
    rw [scalarsFrom_opens _ (opening_two (by omega) (by omega)),
      scalarsFrom_next _ (by simp) (by simp; omega), if_pos rfl, hchar _ (by omega)]
  · have hlow : (if v / 4096 % 16 + 224 = 0xe0 then (0xa0 : UInt8) else 0x80).toNat ≤
        v / 64 % 64 + 128 := by
      split
      · simp
        omega
      · simp
    have hhigh : v / 64 % 64 + 128 ≤
        (if v / 4096 % 16 + 224 = 0xed then (0x9f : UInt8) else 0xbf).toNat := by
      split <;> simp <;> omega
    simp only [List.cons_append, List.nil_append]
    rw [scalarsFrom_opens _ (opening_three (by omega) (by omega)), scalarsFrom_next _ hlow hhigh,
      if_neg (by decide), scalarsFrom_next _ (by simp) (by simp; omega), if_pos rfl,
      hchar _ (by omega)]
  · have hlow : (if v / 262144 % 8 + 240 = 0xf0 then (0x90 : UInt8) else 0x80).toNat ≤
        v / 4096 % 64 + 128 := by
      split
      · simp
        omega
      · simp
    have hhigh : v / 4096 % 64 + 128 ≤
        (if v / 262144 % 8 + 240 = 0xf4 then (0x8f : UInt8) else 0xbf).toNat := by
      split <;> simp <;> omega
    simp only [List.cons_append, List.nil_append]
    rw [scalarsFrom_opens _ (opening_four (by omega) (by omega)), scalarsFrom_next _ hlow hhigh,
      if_neg (by decide), scalarsFrom_next _ (by simp) (by simp; omega), if_neg (by decide),
      scalarsFrom_next _ (by simp) (by simp; omega), if_pos rfl, hchar _ (by omega)]

theorem scalars_encode (s : String) : scalars (encode s) = s.toList.map some := by
  rw [encode_eq, scalars]
  induction s.toList with
  | nil => rfl
  | cons c cs ih => rw [List.flatMap_cons, scalarsFrom_utf8EncodeChar, ih, List.map_cons]

theorem decodeLossy_encode (s : String) : decodeLossy (encode s) = s.toList := by
  rw [decodeLossy, scalars_encode, List.map_map]
  exact List.map_id _

/-! ## Blanks around a text -/

section Blanks

variable {cs blanks : List Char} (h : ∀ c ∈ blanks, isBlank c = true)
include h

theorem trimStart_blanks_append : trimStart (blanks ++ cs) = trimStart cs :=
  List.dropWhile_append_of_pos h

theorem trimStart_blanks : trimStart blanks = [] := by
  have hnil : trimStart (blanks ++ []) = trimStart [] := trimStart_blanks_append h
  rwa [List.append_nil] at hnil

theorem trimEnd_append_blanks : trimEnd (cs ++ blanks) = trimEnd cs := by
  have hreverse : ∀ c ∈ blanks.reverse, isBlank c = true := by simpa using h
  rw [trimEnd, trimEnd, List.reverse_append, List.dropWhile_append_of_pos hreverse]

theorem trimChars_append_blanks : trimChars (cs ++ blanks) = trimChars cs := by
  have hsplit : trimStart (cs ++ blanks) =
      if (trimStart cs).isEmpty then trimStart blanks else trimStart cs ++ blanks :=
    List.dropWhile_append
  unfold trimChars
  rw [hsplit, trimStart_blanks h]
  split
  · rename_i hnil
    rw [List.isEmpty_iff.mp hnil]
  · exact trimEnd_append_blanks h

end Blanks

theorem trimStart_of_head {cs : List Char} (h : ∀ c ∈ cs.head?, isBlank c = false) :
    trimStart cs = cs := by
  cases cs with
  | nil => rfl
  | cons c cs => rw [trimStart, List.dropWhile_cons_of_neg (by simp [h c rfl])]

theorem head_trimChars (cs : List Char) : ∀ c ∈ (trimChars cs).head?, isBlank c = false := by
  intro c hc
  have hprefix : trimChars cs <+: trimStart cs := List.rdropWhile_prefix isBlank (trimStart cs)
  have hfirst : (trimStart cs).head? = some c := by
    obtain ⟨more, hmore⟩ := hprefix
    rw [← hmore, List.head?_append, Option.mem_def.mp hc]
    rfl
  have hnot := List.head?_dropWhile_not isBlank cs
  unfold trimStart at hfirst
  simpa [hfirst] using hnot

theorem trimChars_trimChars (cs : List Char) : trimChars (trimChars cs) = trimChars cs := by
  have hend : trimEnd (trimChars cs) = trimChars cs :=
    List.rdropWhile_idempotent isBlank (trimStart cs)
  rw [trimChars, trimStart_of_head (head_trimChars cs), hend]

theorem trimChars_between {before after : List Char} (hbefore : ∀ c ∈ before, isBlank c = true)
    (hafter : ∀ c ∈ after, isBlank c = true) (cs : List Char) :
    trimChars (before ++ cs ++ after) = trimChars cs := by
  rw [trimChars_append_blanks hafter, trimChars, trimStart_blanks_append hbefore, trimChars]

theorem lossyTrimmed_encode {before after : List Char} (s : String)
    (hbefore : ∀ c ∈ before, isBlank c = true) (hafter : ∀ c ∈ after, isBlank c = true) :
    Outcome.lossyTrimmed (encode (String.ofList (before ++ s.toList ++ after))) = trim s := by
  rw [Outcome.lossyTrimmed, decodeLossy_encode, String.toList_ofList,
    trimChars_between hbefore hafter, trim]

end Assay.Text
