import Assay.Proofs.Text.Printed

/-!
# Blanks around bytes

A sequence in progress waits for bytes of one range, and no character begins with
a byte of that range. So reading splits in front of every text that was written
as bytes, even where the bytes before it break off inside a character. Blanks
that are written around any bytes come out as blanks around their text, and are
trimmed away with those that were there before.
-/

set_option autoImplicit false

namespace Assay.Text

/-! ## Where reading splits -/

def Continues (b : UInt8) : Prop := 0x80 ≤ b ∧ b ≤ 0xbf

/-- A sequence in progress takes only bytes that go on with a character. -/
def Partial.Bounded (p : Partial) : Prop := 0x80 ≤ p.least ∧ p.greatest ≤ 0xbf

theorem bounded_of_opening {b : UInt8} {p : Partial} (h : opening b = .sequence p) :
    p.Bounded := by
  unfold opening at h
  dsimp only at h
  repeat' split at h
  all_goals cases h
  all_goals simp [Partial.Bounded]

section Splitting

variable {more : List UInt8} (hmore : ∀ b ∈ more.head?, ¬Continues b)
include hmore

/-- A sequence in progress is broken off where a text begins. -/
theorem scalarsFrom_breaks {p : Partial} (hp : p.Bounded) :
    scalarsFrom (some p) more = none :: scalarsFrom none more := by
  cases more with
  | nil => rfl
  | cons b bs =>
    have hout : ¬(p.least ≤ b ∧ b ≤ p.greatest) := fun h =>
      hmore b rfl ⟨UInt8.le_trans hp.1 h.1, UInt8.le_trans h.2 hp.2⟩
    simp only [scalarsFrom, if_neg hout]
    cases opening b <;> rfl

theorem scalarsFrom_append (bs : List UInt8) {state : Option Partial}
    (hstate : ∀ p ∈ state, p.Bounded) :
    scalarsFrom state (bs ++ more) = scalarsFrom state bs ++ scalarsFrom none more := by
  induction bs generalizing state with
  | nil =>
    cases state with
    | none => rfl
    | some p => exact scalarsFrom_breaks hmore (hstate p rfl)
  | cons b bs ih =>
    have hnone : scalarsFrom none (bs ++ more) = scalarsFrom none bs ++ scalarsFrom none more :=
      ih (by simp)
    have hopened {p : Partial} (h : opening b = .sequence p) :
        scalarsFrom (some p) (bs ++ more) = scalarsFrom (some p) bs ++ scalarsFrom none more :=
      ih (by simpa using bounded_of_opening h)
    have htaken (left bits : Nat) : scalarsFrom (some ⟨left, 0x80, 0xbf, bits⟩) (bs ++ more) =
        scalarsFrom (some ⟨left, 0x80, 0xbf, bits⟩) bs ++ scalarsFrom none more :=
      ih (by simp [Partial.Bounded])
    cases state with
    | none =>
      rw [List.cons_append, scalarsFrom, scalarsFrom]
      cases hb : opening b with
      | char c => simp only [hnone, List.cons_append]
      | sequence p => exact hopened hb
      | unreadable => simp only [hnone, List.cons_append]
    | some p =>
      rw [List.cons_append, scalarsFrom, scalarsFrom]
      split_ifs
      · simp only [hnone, List.cons_append]
      · exact htaken _ _
      · cases hb : opening b with
        | char c => simp only [hnone, List.cons_append]
        | sequence q => simp only [hopened hb, List.cons_append]
        | unreadable => simp only [hnone, List.cons_append]

end Splitting

/-- The first byte of a character is below those that go on with one, or above them. -/
theorem utf8EncodeChar_eq_cons (c : Char) : ∃ n more,
    String.utf8EncodeChar c = UInt8.ofNat n :: more ∧ (n < 0x80 ∨ 0xc0 ≤ n ∧ n < 0x100) := by
  have hvalid : c.val.toNat < 0xd800 ∨ 0xdfff < c.val.toNat ∧ c.val.toNat < 0x110000 := c.valid
  unfold String.utf8EncodeChar
  dsimp only
  split_ifs <;> exact ⟨_, _, rfl, by omega⟩

theorem not_continues_of_encode (s : String) : ∀ b ∈ (encode s).head?, ¬Continues b := by
  intro b hb
  rw [encode_eq] at hb
  cases hs : s.toList with
  | nil => simp [hs] at hb
  | cons c cs =>
    obtain ⟨n, more, hc, hn⟩ := utf8EncodeChar_eq_cons c
    rw [hs, List.flatMap_cons, hc, List.cons_append, List.head?_cons, Option.mem_some] at hb
    rw [Continues, UInt8.le_iff_toNat_le, UInt8.le_iff_toNat_le, ← hb, toNat_ofNat (by omega)]
    change ¬(0x80 ≤ n ∧ n ≤ 0xbf)
    omega

theorem scalars_append_encode (bs : List UInt8) (s : String) :
    scalars (bs ++ encode s) = scalars bs ++ s.toList.map some := by
  rw [scalars, scalarsFrom_append (not_continues_of_encode s) bs (by simp)]
  exact congrArg _ (scalars_encode s)

theorem scalars_encode_append (s : String) (bs : List UInt8) :
    scalars (encode s ++ bs) = s.toList.map some ++ scalars bs := by
  rw [encode_eq, scalars]
  induction s.toList with
  | nil => rfl
  | cons c cs ih =>
    rw [List.flatMap_cons, List.append_assoc, scalarsFrom_utf8EncodeChar, ih, List.map_cons]
    rfl

theorem decodeLossy_between (before after : String) (bs : List UInt8) :
    decodeLossy (encode before ++ bs ++ encode after) =
      before.toList ++ decodeLossy bs ++ after.toList := by
  unfold decodeLossy
  rw [scalars_append_encode, scalars_encode_append]
  simp [Function.comp_def]

/-! ## What trimming leaves -/

def Unpadded (cs : List Char) : Prop :=
  (∀ c ∈ cs.head?, isBlank c = false) ∧ ∀ c ∈ cs.getLast?, isBlank c = false

structure Trimmed (text whole : List Char) : Prop where
  unpadded : Unpadded text
  blanks : ∃ before after, whole = before ++ text ++ after ∧
    ∀ c ∈ before ++ after, isBlank c = true

theorem trimChars_of_unpadded {cs : List Char} (h : Unpadded cs) : trimChars cs = cs := by
  have hreverse : cs.reverse.dropWhile isBlank = cs.reverse :=
    trimStart_of_head (by simpa using h.2)
  rw [trimChars, trimStart_of_head h.1, trimEnd, hreverse, List.reverse_reverse]

theorem unpadded_trimChars (cs : List Char) : Unpadded (trimChars cs) := by
  refine ⟨head_trimChars cs, fun c hc => ?_⟩
  have hnot := List.head?_dropWhile_not isBlank (trimStart cs).reverse
  rw [trimChars, trimEnd, List.getLast?_reverse, Option.mem_def] at hc
  simpa [hc] using hnot

theorem trimEnd_append_takeWhile (cs : List Char) :
    trimEnd cs ++ (cs.reverse.takeWhile isBlank).reverse = cs := by
  rw [trimEnd, ← List.reverse_append, List.takeWhile_append_dropWhile, List.reverse_reverse]

theorem trimmed_iff (text whole : List Char) : Trimmed text whole ↔ text = trimChars whole := by
  constructor
  · rintro ⟨hunpadded, before, after, rfl, hblanks⟩
    rw [trimChars_between (fun c hc => hblanks c (List.mem_append_left _ hc))
      (fun c hc => hblanks c (List.mem_append_right _ hc)), trimChars_of_unpadded hunpadded]
  · rintro rfl
    refine ⟨unpadded_trimChars whole, whole.takeWhile isBlank,
      ((trimStart whole).reverse.takeWhile isBlank).reverse, ?_, fun c hc => ?_⟩
    · rw [trimChars, List.append_assoc, trimEnd_append_takeWhile, trimStart,
        List.takeWhile_append_dropWhile]
    · rcases List.mem_append.mp hc with hc | hc
      · exact List.mem_takeWhile_imp hc
      · exact List.mem_takeWhile_imp (List.mem_reverse.mp hc)

end Assay.Text
