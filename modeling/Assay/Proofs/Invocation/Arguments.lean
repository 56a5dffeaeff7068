import Assay.Invocation.Interpreter
import Assay.Proofs.Binary64.Range
import Assay.Proofs.Binary64.RoundTrip

/-!
# Arguments tell what they stand for

An interpreter is given texts and no kinds. For values that are no texts this
loses nothing: the words of the truths are no numerals, the text of an integer
is a numeral without a fraction and without an exponent, and that of a finite
number has one of them and leads back to the number.
-/

set_option autoImplicit false

namespace Assay

open Json (Numeral NumeralAt)

def signText (negative : Bool) : List Char := if negative then ['-'] else []

theorem Json.NumeralAt.unique {s t : Bool} {cs ds : List Char} {n m : Numeral}
    (hn : NumeralAt s cs n []) (hm : NumeralAt t ds m [])
    (h : signText s ++ cs = signText t ++ ds) : n = m := by
  have hsame : s = t ∧ cs = ds := by
    obtain ⟨c, more, rfl, hc⟩ := hn.starts_with_digit
    obtain ⟨d, others, rfl, hd⟩ := hm.starts_with_digit
    cases s <;> cases t
    · exact ⟨rfl, h⟩
    · obtain rfl : c = '-' := (List.cons.inj h).1
      cases hc
    · obtain rfl : '-' = d := (List.cons.inj h).1
      cases hd
    · exact ⟨rfl, (List.cons.inj h).2⟩
  obtain ⟨rfl, rfl⟩ := hsame
  have hscan := Json.scanNumeral_of_at hn Json.stops_nil
  rw [Json.scanNumeral_of_at hm Json.stops_nil] at hscan
  cases hscan
  rfl

namespace Value

def numeralOf (z : Int) : Numeral := ⟨decide (z < 0), decimalDigits z.natAbs, [], none⟩

theorem integer_numeral (z : Int) : ∃ cs, (toString z).toList = signText (decide (z < 0)) ++ cs ∧
    NumeralAt (decide (z < 0)) cs (numeralOf z) [] :=
  ⟨_, Binary64.toList_toString z, Binary64.decimalDigits_at _ _⟩

theorem numeralOf_injective {z w : Int} (h : numeralOf z = numeralOf w) : z = w := by
  rw [numeralOf, numeralOf, Numeral.mk.injEq] at h
  obtain ⟨hsign, hdigits, -⟩ := h
  have habs := congrArg digitsValue hdigits
  rw [digitsValue_decimalDigits, digitsValue_decimalDigits] at habs
  rw [decide_eq_decide] at hsign
  omega

theorem toString_injective {z w : Int} (h : toString z = toString w) : z = w := by
  obtain ⟨cs, hcs, hat⟩ := integer_numeral z
  obtain ⟨ds, hds, hat'⟩ := integer_numeral w
  have htext : signText (decide (z < 0)) ++ cs = signText (decide (w < 0)) ++ ds := by
    rw [← hcs, ← hds, h]
  exact numeralOf_injective (hat.unique hat' htext)

theorem toString_ne_toText (i : Int64) (x : Binary64) : toString i.toInt ≠ x.toText := by
  intro h
  -- What is read from both texts is finite, as the integer is.
  have hread := Binary64.ofText?_toText x
  rw [← h, Binary64.ofText?_toString, Option.some_inj] at hread
  have hsmall : i.toInt.natAbs ≤ 2 ^ 64 := by
    have hlow := i.le_toInt
    have hhigh := i.toInt_lt
    omega
  have hfinite := Binary64.isFinite_ofInt hsmall
  rw [hread] at hfinite
  cases x with
  | nan => cases hfinite
  | inf s => cases hfinite
  | finite s r =>
    obtain ⟨cs, hcs, hat⟩ := integer_numeral i.toInt
    obtain ⟨ds, n, hds, hat', hmarked, -⟩ :=
      Binary64.exists_numeral_render Layout.text_marked s r
    have htext : signText (decide (i.toInt < 0)) ++ cs = signText s ++ ds := by
      rw [← hcs, h, Binary64.toText, hds, signText]
    rw [← hat.unique hat' htext] at hmarked
    simp [numeralOf] at hmarked

def IsPlain : Value → Prop
  | bool _ => True
  | integer _ => True
  | float x => x ≠ .nan
  | text _ => False

instance (v : Value) : Decidable v.IsPlain := by
  cases v <;> unfold IsPlain <;> infer_instance

/-- The text of a plain value is read as its number; the words of the truths are read as none. -/
theorem ofText?_toText_of_isPlain {v : Value} (hv : v.IsPlain) :
    Binary64.ofText? v.toText.toList = v.number? := by
  cases v with
  | bool b => cases b <;> decide
  | integer i => exact Binary64.ofText?_toString i.toInt
  | float x => exact Binary64.ofText?_toText x
  | text s => cases hv

theorem eq_of_toText_eq {v w : Value} (hv : v.IsPlain) (hw : w.IsPlain)
    (h : v.toText = w.toText) : v = w := by
  have hnumber : v.number? = w.number? := by
    rw [← ofText?_toText_of_isPlain hv, ← ofText?_toText_of_isPlain hw, h]
  cases v with
  | bool b =>
    cases w with
    | bool c => cases b <;> cases c <;> simp [toText] at h ⊢
    | integer j => cases hnumber
    | float y => cases hnumber
    | text s => cases hw
  | integer i =>
    cases w with
    | bool c => cases hnumber
    | integer j => rw [Int64.toInt_inj.1 (toString_injective h)]
    | float y => exact (toString_ne_toText i y h).elim
    | text s => cases hw
  | float x =>
    cases w with
    | bool c => cases hnumber
    | integer j => exact (toString_ne_toText j x h.symm).elim
    | float y => rw [Option.some.inj hnumber]
    | text s => cases hw
  | text s => cases hv

theorem eq_of_map_toText_eq {vs ws : List Value} (hvs : ∀ v ∈ vs, v.IsPlain)
    (hws : ∀ w ∈ ws, w.IsPlain) (h : vs.map toText = ws.map toText) : vs = ws := by
  induction vs generalizing ws with
  | nil => exact (List.map_eq_nil_iff.1 h.symm).symm
  | cons v vs ih =>
    cases ws with
    | nil => cases h
    | cons w ws =>
      obtain ⟨hhead, htail⟩ := List.cons.inj h
      rw [List.forall_mem_cons] at hvs hws
      rw [eq_of_toText_eq hvs.1 hws.1 hhead, ih hvs.2 hws.2 htail]

end Value

/-- Whatever is started is given the place of the program file, and after it one text for each
value, in their order. Where the values are no texts and not NaN, these texts tell the values: other
values, or values of other kinds, are never handed over in the same way. -/
theorem arguments_tell_their_values (i : Interpreter) (file file' : String) (vs ws : List Value)
    (hvs : ∀ v ∈ vs, v.IsPlain) (hws : ∀ w ∈ ws, w.IsPlain) :
    (∀ spawn h, i.invoker spawn file vs h =
      ((Outcome.ofEvents (spawn (i.request (file, vs)) h).1), (spawn (i.request (file, vs)) h).2)) ∧
    (i.request (file, vs)).arguments = i.source file :: vs.map Value.toText ∧
    ((i.request (file, vs)).arguments = (i.request (file', ws)).arguments ↔
      i.source file = i.source file' ∧ vs = ws) := by
  refine ⟨fun _ _ => rfl, rfl, ?_, ?_⟩
  · intro h
    obtain ⟨hsource, htexts⟩ := List.cons.inj h
    exact ⟨hsource, Value.eq_of_map_toText_eq hvs hws htexts⟩
  · rintro ⟨hsource, rfl⟩
    exact congrArg (· :: vs.map Value.toText) hsource

/-- The two zeros, a whole number beside the integer, and a truth beside both. -/
theorem zeros_and_whole_numbers_are_told_apart :
    let i : Interpreter := ⟨"/bin/goth", "/project", 1000⟩
    let one : Binary64 := Binary64.ofInt 1
    let arguments (vs : List Value) : List String := (i.request ("a.goth", vs)).arguments
    (arguments [.float (.zero false), .integer 1]).length = 3 ∧
      arguments [.float (.zero false), .integer 1] ≠ arguments [.float (.zero true), .integer 1] ∧
      arguments [.float (.zero false), .integer 1] ≠ arguments [.float (.zero false), .float one] ∧
      arguments [.float (.zero false), .integer 1] ≠ arguments [.integer 0, .bool true] := by
  intro i one arguments
  have apart {vs ws : List Value} (hvs : ∀ v ∈ vs, v.IsPlain) (hws : ∀ w ∈ ws, w.IsPlain)
      (hne : vs ≠ ws) : arguments vs ≠ arguments ws := fun h =>
    hne ((arguments_tell_their_values i "a.goth" "a.goth" vs ws hvs hws).2.2.1 h).2
  refine ⟨rfl, apart ?_ ?_ ?_, apart ?_ ?_ ?_, apart ?_ ?_ ?_⟩
  all_goals decide +kernel

end Assay
