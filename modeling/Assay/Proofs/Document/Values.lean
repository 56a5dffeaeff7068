import Assay.Proofs.Binary64.Exact
import Assay.Proofs.Document.Scaling

/-!
# Values and their JSON

What is written for a value is one token, from which the kind of the value has to
be told. Truth values, integers and texts come back as they were. A finite number
is written as a numeral with a point or an exponent, which is never taken for
anything but a number, and is always read, though perhaps as a neighbour. Of the
numerals without either the integers are those that fit, but for the negative zero,
and the others are numbers up to a bound.
-/

set_option autoImplicit false

namespace Assay

open Json
open Decimal (AllDigits)

namespace Json

theorem Spacing.compact_blank : Spacing.compact.Blank where
  opening := by simp [compact]
  between := ⟨[], rfl, by simp⟩
  closing := by simp [compact]
  afterKey := ⟨[], rfl, by simp⟩

theorem compact_spells (v : Json) : ∃ node, v.ShownBy node ∧ Spells v.compact.toList node := by
  obtain ⟨node, hshown, hspelled⟩ := render_spelled (fun _ => Spacing.compact_blank) v 0
  have hat := hspelled []
  rw [List.append_nil] at hat
  exact ⟨node, hshown, _, [], .here _, hat, .here _⟩

theorem spells_numeral {negative : Bool} {cs : List Char} {n : Numeral}
    (h : NumeralAt negative cs n []) :
    Spells ((if negative then ['-'] else []) ++ cs) (.number n) := by
  refine ⟨_, [], .here _, ?_, .here _⟩
  cases negative with
  | false => exact .plain h
  | true => exact .negative h

theorem NumeralAt.allDigits {negative : Bool} {cs rest : List Char} {n : Numeral}
    (h : NumeralAt negative cs n rest) : AllDigits n.whole ∧ AllDigits n.fraction := by
  cases h with
  | intro hd _ _ hfraction _ =>
    refine ⟨hd, ?_⟩
    cases hfraction with
    | absent => simp [AllDigits]
    | digits _ hdigits _ => exact hdigits

end Json

namespace Value

theorem ofJson_of_spells {text : String} {node : Node} (h : Spells text.toList node) :
    ofJson text = ofNode depthLimit node := by
  unfold ofJson decodeText
  rw [readText_of_spells h]
  dsimp only
  cases ofNode depthLimit node <;> rfl

theorem ofJson_of_presents {text : String} {node : Node} {v : Value} (h : Spells text.toList node)
    (hv : Presents node v) : ofJson text = .ok v := by
  rw [ofJson_of_spells h]
  exact (ofNode_accepts depthLimit node v).2 hv

theorem ofJson_of_lost {text : String} {n : Numeral} (h : Spells text.toList (.number n))
    (hn : n.value? = none) : ofJson text = .error .syntaxError := by
  rw [ofJson_of_spells h]
  unfold ofNode
  simp [Node.strict, readNumeral, hn]
  rfl

/-! ## Numbers -/

theorem upperEnd_readable :
    Binary64.upperEnd (rankCount - 2) = 2 * (unitsPerOne * readableBound) := by
  decide +kernel

theorem decimal_le_readableBound {tie : Tie} {rank : Nat} {d : Decimal}
    (hrank : rank ≤ rankCount - 2) (hsame : d.Same (Binary64.shortest tie rank)) :
    d.num ≤ readableBound * d.den := by
  have hcount : 2 ≤ rankCount := by decide
  rcases Nat.eq_zero_or_pos rank with rfl | hpos
  · have hnum : d.num * 1 = 0 * d.den := hsame
    rw [Nat.mul_one, Nat.zero_mul] at hnum
    simp [hnum]
  · have hin := Binary64.inInterval_of_same hsame.symm
      (Binary64.inInterval_shortest tie hpos (by omega))
    have hupper := ((Binary64.inInterval_iff rank d).mp hin).upper
    have htop : Binary64.upperEnd rank ≤ Binary64.upperEnd (rankCount - 2) :=
      Binary64.upperEnd_mono hrank
    have hle := hupper.trans (Nat.mul_le_mul_right _ htop)
    rw [upperEnd_readable, Nat.mul_assoc, Nat.mul_assoc] at hle
    exact Nat.le_of_mul_le_mul_left (Nat.le_of_mul_le_mul_left hle Nat.two_pos)
      Binary64.unitsPerOne_pos

def greatestNumeral (negative : Bool) : Numeral :=
  ⟨negative, ['1'], "7976931348623157".toList, some ⟨false, ['3', '0', '8']⟩⟩

theorem greatest_written :
    (Layout.json.magnitude (Binary64.shortest Layout.json.tie (rankCount - 1))).toList =
      "1.7976931348623157e+308".toList := by
  decide +kernel

theorem greatest_at (negative : Bool) :
    NumeralAt negative "1.7976931348623157e+308".toList (greatestNumeral negative) [] := by
  have hone : AllDigits ['1'] := by simp [AllDigits]
  have hdigits : AllDigits "7976931348623157".toList := by simp [AllDigits]
  have hthree : AllDigits ['3', '0', '8'] := by simp [AllDigits]
  have hfraction := FractionAt.digits ['e', '+', '3', '0', '8'] hdigits (by decide)
  have hexponent := @ExponentAt.marked 'e' ['+'] _ false [] (.inl rfl) (by decide) hthree
    (by decide)
  exact @NumeralAt.intro negative _ _ _ _ _ _ hone (by decide) (by decide) hfraction hexponent

theorem greatest_read (negative : Bool) :
    (greatestNumeral negative).nearest =
      .finite negative ⟨rankCount - 1, Nat.sub_lt Binary64.rankCount_pos Nat.one_pos⟩ ∧
    (greatestNumeral negative).float?.isSome := by
  cases negative <;> decide +kernel

theorem float_written (negative : Bool) (rank : Fin rankCount) : ∃ n : Numeral,
    Spells (Value.float (.finite negative rank)).toJson.compact.toList (.number n) ∧
      (n.fraction ≠ [] ∨ n.exponent ≠ none) ∧ n.nearest = .finite negative rank ∧
      n.float?.isSome := by
  have htext : (Value.float (.finite negative rank)).toJson.compact.toList =
      (if negative then ['-'] else []) ++
        (Layout.json.magnitude (Binary64.shortest Layout.json.tie rank)).toList := by
    show (Layout.json.render (.finite negative rank)).toList = _
    cases negative <;> simp [Layout.render]
  rw [htext]
  by_cases hrank : rank.val ≤ rankCount - 2
  · obtain ⟨n, hat, hsame, hmarked, hshape⟩ := Layout.magnitude_spells negative
      Layout.json_marked (Binary64.shortest Layout.json.tie rank)
    obtain ⟨hw, hf⟩ := hat.allDigits
    exact ⟨n, spells_numeral hat, hmarked, Binary64.nearest_of_same hat.negative_eq hsame,
      Numeral.isSome_float?_of_le hw hf (decimal_le_readableBound hrank hsame) hshape⟩
  · -- the greatest number lies beyond the bound, and is written in one way
    have hlast : rank = ⟨rankCount - 1, Nat.sub_lt Binary64.rankCount_pos Nat.one_pos⟩ := by
      apply Fin.ext
      have := rank.isLt
      dsimp only
      omega
    subst hlast
    rw [greatest_written]
    exact ⟨_, spells_numeral (greatest_at negative), .inl (by simp [greatestNumeral]),
      greatest_read negative⟩

/-! ## Literals of whole numbers -/

/-- A whole number as it may be spelled: a sign and digits, of which the first is a zero only if
it is the only one. -/
structure Literal where
  negative : Bool
  digits : List Char
  all : AllDigits digits
  ne_nil : digits ≠ []
  lead : digits.head? = some '0' → digits = ['0']

namespace Literal

def text (l : Literal) : String := String.ofList ((if l.negative then ['-'] else []) ++ l.digits)

def value (l : Literal) : Int :=
  if l.negative then -(digitsValue l.digits : Int) else digitsValue l.digits

def numeral (l : Literal) : Numeral := ⟨l.negative, l.digits, [], none⟩

/-- The number fits a signed word, and is not the negative zero. -/
def FitsInteger (l : Literal) : Prop :=
  Int64.minValue.toInt ≤ l.value ∧ l.value ≤ Int64.maxValue.toInt ∧
    ¬ (l.negative = true ∧ l.value = 0)

theorem natAbs_value (l : Literal) : l.value.natAbs = digitsValue l.digits := by
  unfold value
  split <;> simp

theorem spells (l : Literal) : Spells l.text.toList (.number l.numeral) := by
  have hat : NumeralAt l.negative (l.digits ++ []) l.numeral [] :=
    .intro l.all l.ne_nil l.lead (.absent []) (.absent [])
  rw [List.append_nil] at hat
  rw [text, String.toList_ofList]
  exact spells_numeral hat

theorem FitsInteger.toInt_ofInt {l : Literal} (h : l.FitsInteger) :
    (Int64.ofInt l.value).toInt = l.value :=
  Int64.toInt_ofInt_of_le h.1 (Int.lt_of_le_of_lt h.2.1 (by decide))

theorem value?_numeral (l : Literal) :
    (l.numeral.value? = some (.integer l.value) ∧ Int64.minValue.toInt ≤ l.value ∧
      l.value < 2 ^ 64 ∧ ¬ (l.negative = true ∧ l.value = 0)) ∨
    (l.numeral.value? = l.numeral.float?.map .float ∧ ¬ l.FitsInteger) := by
  have hmin : Int64.minValue.toInt = -2 ^ 63 := by decide
  have hmax : Int64.maxValue.toInt = 2 ^ 63 - 1 := by decide
  have hwordBound : wordBound = 2 ^ 64 := rfl
  have hpower : Nat.pow 2 63 = 2 ^ 63 := rfl
  unfold FitsInteger value Numeral.value? numeral
  rw [hmin, hmax]
  dsimp only
  cases l.negative with
  | true =>
    by_cases hfits : 0 < digitsValue l.digits ∧ digitsValue l.digits ≤ Nat.pow 2 63
    · left
      simp [hfits]
      omega
    · right
      simp [hfits]
      omega
  | false =>
    by_cases hfits : digitsValue l.digits < wordBound
    · left
      simp [hfits]
      omega
    · right
      simp [hfits]
      omega

theorem reads_scaled (l : Literal) (h : l.numeral.value? = l.numeral.float?.map .float) :
    (l.value.natAbs < literalBound →
      ∃ x, x.isFinite = true ∧ ofJson l.text = .ok (.float x)) ∧
    (literalBound ≤ l.value.natAbs → ofJson l.text = .error .syntaxError) := by
  have hsome : l.numeral.float?.isSome ↔ l.value.natAbs < literalBound := by
    rw [natAbs_value]
    exact Numeral.isSome_float?_iff_of_whole l.all rfl rfl
  constructor
  · intro hlt
    obtain ⟨x, hx⟩ := Option.isSome_iff_exists.1 (hsome.2 hlt)
    rw [hx] at h
    exact ⟨x, Numeral.isFinite_of_float? hx, ofJson_of_presents l.spells (.float h)⟩
  · intro hge
    have hnone : l.numeral.float? = none := by
      rw [← Option.not_isSome_iff_eq_none, hsome]
      exact Nat.not_lt_of_le hge
    rw [hnone] at h
    exact ofJson_of_lost l.spells h

theorem reads (l : Literal) :
    (l.FitsInteger → ofJson l.text = .ok (.integer (Int64.ofInt l.value))) ∧
    (¬ l.FitsInteger → l.value.natAbs < literalBound →
      ∃ x, x.isFinite = true ∧ ofJson l.text = .ok (.float x)) ∧
    (literalBound ≤ l.value.natAbs → ofJson l.text = .error .syntaxError) := by
  rcases l.value?_numeral with ⟨hvalue, hlower, hupper, hzero⟩ | ⟨hvalue, hfits⟩
  · have hmin : Int64.minValue.toInt = -2 ^ 63 := by decide
    have hbound := word_le_literalBound
    refine ⟨fun hfits => ?_, fun hfits _ => ?_, fun hge => ?_⟩
    · rw [← hfits.toInt_ofInt] at hvalue
      exact ofJson_of_presents l.spells (.integer _ hvalue)
    · have hlarge : Int64.maxValue.toInt < l.value := by
        by_contra hle
        exact hfits ⟨hlower, not_lt.1 hle, hzero⟩
      exact ⟨_, Binary64.isFinite_ofInt (by omega),
        ofJson_of_presents l.spells (.large hvalue hlarge)⟩
    · omega
  · obtain ⟨hread, hlost⟩ := l.reads_scaled hvalue
    exact ⟨fun h => absurd h hfits, fun _ => hread, hlost⟩

theorem FitsInteger.natAbs_lt {l : Literal} (h : l.FitsInteger) :
    l.value.natAbs < literalBound := by
  have hmin : Int64.minValue.toInt = -2 ^ 63 := by decide
  have hmax : Int64.maxValue.toInt = 2 ^ 63 - 1 := by decide
  have hbound := word_le_literalBound
  obtain ⟨hlower, hupper, -⟩ := h
  omega

theorem FitsInteger.toInt_eq_iff {l : Literal} (h : l.FitsInteger) (i : Int64) :
    Int64.ofInt l.value = i ↔ i.toInt = l.value := by
  constructor
  · rintro rfl
    exact h.toInt_ofInt
  · intro hi
    rw [← hi, Int64.ofInt_toInt]

theorem reads_iff (l : Literal) :
    (∀ i : Int64, ofJson l.text = .ok (.integer i) ↔ l.FitsInteger ∧ i.toInt = l.value) ∧
    ((∃ x, x.isFinite = true ∧ ofJson l.text = .ok (.float x)) ↔
      ¬ l.FitsInteger ∧ l.value.natAbs < literalBound) ∧
    (ofJson l.text = .error .syntaxError ↔ literalBound ≤ l.value.natAbs) := by
  obtain ⟨hinteger, hfloat, herror⟩ := l.reads
  by_cases hfits : l.FitsInteger
  · have hlt := hfits.natAbs_lt
    simp [hinteger hfits, hfits, hfits.toInt_eq_iff, hlt]
  · by_cases hlt : l.value.natAbs < literalBound
    · obtain ⟨x, hx, hread⟩ := hfloat hfits hlt
      simp [hread, hfits, hlt, hx]
    · simp [herror (not_lt.1 hlt), hfits, hlt, not_lt.1 hlt]

def ofInt (z : Int) : Literal :=
  ⟨decide (z < 0), decimalDigits z.natAbs, Decimal.allDigits_decimalDigits _,
    Decimal.decimalDigits_ne_nil _, decimalDigits_eq_of_head⟩

theorem text_ofInt (z : Int) : (ofInt z).text = toString z := by
  apply String.toList_injective
  rw [text, String.toList_ofList, Binary64.toList_toString]
  rfl

theorem value_ofInt (z : Int) : (ofInt z).value = z := by
  unfold value ofInt
  rw [digitsValue_decimalDigits]
  split
  · rename_i hneg
    have hlt : z < 0 := of_decide_eq_true hneg
    omega
  · rename_i hpos
    have hge : ¬ z < 0 := by simpa using hpos
    omega

theorem fitsInteger_ofInt (i : Int64) : (ofInt i.toInt).FitsInteger := by
  have hvalue := value_ofInt i.toInt
  refine ⟨?_, ?_, ?_⟩
  · rw [hvalue]
    exact i.le_toInt
  · rw [hvalue]
    exact i.toInt_le
  · rw [hvalue]
    rintro ⟨hneg, hzero⟩
    rw [hzero] at hneg
    cases hneg

end Literal

/-! ## Decoding and encoding -/

theorem ofJson_bool (b : Bool) : ofJson (Value.bool b).toJson.compact = .ok (.bool b) := by
  obtain ⟨node, hshown, hspells⟩ := compact_spells (Value.bool b).toJson
  obtain rfl : node = .bool b := hshown
  exact ofJson_of_presents hspells (.bool b)

theorem ofJson_integer (i : Int64) :
    ofJson (Value.integer i).toJson.compact = .ok (.integer i) := by
  have htext : (Value.integer i).toJson.compact = (Literal.ofInt i.toInt).text :=
    (Literal.text_ofInt i.toInt).symm
  rw [htext, (Literal.ofInt i.toInt).reads.1 (Literal.fitsInteger_ofInt i), Literal.value_ofInt,
    Int64.ofInt_toInt]

theorem ofJson_text (s : String) : ofJson (Value.text s).toJson.compact = .ok (.text s) := by
  obtain ⟨node, hshown, hspells⟩ := compact_spells (Value.text s).toJson
  have htext : node.IsText s := hshown
  cases htext with
  | intro hunits => exact ofJson_of_presents hspells (.text hunits)

theorem ofJson_float {x : Binary64} (hx : x.isFinite = true) :
    (∃ n : Numeral, Spells (Value.float x).toJson.compact.toList (.number n) ∧ n.nearest = x) ∧
      ∃ y, y.isFinite = true ∧ ofJson (Value.float x).toJson.compact = .ok (.float y) := by
  cases x with
  | nan => cases hx
  | inf s => cases hx
  | finite s rank =>
    obtain ⟨n, hspells, hmarked, hnearest, hsome⟩ := float_written s rank
    obtain ⟨y, hy⟩ := Option.isSome_iff_exists.1 hsome
    have hvalue : n.value? = some (.float y) := by
      have hmark : (n.fraction.isEmpty && n.exponent.isNone) = false := by
        rcases hmarked with h | h <;> simp [h, Option.isSome_iff_ne_none]
      rw [Numeral.value?, hmark, hy]
      rfl
    exact ⟨⟨n, hspells, hnearest⟩, y, Numeral.isFinite_of_float? hy,
      ofJson_of_presents hspells (.float hvalue)⟩

/-- A truth value, an integer or a text that is written as JSON is read as itself. A finite
number is written as a numeral that is nearest to it, and read as a finite number. Of the
literals of whole numbers those are read as integers that fit, but for the negative zero, the
others as numbers below the bound, and from there on they are out of range. -/
theorem decoding_undoes_encoding_up_to_rounding :
    (∀ v : Value, (∀ x, v ≠ .float x) → ofJson v.toJson.compact = .ok v) ∧
    (∀ x : Binary64, x.isFinite = true →
      (∃ n : Numeral, Spells (Value.float x).toJson.compact.toList (.number n) ∧
        n.nearest = x) ∧
      ∃ y, y.isFinite = true ∧ ofJson (Value.float x).toJson.compact = .ok (.float y)) ∧
    ∀ l : Literal,
      (∀ i : Int64, ofJson l.text = .ok (.integer i) ↔ l.FitsInteger ∧ i.toInt = l.value) ∧
      ((∃ x, x.isFinite = true ∧ ofJson l.text = .ok (.float x)) ↔
        ¬ l.FitsInteger ∧ l.value.natAbs < literalBound) ∧
      (ofJson l.text = .error .syntaxError ↔ literalBound ≤ l.value.natAbs) := by
  refine ⟨fun v hv => ?_, fun x hx => ofJson_float hx, fun l => ?_⟩
  · cases v with
    | bool b => exact ofJson_bool b
    | integer i => exact ofJson_integer i
    | text s => exact ofJson_text s
    | float x => exact absurd rfl (hv x)
  · exact l.reads_iff

/-- The least integer, the negative zero as a number, and the negative zero as a literal. -/
theorem edges_are_read_as_their_kind :
    ofJson (Value.integer Int64.minValue).toJson.compact = .ok (.integer Int64.minValue) ∧
    (∃ y, y.isFinite = true ∧
      ofJson (Value.float (Binary64.zero true)).toJson.compact = .ok (.float y)) ∧
    ∃ x, x.isFinite = true ∧ ofJson "-0" = .ok (.float x) := by
  obtain ⟨hvalues, hfloats, hliterals⟩ := decoding_undoes_encoding_up_to_rounding
  let l : Literal := ⟨true, ['0'], by simp [AllDigits], by simp, by simp⟩
  have hvalue : l.value = 0 := by decide
  have hzero : ¬ l.FitsInteger := fun h => h.2.2 ⟨rfl, hvalue⟩
  have hlt : l.value.natAbs < literalBound := by
    rw [hvalue]
    decide +kernel
  have htext : l.text = "-0" := by decide
  refine ⟨hvalues _ (by simp), (hfloats _ rfl).2, ?_⟩
  rw [← htext]
  exact (hliterals l).2.1.2 ⟨hzero, hlt⟩

/-- The greatest number is a whole number, but refused where it is written out. -/
theorem greatest_number_is_out_of_range :
    Binary64.ofInt ((2 ^ 53 - 1) * 2 ^ 971) =
      .finite false ⟨rankCount - 1, Nat.sub_lt Binary64.rankCount_pos Nat.one_pos⟩ ∧
    ofJson (toString ((2 ^ 53 - 1) * 2 ^ 971 : Int)) = .error .syntaxError := by
  refine ⟨by decide +kernel, ?_⟩
  have hlarge : literalBound ≤ ((2 ^ 53 - 1) * 2 ^ 971 : Int).natAbs := by decide +kernel
  rw [← Literal.text_ofInt]
  apply (Literal.ofInt _).reads.2.2
  rw [Literal.value_ofInt]
  exact hlarge

end Value

end Assay
