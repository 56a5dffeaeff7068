import Assay.Binary64.Decimal

/-!
# JSON text as a tree

Every text reads as a tree, in which numerals and strings stand as they were
written.
-/

set_option autoImplicit false

namespace Assay.Json

/-!
## Numerals

A numeral keeps the digits as they were written. Its value is an integer when
it has neither fraction nor exponent and fits a machine word; otherwise the
leading digits that fit a word are scaled by a power of ten, with one rounding
for each step.
-/

structure Exponent where
  negative : Bool
  digits : List Char
deriving DecidableEq, Repr

structure Numeral where
  negative : Bool
  whole : List Char
  fraction : List Char
  exponent : Option Exponent
deriving DecidableEq, Repr

/-- Value of a numeral: an integer of a machine word, or a binary number. -/
inductive Number where
  | integer (z : Int)
  | float (x : Binary64)
deriving DecidableEq, Repr

namespace Number

def toBinary64 : Number → Binary64
  | integer z => Binary64.ofInt z
  | float x => x

end Number

def wordBound : Nat := UInt64.size

/-- Takes in digits while the word holds them: the word, and how many digits went in. -/
def takeDigits : Nat → List Char → Nat × Nat
  | word, [] => (word, 0)
  | word, c :: cs =>
    let next := 10 * word + digitValue c
    if next < wordBound then
      let (last, taken) := takeDigits next cs
      (last, taken + 1)
    else (word, 0)

/-- Scales by a power of ten in steps the number range allows; `none` when the
result is too large. -/
def scaleByTen (x : Binary64) (exponent : Int) : Nat → Option Binary64
  | 0 => some x
  | steps + 1 =>
    if exponent.natAbs ≤ 308 then
      let power := Binary64.ofDecimal false ⟨1, exponent.natAbs⟩
      if 0 ≤ exponent then
        let y := Binary64.mul x power
        if y.isFinite then some y else none
      else some (Binary64.div x power)
    else if x.isZero then some x
    else if 0 < exponent then none
    else scaleByTen (Binary64.div x (Binary64.ofDecimal false ⟨1, 308⟩)) (exponent + 308) steps

def greatestExponent : Nat := Int32.maxValue.toInt.toNat

namespace Numeral

/-- The leading digits that fit a word, and the power of ten they stand before. -/
def significand (n : Numeral) : Nat × Int :=
  let (word, taken) := takeDigits 0 n.whole
  let (word, more) := takeDigits word n.fraction
  (word, ((n.whole.length - taken : Nat) : Int) - more)

def signed (n : Numeral) (x : Binary64) : Binary64 := if n.negative then x.neg else x

def float? (n : Numeral) : Option Binary64 :=
  let (word, shift) := n.significand
  match n.exponent with
  | none => (scaleByTen (Binary64.ofNat word) shift 4).map n.signed
  | some e =>
    let size := digitsValue e.digits
    if greatestExponent < size then
      if word ≠ 0 ∧ !e.negative then none else some (Binary64.zero n.negative)
    else
      let written : Int := if e.negative then -(size : Int) else size
      (scaleByTen (Binary64.ofNat word) (shift + written) 4).map n.signed

def value? (n : Numeral) : Option Number :=
  if n.fraction.isEmpty && n.exponent.isNone then
    let size := digitsValue n.whole
    if n.negative then
      if 0 < size ∧ size ≤ Nat.pow 2 63 then some (.integer (-(size : Int)))
      else n.float?.map .float
    else if size < wordBound then some (.integer size)
    else n.float?.map .float
  else n.float?.map .float

end Numeral

/-!
## Trees

Every text reads as a tree. Where the text goes wrong the tree has a broken
end, with nothing to the right of it, so whoever visits a tree from left to
right meets what went wrong exactly where the text did.

A string literal is a list of units: characters that stand for themselves or
are named by an escape, and code units given in hexadecimal. Code units of the
surrogate range make sense only in pairs.
-/

inductive StringUnit where
  | char (c : Char)
  | code (n : Nat)
deriving DecidableEq, Repr

def isHighSurrogate (n : Nat) : Bool := decide (0xd800 ≤ n ∧ n ≤ 0xdbff)

def isLowSurrogate (n : Nat) : Bool := decide (0xdc00 ≤ n ∧ n ≤ 0xdfff)

def pairSurrogates (high low : Nat) : Char :=
  Char.ofNat (0x10000 + (high - 0xd800) * 0x400 + (low - 0xdc00))

inductive Spelling where
  | text (cs : List Char)
  | halfPair
  | lone
deriving DecidableEq, Repr

namespace Spelling

def cons (c : Char) : Spelling → Spelling
  | text cs => text (c :: cs)
  | s => s

end Spelling

def spell : List StringUnit → Spelling
  | [] => .text []
  | .char c :: rest => (spell rest).cons c
  | .code n :: rest =>
    if isLowSurrogate n then .lone
    else if isHighSurrogate n then
      match rest with
      | [] => .halfPair
      | .code m :: tail =>
        if isLowSurrogate m then (spell tail).cons (pairSurrogates n m) else .lone
      | .char _ :: _ => .lone
    else (spell rest).cons (Char.ofNat n)

def unitsText? (units : List StringUnit) : Option String :=
  match spell units with
  | .text cs => some (String.ofList cs)
  | _ => none

/-- What breaks a text off: it ends too early, or a character cannot stand where it does. -/
inductive Fault where
  | cut
  | junk
deriving DecidableEq, Repr

mutual

inductive Node where
  | null
  | bool (b : Bool)
  | number (n : Numeral)
  | string (units : List StringUnit)
  | array (items : Items)
  | object (members : Members)
  | broken (f : Fault)
  /-- A numeral with the end of the text where a digit must stand. -/
  | cutNumber
  | cutString (units : List StringUnit)

inductive Items where
  | closed
  | broken (f : Fault)
  | item (node : Node) (rest : Items)

inductive Members where
  | closed
  | broken (f : Fault)
  | cutKey (units : List StringUnit)
  | member (key : List StringUnit) (value : Node) (rest : Members)

end

end Assay.Json
