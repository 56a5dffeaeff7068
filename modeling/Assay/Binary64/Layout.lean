import Assay.Binary64.Decimal

/-!
# Written forms of numbers

A number is written with the fewest digits that it is read back from, and a
layout says how they are set out.
-/

set_option autoImplicit false

namespace Assay

/-!
## Fewest digits

The written form of a number is the point nearest to it on the coarsest
power-of-ten grid that meets its rounding interval: the reals that round to
the number. The ends of the interval belong to it when the rank is even.
-/

/-- Where a value half way between two grid points goes. -/
inductive Tie where
  | up
  | even
deriving DecidableEq, Repr

namespace Binary64

/-- Doubled lower end of the rounding interval of a positive rank, in units. -/
def lowerEnd (rank : Nat) : Nat := units (rank - 1) + units rank

def upperEnd (rank : Nat) : Nat := units rank + units (rank + 1)

def inInterval (rank : Nat) (d : Decimal) : Bool :=
  let x := 2 * unitsPerOne * d.num
  let lo := lowerEnd rank * d.den
  let hi := upperEnd rank * d.den
  if rank % 2 = 0 then decide (lo ≤ x ∧ x ≤ hi) else decide (lo < x ∧ x < hi)

def neighbours (rank : Nat) (exponent : Int) : Decimal × Decimal :=
  let low := units rank * Nat.pow 10 (-exponent).toNat / (unitsPerOne * Nat.pow 10 exponent.toNat)
  (⟨low, exponent⟩, ⟨low + 1, exponent⟩)

def prefersUpper (tie : Tie) (rank : Nat) (low : Decimal) : Bool :=
  let twice := 2 * units rank * low.den
  let middle := (2 * low.coefficient + 1) * Nat.pow 10 low.exponent.toNat * unitsPerOne
  if twice = middle then
    match tie with
    | .up => true
    | .even => low.coefficient % 2 = 1
  else decide (middle < twice)

/-- The point of one grid that rounds to the number and lies nearest to it. -/
def onGrid? (tie : Tie) (rank : Nat) (exponent : Int) : Option Decimal :=
  let (low, high) := neighbours rank exponent
  match inInterval rank low, inInterval rank high with
  | false, false => none
  | true, false => some low
  | false, true => some high
  | true, true => some (if prefersUpper tie rank low then high else low)

def searchGrids (tie : Tie) (rank : Nat) (exponent : Int) : Nat → Decimal
  | 0 => ⟨units rank, exponent⟩
  | fuel + 1 =>
    match onGrid? tie rank exponent with
    | some d => d
    | none => searchGrids tie rank (exponent - 1) fuel

def coarsest (rank : Nat) : Int :=
  (((units rank).log2 : Int) + 1 - 1074) * 30103 / 100000 + 1

/-- Fewest digits of a magnitude. The grid `10 ^ (-1074)` holds every magnitude,
so the search ends. -/
def shortest (tie : Tie) (rank : Nat) : Decimal :=
  if rank = 0 then ⟨0, 0⟩
  else searchGrids tie rank (coarsest rank) 1400

end Binary64

/-!
## Layouts

A layout says how the fewest digits of a number are set out: which magnitudes
are written positionally, how the others show their exponent, and what stands
for the values that have no digits.
-/

structure Layout where
  /-- Leading digits with an exponent below this one are not written positionally. -/
  leastExponent : Option Int
  greatestExponent : Option Int
  /-- Text that ends a whole number written positionally. -/
  wholeMark : String
  exponentPlus : String
  tie : Tie
  nanText : String
  infText : String
  negativeInfText : String
deriving DecidableEq, Repr

namespace Layout

def zeros (n : Nat) : String := String.ofList (List.replicate n '0')

def positional (mark : String) (digits : List Char) (point : Int) : String :=
  if point ≤ 0 then
    "0." ++ zeros (-point).toNat ++ String.ofList digits
  else if point < digits.length then
    String.ofList (digits.take point.toNat) ++ "." ++ String.ofList (digits.drop point.toNat)
  else
    String.ofList digits ++ zeros (point.toNat - digits.length) ++ mark

def scientific (plus : String) (digits : List Char) (exponent : Int) : String :=
  let mantissa :=
    match digits with
    | [] => "0"
    | [d] => String.ofList [d]
    | d :: ds => String.ofList (d :: '.' :: ds)
  let sign := if exponent < 0 then "-" else plus
  mantissa ++ "e" ++ sign ++ String.ofList (decimalDigits exponent.natAbs)

def isPositional (l : Layout) (exponent : Int) : Bool :=
  l.leastExponent.all (fun e => decide (e ≤ exponent)) &&
    l.greatestExponent.all (fun e => decide (exponent ≤ e))

def magnitude (l : Layout) (d : Decimal) : String :=
  if d.coefficient = 0 then "0" ++ l.wholeMark
  else
    let digits := decimalDigits d.coefficient
    let point := d.exponent + digits.length
    if l.isPositional (point - 1) then positional l.wholeMark digits point
    else scientific l.exponentPlus digits (point - 1)

def render (l : Layout) : Binary64 → String
  | .nan => l.nanText
  | .inf s => if s then l.negativeInfText else l.infText
  | .finite s r =>
    (if s then "-" else "") ++ l.magnitude (Binary64.shortest l.tie r.val)

/-- Text form of a number: whole numbers keep a point, extremes take an exponent. -/
def text : Layout :=
  ⟨some (-4), some 15, ".0", "", .up, "NaN", "inf", "-inf"⟩

/-- Plain form: digits only, with no exponent and no mark on whole numbers. -/
def plain : Layout :=
  ⟨none, none, "", "", .up, "NaN", "inf", "-inf"⟩

/-- Form of a number that a diagnostic quotes: plain, with whole numbers marked. -/
def quoted : Layout := { plain with wholeMark := ".0" }

/-- Form inside a JSON document, where only finite numbers can be written. -/
def json : Layout :=
  ⟨some (-5), some 15, ".0", "+", .even, "null", "null", "null"⟩

end Layout

namespace Binary64

def toText (x : Binary64) : String := Layout.text.render x

/-- Fixed places after the point, the exact value's half going to the even neighbour. -/
def toFixed (places : Nat) : Binary64 → String
  | nan => "NaN"
  | inf s => if s then "-inf" else "inf"
  | finite s r =>
    let parts := Nat.pow 10 places
    let scaled := divHalfEven (units r * parts) unitsPerOne
    let whole := decimalDigits (scaled / parts)
    let part := decimalDigits (scaled % parts)
    (if s then "-" else "") ++ String.ofList whole ++
      (if places = 0 then ""
       else "." ++ Layout.zeros (places - part.length) ++ String.ofList part)

end Binary64

end Assay
