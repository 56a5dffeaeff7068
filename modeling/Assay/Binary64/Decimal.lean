import Assay.Binary64.Arith

/-!
# Decimal numerals

A decimal numeral is a coefficient times a power of ten. A number is read from
its text as a sign and a numeral, which is then rounded once. Words for the
infinities and for NaN are read in any letter case.
-/

set_option autoImplicit false

namespace Assay

structure Decimal where
  coefficient : Nat
  exponent : Int
deriving DecidableEq, Repr

def digitValue (c : Char) : Nat := c.toNat - '0'.toNat

/-- Value of a run of digits that continues a numeral already read. -/
def digitsFrom (start : Nat) (cs : List Char) : Nat :=
  cs.foldl (fun n c => 10 * n + digitValue c) start

def digitsValue (cs : List Char) : Nat := digitsFrom 0 cs

def decimalDigits (n : Nat) : List Char := Nat.toDigits 10 n

namespace Decimal

def num (d : Decimal) : Nat := d.coefficient * Nat.pow 10 d.exponent.toNat

def den (d : Decimal) : Nat := Nat.pow 10 (-d.exponent).toNat

def spanDigits (cs : List Char) : List Char × List Char := cs.span Char.isDigit

def spanSign : List Char → Bool × List Char
  | '-' :: cs => (true, cs)
  | '+' :: cs => (false, cs)
  | cs => (false, cs)

def exponentOf? : List Char → Option Int
  | [] => some 0
  | c :: cs =>
    if c = 'e' ∨ c = 'E' then
      let (negative, rest) := spanSign cs
      let (ds, tail) := spanDigits rest
      if ds.isEmpty || !tail.isEmpty then none
      else some (if negative then -(digitsValue ds : Int) else digitsValue ds)
    else none

/-- Reads an unsigned numeral: digits around an optional point, at least one of them. -/
def ofText? (cs : List Char) : Option Decimal :=
  let (whole, rest) := spanDigits cs
  let (fraction, tail) :=
    match rest with
    | '.' :: more => spanDigits more
    | _ => ([], rest)
  if whole.isEmpty && fraction.isEmpty then none
  else (exponentOf? tail).map fun e =>
    ⟨digitsValue (whole ++ fraction), e - fraction.length⟩

end Decimal

namespace Binary64

/-- Powers of ten above this one exceed every finite magnitude. -/
def largestPower : Int := 310

/-- Powers of ten below this one are less than half of the least magnitude. -/
def smallestPower : Int := -330

/-- The number nearest to a numeral. Numerals far outside the range are settled
without computing their powers of ten. -/
def ofDecimal (negative : Bool) (d : Decimal) : Binary64 :=
  if d.coefficient = 0 then zero negative
  else if largestPower < d.exponent then inf negative
  else if d.exponent < smallestPower - d.coefficient.log2 then zero negative
  else ofRatio negative (d.num * unitsPerOne) d.den

def foldCase (cs : List Char) : List Char := cs.map Char.toLower

/-- Reads a number: an optional sign, then a word or a numeral, and nothing else. -/
def ofText? (cs : List Char) : Option Binary64 :=
  let (negative, body) := Decimal.spanSign cs
  let word := String.ofList (foldCase body)
  if word = "inf" ∨ word = "infinity" then some (inf negative)
  else if word = "nan" then some nan
  else (Decimal.ofText? body).map (ofDecimal negative)

end Binary64

end Assay
