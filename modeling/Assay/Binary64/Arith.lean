import Assay.Binary64.Basic

/-!
# Rounding and arithmetic

One function takes an exact ratio to the nearest number, a half going to the
even neighbour; every operation computes exactly and rounds once.
-/

set_option autoImplicit false

namespace Assay

/-- Quotient to the nearest whole number, a half going to the even neighbour. -/
def divHalfEven (num den : Nat) : Nat :=
  let q := num / den
  let r := num % den
  if 2 * r < den then q
  else if den < 2 * r then q + 1
  else q + q % 2

namespace Binary64

def nearestRank (num den : Nat) : Nat :=
  let k := Nat.log2 (num / den) - 52
  k * Nat.pow 2 52 + divHalfEven num (den * Nat.pow 2 k)

def ofRank (negative : Bool) (rank : Nat) : Binary64 :=
  if h : rank < rankCount then .finite negative ⟨rank, h⟩ else .inf negative

def ofRatio (negative : Bool) (num den : Nat) : Binary64 :=
  ofRank negative (nearestRank num den)

def ofInt (z : Int) : Binary64 :=
  ofRatio (decide (z < 0)) (z.natAbs * unitsPerOne) 1

def ofNat (n : Nat) : Binary64 := ofInt n

def add : Binary64 → Binary64 → Binary64
  | nan, _ => nan
  | _, nan => nan
  | inf s, inf t => if s = t then inf s else nan
  | inf s, finite _ _ => inf s
  | finite _ _, inf t => inf t
  | finite s a, finite t b =>
    let z := signedUnits s a + signedUnits t b
    if z = 0 then zero (s && t)
    else ofRatio (decide (z < 0)) z.natAbs 1

def sub (a b : Binary64) : Binary64 := add a b.neg

def isZero : Binary64 → Bool
  | finite _ r => r.val == 0
  | _ => false

def mul : Binary64 → Binary64 → Binary64
  | nan, _ => nan
  | _, nan => nan
  | inf s, y => if y.isZero then nan else inf (s != y.isNegative)
  | x, inf t => if x.isZero then nan else inf (x.isNegative != t)
  | finite s a, finite t b =>
    ofRatio (s != t) (units a * units b) unitsPerOne

def div : Binary64 → Binary64 → Binary64
  | nan, _ => nan
  | _, nan => nan
  | inf _, inf _ => nan
  | inf s, finite t _ => inf (s != t)
  | finite s _, inf t => zero (s != t)
  | finite s a, finite t b =>
    if b.val = 0 then
      if a.val = 0 then nan else inf (s != t)
    else ofRatio (s != t) (units a * unitsPerOne) (units b)

end Binary64

end Assay
