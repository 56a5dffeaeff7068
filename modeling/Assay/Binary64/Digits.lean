import Assay.Binary64.Layout

/-!
# Digits of a given count

A finite number is written with as many digits as are asked for, the half of
the last one going to the even neighbour: with an exponent, in hexadecimal, or
in whichever form is shorter.
-/

set_option autoImplicit false

namespace Assay

namespace Binary64

def decimalExponent (magnitude : Nat) : Int :=
  if unitsPerOne ≤ magnitude then
    ((decimalDigits (magnitude / unitsPerOne)).length : Int) - 1
  else
    let n := (decimalDigits (unitsPerOne / magnitude)).length
    if magnitude * Nat.pow 10 (n - 1) < unitsPerOne then -(n : Int) else 1 - (n : Int)

def leadingDigits (magnitude places : Nat) : List Char × Int :=
  if magnitude = 0 then (List.replicate (places + 1) '0', 0)
  else
    let e := decimalExponent magnitude
    let shift : Int := places - e
    let n := divHalfEven (magnitude * Nat.pow 10 shift.toNat)
      (unitsPerOne * Nat.pow 10 (-shift).toNat)
    let digits := decimalDigits n
    if digits.length = places + 2 then (digits.dropLast, e + 1) else (digits, e)

def exponentText (e : Int) : String :=
  let digits := decimalDigits e.natAbs
  (if e < 0 then "-" else "+") ++ Layout.zeros (2 - digits.length) ++ String.ofList digits

def exponentForm (magnitude places : Nat) (point : Bool) : String :=
  let (digits, e) := leadingDigits magnitude places
  let fraction := String.ofList digits.tail
  String.ofList (digits.take 1) ++ (if places = 0 && !point then "" else "." ++ fraction) ++
    "e" ++ exponentText e

def fixedForm (magnitude places : Nat) (point : Bool) : String :=
  let parts := Nat.pow 10 places
  let scaled := divHalfEven (magnitude * parts) unitsPerOne
  let fraction := decimalDigits (scaled % parts)
  String.ofList (decimalDigits (scaled / parts)) ++
    (if places = 0 then (if point then "." else "")
     else "." ++ Layout.zeros (places - fraction.length) ++ String.ofList fraction)

/-- Drops the zeros at the end of a fraction, and a point that nothing follows. -/
def dropZeros (text : String) : String :=
  let (mantissa, tail) := text.toList.span (· != 'e')
  if mantissa.contains '.' then
    let kept := mantissa.reverse.dropWhile (· == '0')
    String.ofList ((if kept.head? = some '.' then kept.tail else kept).reverse ++ tail)
  else text

def generalForm (magnitude digits : Nat) (keepZeros : Bool) : String :=
  let count := Nat.max digits 1
  let e := (leadingDigits magnitude (count - 1)).2
  let text :=
    if -4 ≤ e ∧ e < count then fixedForm magnitude ((count : Int) - 1 - e).toNat keepZeros
    else exponentForm magnitude (count - 1) keepZeros
  if keepZeros then text else dropZeros text

def hexForm (rank : Nat) (places : Option Nat) (point : Bool) : String :=
  let bits := Nat.pow 2 52
  let biased := rank / bits
  let lead := if biased = 0 then 0 else 1
  let exponent : Int := if rank = 0 then 0 else (Nat.max biased 1 : Int) - 1023
  let significand := lead * bits + rank % bits
  let pad := fun (n : Nat) (cs : List Char) => List.replicate (n - cs.length) '0' ++ cs
  let (whole, fraction) := match places with
    | none =>
      (lead, ((pad 13 (Nat.toDigits 16 (rank % bits))).reverse.dropWhile (· == '0')).reverse)
    | some p =>
      if 13 ≤ p then
        (lead, pad 13 (Nat.toDigits 16 (rank % bits)) ++ List.replicate (p - 13) '0')
      else
        let parts := Nat.pow 16 p
        let rounded := divHalfEven (significand * parts) bits
        (rounded / parts, if p = 0 then [] else pad p (Nat.toDigits 16 (rounded % parts)))
  "0x" ++ toString whole ++ (if fraction.isEmpty && !point then "" else ".") ++
    String.ofList fraction ++ "p" ++ (if exponent < 0 then "-" else "+") ++
    toString exponent.natAbs

end Binary64

end Assay
