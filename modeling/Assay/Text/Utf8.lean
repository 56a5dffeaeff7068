/-!
# Bytes as text

Bytes are read one at a time. A sequence in progress knows how many bytes it
still wants and which values the next one may take; a byte outside them breaks
the sequence off and is read again on its own. What was broken off counts as
one unreadable piece, so each maximal ill-formed part yields one mark.
-/

set_option autoImplicit false

namespace Assay.Text

def replacement : Char := '\ufffd'

/-- A multi-byte sequence in progress. -/
structure Partial where
  left : Nat
  least : UInt8
  greatest : UInt8
  bits : Nat
deriving DecidableEq, Repr

/-- What a byte begins: a character, a longer sequence, or nothing readable. -/
inductive Opening where
  | char (c : Char)
  | sequence (p : Partial)
  | unreadable
deriving DecidableEq, Repr

def opening (b : UInt8) : Opening :=
  let n := b.toNat
  if n < 0x80 then .char (Char.ofNat n)
  else if n < 0xc2 then .unreadable
  else if n < 0xe0 then .sequence ⟨1, 0x80, 0xbf, n % 0x20⟩
  else if n = 0xe0 then .sequence ⟨2, 0xa0, 0xbf, 0⟩
  else if n = 0xed then .sequence ⟨2, 0x80, 0x9f, 0xd⟩
  else if n < 0xf0 then .sequence ⟨2, 0x80, 0xbf, n % 0x10⟩
  else if n = 0xf0 then .sequence ⟨3, 0x90, 0xbf, 0⟩
  else if n < 0xf4 then .sequence ⟨3, 0x80, 0xbf, n % 0x8⟩
  else if n = 0xf4 then .sequence ⟨3, 0x80, 0x8f, 4⟩
  else .unreadable

def scalarsFrom : Option Partial → List UInt8 → List (Option Char)
  | none, [] => []
  | some _, [] => [none]
  | none, b :: bs =>
    match opening b with
    | .char c => some c :: scalarsFrom none bs
    | .sequence p => scalarsFrom (some p) bs
    | .unreadable => none :: scalarsFrom none bs
  | some p, b :: bs =>
    if p.least ≤ b ∧ b ≤ p.greatest then
      let bits := p.bits * 0x40 + b.toNat % 0x40
      if p.left ≤ 1 then some (Char.ofNat bits) :: scalarsFrom none bs
      else scalarsFrom (some ⟨p.left - 1, 0x80, 0xbf, bits⟩) bs
    else
      match opening b with
      | .char c => none :: some c :: scalarsFrom none bs
      | .sequence q => none :: scalarsFrom (some q) bs
      | .unreadable => none :: none :: scalarsFrom none bs

def scalars (bs : List UInt8) : List (Option Char) := scalarsFrom none bs

/-- Text of a byte string, with a mark for each unreadable piece. -/
def decodeLossy (bs : List UInt8) : List Char :=
  (scalars bs).map (fun c => c.getD replacement)

def decode? (bs : List UInt8) : Option (List Char) := (scalars bs).mapM id

def encodeChar (c : Char) : List UInt8 := (String.ofList [c]).toUTF8.toList

def encode (s : String) : List UInt8 := s.toUTF8.toList

end Assay.Text
