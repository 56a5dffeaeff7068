/-!
# Binary64 numbers

A finite number is a sign and a rank: the place of its magnitude among all
finite magnitudes, counted from zero upwards. Every magnitude is a whole
number of units of `2 ^ (-1074)`, so exact arithmetic is arithmetic on natural
numbers, and ranks compare as magnitudes do.
-/

set_option autoImplicit false

namespace Assay

def rankCount : Nat := 2047 * Nat.pow 2 52

def unitsPerOne : Nat := Nat.pow 2 1074

inductive Binary64 where
  | nan
  | inf (negative : Bool)
  | finite (negative : Bool) (rank : Fin rankCount)
deriving DecidableEq, Repr

namespace Binary64

def scale (rank : Nat) : Nat := rank / Nat.pow 2 52 - 1

def units (rank : Nat) : Nat :=
  (rank - scale rank * Nat.pow 2 52) * Nat.pow 2 (scale rank)

theorem rankCount_pos : 0 < rankCount := by decide

def zero (negative : Bool) : Binary64 := .finite negative ⟨0, rankCount_pos⟩

instance : Inhabited Binary64 := ⟨zero false⟩

def isNan : Binary64 → Bool
  | nan => true
  | _ => false

def isFinite : Binary64 → Bool
  | finite _ _ => true
  | _ => false

def isNegative : Binary64 → Bool
  | nan => false
  | inf s => s
  | finite s _ => s

def neg : Binary64 → Binary64
  | nan => nan
  | inf s => inf !s
  | finite s r => finite (!s) r

def abs : Binary64 → Binary64
  | nan => nan
  | inf _ => inf false
  | finite _ r => finite false r

/-- Place of a number on the signed scale of ranks; both zeros stand at zero. -/
def place : Binary64 → Int
  | nan => 0
  | inf s => if s then -(rankCount : Int) else rankCount
  | finite s r => if s then -(r.val : Int) else r.val

def equal (a b : Binary64) : Bool :=
  !a.isNan && !b.isNan && a.place == b.place

def le (a b : Binary64) : Bool :=
  !a.isNan && !b.isNan && decide (a.place ≤ b.place)

def lt (a b : Binary64) : Bool :=
  !a.isNan && !b.isNan && decide (a.place < b.place)

/-- The larger number; a NaN gives way to the other operand. -/
def max (a b : Binary64) : Binary64 :=
  if a.isNan then b
  else if b.isNan then a
  else if le a b then b else a

def signedUnits (negative : Bool) (rank : Nat) : Int :=
  if negative then -(units rank : Int) else units rank

theorem equal_comm (a b : Binary64) : equal a b = equal b a := by
  simp only [equal, Bool.and_comm (!a.isNan), Bool.beq_comm (a := a.place)]

end Binary64

end Assay
