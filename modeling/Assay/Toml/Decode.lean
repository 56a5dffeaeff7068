import Assay.Mismatch
import Assay.Toml.Scalar

/-!
# Decoding TOML tables

A value that is wanted has to be of the right kind and within its range. A
value that nobody wants only has to be one that can be held at all.
-/

set_option autoImplicit false

namespace Assay.Toml

inductive Failure where
  | syntaxError
  | data (m : Mismatch)
deriving DecidableEq, Repr

def wideBound : Int := Nat.pow 2 127

def integerFound (z : Int) : Except Failure Found :=
  if Int64.minValue.toInt ≤ z ∧ z < UInt64.size then .ok (.integer z)
  else if -wideBound ≤ z ∧ z < wideBound then .ok (.wideInteger z)
  else if 0 ≤ z ∧ z < 2 * wideBound then .ok (.wideUnsigned z)
  else .error .syntaxError

namespace Item

def found : Item → Except Failure Found
  | string s => .ok (.text s)
  | integer z => integerFound z
  | float x => .ok (.float x)
  | void => .error .syntaxError
  | bool b => .ok (.bool b)
  | datetime => .ok .map
  | array _ => .ok .sequence
  | table _ _ => .ok .map
  | tables _ => .ok .sequence

def unwanted {α : Type} (expected : String) (item : Item) : Except Failure α :=
  match item.found with
  | .error e => .error e
  | .ok f => .error (.data (.invalidType f expected))

def toText (expected : String) (item : Item) : Except Failure String :=
  match item with
  | string s => .ok s
  | _ => item.unwanted expected

def toWord (expected : String) (item : Item) : Except Failure UInt64 :=
  match item with
  | integer z =>
    if 0 ≤ z ∧ z < UInt64.size then .ok (UInt64.ofNat z.toNat)
    else if Int64.minValue.toInt ≤ z ∧ z < 0 then
      .error (.data (.invalidValue (.integer z) expected))
    else item.unwanted expected
  | _ => item.unwanted expected

mutual

def skip : Item → Except Failure Unit
  | integer z => (integerFound z).map fun _ => ()
  | void => .error .syntaxError
  | array items => skipAll items
  | table _ entries => skipEntries entries
  | tables elements => skipElements elements
  | _ => .ok ()

def skipAll : List Item → Except Failure Unit
  | [] => .ok ()
  | i :: is =>
    match skip i with
    | .error e => .error e
    | .ok () => skipAll is

def skipEntries : List (String × Item) → Except Failure Unit
  | [] => .ok ()
  | (_, i) :: rest =>
    match skip i with
    | .error e => .error e
    | .ok () => skipEntries rest

def skipElements : List (List (String × Item)) → Except Failure Unit
  | [] => .ok ()
  | es :: rest =>
    match skipEntries es with
    | .error e => .error e
    | .ok () => skipElements rest

end

end Item

end Assay.Toml
