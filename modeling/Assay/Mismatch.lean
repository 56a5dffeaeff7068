import Assay.Binary64.Layout
import Assay.Text.Quoted

/-!
# Mismatches

A document or a settings file can be well formed and still not say what it
should. A mismatch names what was found and what was wanted in its place.
-/

set_option autoImplicit false

namespace Assay

/-- What stood where something else was wanted. -/
inductive Found where
  | null
  | bool (b : Bool)
  | integer (z : Int)
  | wideInteger (z : Int)
  /-- An integer that takes all the bits of two words, and none for a sign. -/
  | wideUnsigned (z : Int)
  | float (x : Binary64)
  | text (s : String)
  | sequence
  | map
deriving DecidableEq, Repr

inductive Mismatch where
  | invalidType (found : Found) (expected : String)
  | invalidValue (found : Found) (expected : String)
  | noVariant
  | duplicateField (name : String)
  | missingField (name : String)
  | invalidLength (length : Nat) (expected : String)
  | badTolerance (field : String) (x : Binary64)
deriving DecidableEq, Repr

def ticked (s : String) : String := "`" ++ s ++ "`"

namespace Found

def describe (layout : Layout) : Found → String
  | null => "null"
  | bool b => "boolean " ++ ticked (if b then "true" else "false")
  | integer z => "integer " ++ ticked (toString z)
  | wideInteger z => "integer " ++ ticked (toString z) ++ " as i128"
  | wideUnsigned z => "integer " ++ ticked (toString z) ++ " as u128"
  | float x => "floating point " ++ ticked (layout.render x)
  | text s => "string " ++ Text.quoted s
  | sequence => "sequence"
  | map => "map"

end Found

namespace Mismatch

def message (layout : Layout) : Mismatch → String
  | invalidType f e => "invalid type: " ++ f.describe layout ++ ", expected " ++ e
  | invalidValue f e => "invalid value: " ++ f.describe layout ++ ", expected " ++ e
  | noVariant => "data did not match any variant of untagged enum Value"
  | duplicateField k => "duplicate field " ++ ticked k
  | missingField k => "missing field " ++ ticked k
  | invalidLength n e => "invalid length " ++ toString n ++ ", expected " ++ e
  | badTolerance field x =>
    field ++ " must be a finite, non-negative number (got " ++ Layout.plain.render x ++ ")"

end Mismatch

end Assay
