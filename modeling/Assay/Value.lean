import Assay.Json.Tree
import Assay.Text.Word

/-!
# Values

The arguments and expectations of a case are scalars of four kinds. A value
has a text form, which is what an interpreter is given, and may be read as a
truth or as a number.
-/

set_option autoImplicit false

namespace Assay

inductive Value where
  | bool (b : Bool)
  | integer (i : Int64)
  | float (x : Binary64)
  | text (s : String)
deriving DecidableEq, Repr

def truthGlyph (b : Bool) : String := if b then "⊤" else "⊥"

namespace Value

def toText : Value → String
  | bool b => if b then "true" else "false"
  | integer i => toString i.toInt
  | float x => x.toText
  | text s => s

def truth? : Value → Option Bool
  | bool b => some b
  | text s =>
    if s = truthGlyph true then some true
    else if s = truthGlyph false then some false
    else none
  | _ => none

/-- Number a value stands for; a text is read without the blanks around it. -/
def number? : Value → Option Binary64
  | bool _ => none
  | integer i => some (Binary64.ofInt i.toInt)
  | float x => some x
  | text s => Binary64.ofText? (Text.trimChars s.toList)

def toJson : Value → Json
  | bool b => .bool b
  | integer i => .integer i.toInt
  | float x => .float x
  | text s => .string s

end Value

def renderCall (name : String) (inputs : List Value) : String :=
  name ++ "(" ++ String.intercalate ", " (inputs.map Value.toText) ++ ")"

end Assay
