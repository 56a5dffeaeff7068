/-!
# Paths

A path is a text of parts joined by slashes, kept as it was written. Joining
an absolute path drops what it is joined to.
-/

set_option autoImplicit false

namespace Assay.Path

def isAbsoluteChars : List Char → Bool
  | '/' :: _ => true
  | _ => false

def isAbsolute (p : String) : Bool := isAbsoluteChars p.toList

def joinChars (base p : List Char) : List Char :=
  if isAbsoluteChars p then p
  else if base = [] ∨ base.getLast? = some '/' then base ++ p
  else base ++ '/' :: p

/-- Puts a path below another; exactly one slash comes between. -/
def join (base p : String) : String := String.ofList (joinChars base.toList p.toList)

/-- The parts between slashes, empty ones among them. -/
def splitChars : List Char → List (List Char)
  | [] => [[]]
  | c :: cs =>
    if c = '/' then [] :: splitChars cs
    else match splitChars cs with
      | [] => [[c]]
      | p :: ps => (c :: p) :: ps

/-- Names along a path. Empty parts and parts that stay where they are drop out. -/
def names (p : String) : List String :=
  ((splitChars p.toList).map String.ofList).filter fun s => s != "" && s != "."

/-- Components of a path: a leading slash counts, and so does a leading dot. -/
def componentCount (p : String) : Nat :=
  match splitChars p.toList with
  | [] => 0
  | first :: rest =>
    let absolute := isAbsolute p
    let later := (rest.filter fun s => s != [] && s != ['.']).length
    if absolute then later + 1
    else later + (if first = [] then 0 else 1)

def isCompound (p : String) : Bool := decide (1 < componentCount p)

def holdsNul (p : String) : Bool := p.toList.contains '\x00'

theorem join_absolute (base p : String) (h : isAbsolute p) : join base p = p := by
  have h' : isAbsoluteChars p.toList = true := h
  simp [join, joinChars, h']

end Assay.Path
