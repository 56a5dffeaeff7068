import Assay.Value

/-!
# Verdicts

An output is accepted by an expected value in one of three ways, tried in
order: as a truth, as a number within tolerance, or as the same text. The
expected value alone chooses the way, except that an output that is no number
is compared as text.
-/

set_option autoImplicit false

namespace Assay

/-- Tolerances a case asks for; what it leaves open takes the default. -/
structure Tolerance where
  relative : Option Binary64
  absolute : Option Binary64
deriving DecidableEq, Repr, Inhabited

namespace Tolerance

def unset : Tolerance := ⟨none, none⟩

def defaultRelative : Binary64 := Binary64.ofDecimal false ⟨1, -9⟩

def defaultAbsolute : Binary64 := Binary64.ofDecimal false ⟨1, -12⟩

def effectiveRelative (t : Tolerance) : Binary64 := t.relative.getD defaultRelative

def effectiveAbsolute (t : Tolerance) : Binary64 := t.absolute.getD defaultAbsolute

end Tolerance

def readTruth? (text : List Char) : Option Bool :=
  let s := String.ofList text
  let word := String.ofList (Binary64.foldCase text)
  if s = truthGlyph true ∨ s = "1" then some true
  else if s = truthGlyph false ∨ s = "0" then some false
  else if word = "true" then some true
  else if word = "false" then some false
  else none

/-- Closeness of two numbers: `|a - b| ≤ max (relative * max |a| |b|) absolute`.
Equal numbers are always close, and no other infinity is close to anything. -/
def isClose (a b relative absolute : Binary64) : Bool :=
  if Binary64.equal a b then true
  else if !a.isFinite || !b.isFinite then false
  else
    let bound := Binary64.mul relative (Binary64.max a.abs b.abs)
    Binary64.le (Binary64.sub a b).abs (Binary64.max bound absolute)

namespace Value

def acceptsTrimmed (expected : Value) (tolerance : Tolerance) (output : List Char) : Bool :=
  match expected.truth? with
  | some want => readTruth? output == some want
  | none =>
    match expected.number?, Binary64.ofText? output with
    | some want, some got =>
      isClose got want tolerance.effectiveRelative tolerance.effectiveAbsolute
    | _, _ => Text.trimChars expected.toText.toList == output

def accepts (expected : Value) (tolerance : Tolerance) (output : String) : Bool :=
  expected.acceptsTrimmed tolerance (Text.trimChars output.toList)

/-- Verdict on what a run left behind; a run without output is never accepted. -/
def judges (expected : Value) (tolerance : Tolerance) : Option String → Bool
  | none => false
  | some output => expected.accepts tolerance output

end Value

end Assay
