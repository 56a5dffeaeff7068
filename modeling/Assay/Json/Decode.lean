import Assay.Json.Reader
import Assay.Mismatch

/-!
# Decoding JSON trees

Decoding visits a tree from left to right and stops at the first thing that is
wrong: a place where the text breaks off, or a part that is not what is wanted
there. What is wanted is read strictly; what is skipped needs only be well
formed.
-/

set_option autoImplicit false

namespace Assay.Json

inductive Failure where
  | syntaxError
  | endOfText
  | data (m : Mismatch)
deriving DecidableEq, Repr

namespace Fault

def failure : Fault → Failure
  | cut => .endOfText
  | junk => .syntaxError

end Fault

/-- Arrays and objects that may be open at once where values are read strictly. -/
def depthLimit : Nat := 127

/-- What a string that breaks off is: a lone half of a pair comes before its end. -/
def cutStringFailure (units : List StringUnit) : Failure :=
  match spell units with
  | .lone => .syntaxError
  | _ => .endOfText

def readUnits (units : List StringUnit) : Except Failure String :=
  match unitsText? units with
  | some s => .ok s
  | none => .error .syntaxError

def readNumeral (n : Numeral) : Except Failure Number :=
  match n.value? with
  | some v => .ok v
  | none => .error .syntaxError

mutual

/-- Reads a value strictly for its well-formedness alone. The number says how many
arrays and objects may still be entered. -/
def Node.strict : Nat → Node → Except Failure Unit
  | _, .null => .ok ()
  | _, .bool _ => .ok ()
  | _, .number n => (readNumeral n).map fun _ => ()
  | _, .string units => (readUnits units).map fun _ => ()
  | 0, .array _ => .error .syntaxError
  | depth + 1, .array items => Items.strict depth items
  | 0, .object _ => .error .syntaxError
  | depth + 1, .object members => Members.strict depth members
  | _, .broken f => .error f.failure
  | _, .cutNumber => .error .endOfText
  | _, .cutString units => .error (cutStringFailure units)

def Items.strict : Nat → Items → Except Failure Unit
  | _, .closed => .ok ()
  | _, .broken f => .error f.failure
  | depth, .item node rest =>
    match Node.strict depth node with
    | .error e => .error e
    | .ok () => Items.strict depth rest

def Members.strict : Nat → Members → Except Failure Unit
  | _, .closed => .ok ()
  | _, .broken f => .error f.failure
  | _, .cutKey units => .error (cutStringFailure units)
  | depth, .member key value rest =>
    match readUnits key with
    | .error e => .error e
    | .ok _ =>
      match Node.strict depth value with
      | .error e => .error e
      | .ok () => Members.strict depth rest

end

mutual

/-- Passes over a value: it has to be well formed, at any depth, and its numbers and
strings are not read. -/
def Node.skip : Node → Except Failure Unit
  | .null => .ok ()
  | .bool _ => .ok ()
  | .number _ => .ok ()
  | .string _ => .ok ()
  | .array items => Items.skip items
  | .object members => Members.skip members
  | .broken f => .error f.failure
  | .cutNumber => .error .syntaxError
  | .cutString _ => .error .endOfText

def Items.skip : Items → Except Failure Unit
  | .closed => .ok ()
  | .broken f => .error f.failure
  | .item node rest =>
    match Node.skip node with
    | .error e => .error e
    | .ok () => Items.skip rest

def Members.skip : Members → Except Failure Unit
  | .closed => .ok ()
  | .broken f => .error f.failure
  | .cutKey _ => .error .endOfText
  | .member _ value rest =>
    match Node.skip value with
    | .error e => .error e
    | .ok () => Members.skip rest

end

namespace Node

/-- What stands here, named for a mismatch; an array or object is not entered. -/
def found : Node → Except Failure Found
  | null => .ok .null
  | bool b => .ok (.bool b)
  | number n =>
    (readNumeral n).map fun
      | .integer z => .integer z
      | .float x => .float x
  | string units => (readUnits units).map .text
  | array _ => .ok .sequence
  | object _ => .ok .map
  | broken f => .error f.failure
  | cutNumber => .error .endOfText
  | cutString units => .error (cutStringFailure units)

def unwanted {α : Type} (expected : String) (node : Node) : Except Failure α :=
  match node.found with
  | .error e => .error e
  | .ok f => .error (.data (.invalidType f expected))

def toText (expected : String) (node : Node) : Except Failure String :=
  match node with
  | string units => readUnits units
  | _ => node.unwanted expected

def toBinary64 (node : Node) : Except Failure Binary64 :=
  match node with
  | number n => (readNumeral n).map Number.toBinary64
  | _ => node.unwanted "f64"

def toBinary64? (node : Node) : Except Failure (Option Binary64) :=
  match node with
  | null => .ok none
  | _ => node.toBinary64.map some

end Node

namespace Items

def decode {α : Type} (f : Node → Except Failure α) : Items → Except Failure (List α)
  | closed => .ok []
  | broken e => .error e.failure
  | item node rest => do
    let a ← f node
    let more ← decode f rest
    return a :: more

/-- What follows the last item wanted must be the closing bracket. -/
def finish : Items → Except Failure Unit
  | closed => .ok ()
  | broken e => .error e.failure
  | item _ _ => .error .syntaxError

def next {α : Type} (f : Node → Except Failure α) :
    Items → Except Failure (Option α × Items)
  | closed => .ok (none, closed)
  | broken e => .error e.failure
  | item node rest => (f node).map fun a => (some a, rest)

def require {α : Type} (f : Node → Except Failure α) (index : Nat) (expected : String)
    (items : Items) : Except Failure (α × Items) := do
  match ← items.next f with
  | (some a, rest) => return (a, rest)
  | (none, _) => throw (.data (.invalidLength index expected))

end Items

namespace Members

def fold {σ : Type} (step : σ → String → Node → Except Failure σ) :
    σ → Members → Except Failure σ
  | s, closed => .ok s
  | _, broken e => .error e.failure
  | _, cutKey units => .error (cutStringFailure units)
  | s, member key value rest => do
    let name ← readUnits key
    let next ← step s name value
    fold step next rest

end Members

def takeField {α : Type} (name : String) (sofar : Option α) (f : Node → Except Failure α)
    (value : Node) : Except Failure (Option α) :=
  match sofar with
  | some _ => .error (.data (.duplicateField name))
  | none => (f value).map some

def requireField {α : Type} (name : String) : Option α → Except Failure α
  | some a => .ok a
  | none => .error (.data (.missingField name))

/-- Decodes a whole text; only blanks may follow the value. -/
def decodeText {α : Type} (f : Node → Except Failure α) (text : String) :
    Except Failure α := do
  let source := readText text.toList
  let a ← f source.root
  if source.trailing then throw .syntaxError
  return a

end Assay.Json
