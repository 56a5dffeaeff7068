import Assay.Document.Basic
import Assay.Json.Decode

/-!
# Reading documents

A document is a JSON text. Each of its three kinds of record is written as an
object with named members in any order, or as an array with the fields in
their fixed order.
-/

set_option autoImplicit false

namespace Assay

open Json (Node Items Members Failure)

namespace Value

def ofNode (depth : Nat) (node : Node) : Except Failure Value := do
  node.strict depth
  match node with
  | .bool b => return .bool b
  | .number n =>
    match ← Json.readNumeral n with
    | .integer z =>
      if z ≤ Int64.maxValue.toInt then return .integer (Int64.ofInt z)
      else return .float (Binary64.ofInt z)
    | .float x => return .float x
  | .string units => return .text (← Json.readUnits units)
  | _ => throw (.data .noVariant)

end Value

def nodeList {α : Type} (f : Nat → Node → Except Failure α) (depth : Nat) (node : Node) :
    Except Failure (List α) :=
  match depth, node with
  | 0, .array _ => .error .syntaxError
  | inner + 1, .array items => items.decode (f inner)
  | _, _ => node.unwanted "a sequence"

def nodeRecord {α : Type} (expected : String) (ofMembers : Nat → Members → Except Failure α)
    (ofItems : Nat → Items → Except Failure α) (depth : Nat) (node : Node) :
    Except Failure α :=
  match depth, node with
  | 0, .array _ => .error .syntaxError
  | 0, .object _ => .error .syntaxError
  | inner + 1, .array items => ofItems inner items
  | inner + 1, .object members => ofMembers inner members
  | _, _ => node.unwanted expected

structure CaseFields where
  input : Option (List Value)
  expected : Option Value
  reltol : Option (Option Binary64)
  abstol : Option (Option Binary64)
  tolerance : Option (Option Binary64)
deriving Inhabited

namespace Case

def isAdmissible (x : Binary64) : Bool := x.isFinite && Binary64.le (Binary64.zero false) x

def checkTolerance (field : String) : Option Binary64 → Except Failure Unit
  | none => .ok ()
  | some x => if isAdmissible x then .ok () else .error (.data (.badTolerance field x))

def ofFields (input : List Value) (expected : Value)
    (reltol abstol tolerance : Option Binary64) : Except Failure Case := do
  let absolute := abstol.or tolerance
  checkTolerance "reltol" reltol
  checkTolerance "abstol" absolute
  return ⟨input, expected, ⟨reltol, absolute⟩⟩

def takeMember (depth : Nat) (s : CaseFields) (name : String) (value : Node) :
    Except Failure CaseFields := do
  if name = "input" then
    return { s with input := ← Json.takeField name s.input (nodeList Value.ofNode depth) value }
  else if name = "expected" then
    return { s with expected := ← Json.takeField name s.expected (Value.ofNode depth) value }
  else if name = "reltol" then
    return { s with reltol := ← Json.takeField name s.reltol Node.toBinary64? value }
  else if name = "abstol" then
    return { s with abstol := ← Json.takeField name s.abstol Node.toBinary64? value }
  else if name = "tolerance" then
    return { s with tolerance := ← Json.takeField name s.tolerance Node.toBinary64? value }
  else
    value.skip
    return s

def ofMembers (depth : Nat) (members : Members) : Except Failure Case := do
  let s ← members.fold (takeMember depth) ⟨none, none, none, none, none⟩
  let expected ← Json.requireField "expected" s.expected
  ofFields (s.input.getD []) expected (s.reltol.getD none) (s.abstol.getD none)
    (s.tolerance.getD none)

def ofItems (depth : Nat) (items : Items) : Except Failure Case := do
  let (input, items) ← items.next (nodeList Value.ofNode depth)
  let (expected, items) ←
    items.require (Value.ofNode depth) 1 "struct RawTestCase with 5 elements"
  let (reltol, items) ← items.next Node.toBinary64?
  let (abstol, items) ← items.next Node.toBinary64?
  let (tolerance, items) ← items.next Node.toBinary64?
  items.finish
  ofFields (input.getD []) expected (reltol.getD none) (abstol.getD none) (tolerance.getD none)

def ofNode : Nat → Node → Except Failure Case :=
  nodeRecord "struct RawTestCase" ofMembers ofItems

end Case

namespace Definition

structure Fields where
  name : Option String
  file : Option String
  cases : Option (List Case)
deriving Inhabited

def takeMember (depth : Nat) (s : Fields) (name : String) (value : Node) :
    Except Failure Fields := do
  if name = "name" then
    return { s with name := ← Json.takeField name s.name (Node.toText "a string") value }
  else if name = "file" then
    return { s with file := ← Json.takeField name s.file (Node.toText "path string") value }
  else if name = "cases" then
    return { s with cases := ← Json.takeField name s.cases (nodeList Case.ofNode depth) value }
  else
    value.skip
    return s

def ofMembers (depth : Nat) (members : Members) : Except Failure Definition := do
  let s ← members.fold (takeMember depth) ⟨none, none, none⟩
  let name ← Json.requireField "name" s.name
  let file ← Json.requireField "file" s.file
  let cases ← Json.requireField "cases" s.cases
  return ⟨name, file, cases⟩

def ofItems (depth : Nat) (items : Items) : Except Failure Definition := do
  let shape := "struct TestDefinition with 3 elements"
  let (name, items) ← items.require (Node.toText "a string") 0 shape
  let (file, items) ← items.require (Node.toText "path string") 1 shape
  let (cases, items) ← items.require (nodeList Case.ofNode depth) 2 shape
  items.finish
  return ⟨name, file, cases⟩

def ofNode : Nat → Node → Except Failure Definition :=
  nodeRecord "struct TestDefinition" ofMembers ofItems

end Definition

namespace Document

structure Fields where
  category : Option String
  tests : Option (List Definition)
deriving Inhabited

def takeMember (depth : Nat) (s : Fields) (name : String) (value : Node) :
    Except Failure Fields := do
  if name = "category" then
    return { s with category := ← Json.takeField name s.category (Node.toText "a string") value }
  else if name = "tests" then
    let tests ← Json.takeField name s.tests (nodeList Definition.ofNode depth) value
    return { s with tests := tests }
  else
    value.skip
    return s

def ofMembers (depth : Nat) (members : Members) : Except Failure Document := do
  let s ← members.fold (takeMember depth) ⟨none, none⟩
  let category ← Json.requireField "category" s.category
  let tests ← Json.requireField "tests" s.tests
  return ⟨category, tests⟩

def ofItems (depth : Nat) (items : Items) : Except Failure Document := do
  let shape := "struct TestSpecFile with 2 elements"
  let (category, items) ← items.require (Node.toText "a string") 0 shape
  let (tests, items) ← items.require (nodeList Definition.ofNode depth) 1 shape
  items.finish
  return ⟨category, tests⟩

def ofNode : Nat → Node → Except Failure Document :=
  nodeRecord "struct TestSpecFile" ofMembers ofItems

def ofText (text : String) : Except Failure Document :=
  Json.decodeText (ofNode Json.depthLimit) text

end Document

namespace Value

def ofJson (text : String) : Except Failure Value :=
  Json.decodeText (ofNode Json.depthLimit) text

end Value

end Assay
