import Assay.Environment
import Assay.Shell.Source

/-!
# Shell arithmetic

Expressions over integers of 64 bits, which wrap around. Division goes toward
zero. A name stands for the number that its value spells, and an empty value
for zero.
-/

set_option autoImplicit false

namespace Assay.Shell

inductive ArithmeticFault where
  | noPrimary
  | notAtEnd
  | unclosed
  | noColon
  | divisionByZero
  | badNumber (text : String)
  | fixed (name : String)
  /-- A quotient beyond the range, which the processor refuses to work out. -/
  | overflow
deriving DecidableEq, Repr

namespace ArithmeticFault

def message (expression : String) : ArithmeticFault → String
  | noPrimary => located "expecting primary"
  | notAtEnd => located "expecting EOF"
  | unclosed => located "expecting ')'"
  | noColon => located "expecting ':'"
  | divisionByZero => located "division by zero"
  | badNumber text => "Illegal number: " ++ text
  | fixed name => name ++ ": is read only"
  | overflow => located "overflow"
where
  located (text : String) : String :=
    "arithmetic expression: " ++ text ++ ": \"" ++ expression ++ "\""

end ArithmeticFault

inductive Lexeme where
  | number (n : Int64)
  | name (s : String)
  | mark (s : String)
  | bad
deriving DecidableEq, Repr

def arithmeticMarks : List (String × List Char) :=
  ["<<=", ">>=", "<<", ">>", "<=", ">=", "==", "!=", "&&", "||", "+=", "-=", "*=", "/=", "%=", "&=",
    "|=", "^=", "+", "-", "*", "/", "%", "<", ">", "&", "|", "^", "!", "~", "?", ":", "(", ")",
    "="].map fun m => (m, m.toList)

def digitValue? (c : Char) : Option Nat :=
  if c.isDigit then some (c.toNat - '0'.toNat)
  else if 'a' ≤ c ∧ c ≤ 'f' then some (c.toNat - 'a'.toNat + 10)
  else if 'A' ≤ c ∧ c ≤ 'F' then some (c.toNat - 'A'.toNat + 10)
  else none

def readDigits (base : Nat) (cs : List Char) : Nat × List Char :=
  let isDigit := fun c => (digitValue? c).any fun d => decide (d < base)
  let (ds, rest) := cs.span isDigit
  (ds.foldl (fun n c => n * base + (digitValue? c).getD 0) 0, rest)

/-- Reads a number that stands at the front, in base eight after a zero, and in the base of
a letter behind it. -/
def readNumber (cs : List Char) : Nat × List Char :=
  match cs with
  | '0' :: x :: c :: rest =>
    if (x = 'x' ∨ x = 'X') ∧ (digitValue? c).isSome then readDigits 16 (c :: rest)
    else if (x = 'b' ∨ x = 'B') ∧ (c = '0' ∨ c = '1') then readDigits 2 (c :: rest)
    else readDigits 8 cs
  | '0' :: _ => readDigits 8 cs
  | _ => readDigits 10 cs

def clamp (n : Nat) : Int64 := Int64.ofInt (min (n : Int) Int64.maxValue.toInt)

def isArithmeticBlank (c : Char) : Bool := c == ' ' || c == '\t' || c == '\n'

def lexemes : Nat → List Char → List Lexeme
  | 0, _ => []
  | _, [] => []
  | fuel + 1, c :: cs =>
    if isArithmeticBlank c then lexemes fuel cs
    else if c.isDigit then
      let (n, rest) := readNumber (c :: cs)
      .number (clamp n) :: lexemes fuel rest
    else if isNameStart c then
      let (s, rest) := (c :: cs).span isNamePart
      .name (String.ofList s) :: lexemes fuel rest
    else
      match arithmeticMarks.find? fun m => m.2.isPrefixOf (c :: cs) with
      | some m => .mark m.1 :: lexemes fuel ((c :: cs).drop m.2.length)
      | none => [.bad]

def valueNumber (text : String) : Except ArithmeticFault Int64 :=
  let isBlank := fun (c : Char) => c == ' ' || decide ('\t' ≤ c ∧ c ≤ '\x0d')
  let cs := text.toList.dropWhile isBlank
  let (negative, digits) := match cs with
    | '-' :: ds => (true, ds)
    | '+' :: ds => (false, ds)
    | ds => (false, ds)
  let (n, rest) := readNumber digits
  let z : Int := if negative then -(n : Int) else n
  if cs = [] then .ok 0
  else if rest.all isBlank && digits.head?.any Char.isDigit &&
      decide (Int64.minValue.toInt ≤ z ∧ z ≤ Int64.maxValue.toInt) then
    .ok (Int64.ofInt z)
  else .error (.badNumber text)

def strength? : String → Option Nat
  | "*" => some 10
  | "/" => some 10
  | "%" => some 10
  | "+" => some 9
  | "-" => some 9
  | "<<" => some 8
  | ">>" => some 8
  | "<" => some 7
  | "<=" => some 7
  | ">" => some 7
  | ">=" => some 7
  | "==" => some 6
  | "!=" => some 6
  | "&" => some 5
  | "^" => some 4
  | "|" => some 3
  | _ => none

/-- The operator that an assignment applies first; empty for a plain one. -/
def assignment? (mark : String) : Option String :=
  if ["=", "+=", "-=", "*=", "/=", "%=", "&=", "|=", "^=", "<<=", ">>="].contains mark then
    some (String.ofList mark.toList.dropLast)
  else none

def ofBool (b : Bool) : Int64 := if b then 1 else 0

def divided (f : Int64 → Int64 → Int64) (a b : Int64) : Except ArithmeticFault Int64 :=
  if b = 0 then .error .divisionByZero
  else if a = Int64.minValue ∧ b = -1 then .error .overflow
  else .ok (f a b)

def combine (mark : String) (a b : Int64) : Except ArithmeticFault Int64 :=
  match mark with
  | "*" => .ok (a * b)
  | "/" => divided (· / ·) a b
  | "%" => divided (· % ·) a b
  | "+" => .ok (a + b)
  | "-" => .ok (a - b)
  | "<<" => .ok (a <<< b)
  | ">>" => .ok (a >>> b)
  | "<" => .ok (ofBool (a < b))
  | "<=" => .ok (ofBool (a ≤ b))
  | ">" => .ok (ofBool (b < a))
  | ">=" => .ok (ofBool (b ≤ a))
  | "==" => .ok (ofBool (a == b))
  | "!=" => .ok (ofBool (a != b))
  | "&" => .ok (a &&& b)
  | "^" => .ok (a ^^^ b)
  | _ => .ok (a ||| b)

/-- How far an expression has been worked out: what is left of it, and what its assignments
make of the variables. -/
structure Reckoning where
  left : List Lexeme
  assigned : Environment

/-- An expression is worked out while it is read, so that the first fault counts. -/
abbrev Reckon := EStateM ArithmeticFault Reckoning

structure Variables where
  value? : String → Option String
  isFixed : String → Bool

namespace Reckon

def ofExcept {α : Type} : Except ArithmeticFault α → Reckon α
  | .ok a => return a
  | .error f => throw f

def goOn (rest : List Lexeme) : Reckon Unit := modify fun r => { r with left := rest }

/-- The number that a name stands for, where assignments of the expression come first. -/
def valueOf (v : Variables) (name : String) : Reckon Int64 := do
  let r ← get
  ofExcept (valueNumber (((r.assigned.get? name).orElse fun _ => v.value? name).getD ""))

def assign (v : Variables) (name : String) (n : Int64) : Reckon Unit := do
  if v.isFixed name then throw (.fixed name)
  modify fun r => { r with assigned := r.assigned.set name (toString n.toInt) }

mutual

/-- A number, a name, or what stands in parentheses or behind a sign. In an idle part, which
is only read, names do not count. -/
def primary (v : Variables) (idle : Bool) : Nat → Reckon Int64
  | 0 => throw .noPrimary
  | fuel + 1 => do
    match (← get).left with
    | .number n :: rest =>
      goOn rest
      return n
    | .name s :: rest =>
      goOn rest
      if idle then return 0 else valueOf v s
    | .mark "(" :: rest =>
      goOn rest
      let n ← assignment v idle fuel
      match (← get).left with
      | .mark ")" :: rest =>
        goOn rest
        return n
      | _ => throw .unclosed
    | .mark "+" :: rest =>
      goOn rest
      primary v idle fuel
    | .mark "-" :: rest =>
      goOn rest
      return -(← primary v idle fuel)
    | .mark "!" :: rest =>
      goOn rest
      return ofBool ((← primary v idle fuel) == 0)
    | .mark "~" :: rest =>
      goOn rest
      return ~~~(← primary v idle fuel)
    | _ => throw .noPrimary

def joined (v : Variables) (idle : Bool) : Nat → Nat → Int64 → Reckon Int64
  | 0, _, a => return a
  | fuel + 1, limit, a => do
    match (← get).left with
    | .mark m :: rest =>
      match strength? m with
      | some s =>
        if limit ≤ s then
          goOn rest
          let b ← joined v idle fuel (s + 1) (← primary v idle fuel)
          let c ← if idle then pure b else ofExcept (combine m a b)
          joined v idle fuel limit c
        else return a
      | none => return a
    | _ => return a

def conjunction (v : Variables) (idle : Bool) : Nat → Reckon Int64
  | 0 => throw .noPrimary
  | fuel + 1 => do
    let a ← joined v idle fuel 1 (← primary v idle fuel)
    match (← get).left with
    | .mark "&&" :: rest =>
      goOn rest
      let b ← conjunction v (idle || a == 0) fuel
      return ofBool (a != 0 && b != 0)
    | _ => return a

def disjunction (v : Variables) (idle : Bool) : Nat → Reckon Int64
  | 0 => throw .noPrimary
  | fuel + 1 => do
    let a ← conjunction v idle fuel
    match (← get).left with
    | .mark "||" :: rest =>
      goOn rest
      let b ← disjunction v (idle || a != 0) fuel
      return ofBool (a != 0 || b != 0)
    | _ => return a

def choice (v : Variables) (idle : Bool) : Nat → Reckon Int64
  | 0 => throw .noPrimary
  | fuel + 1 => do
    let a ← disjunction v idle fuel
    match (← get).left with
    | .mark "?" :: rest =>
      goOn rest
      let b ← assignment v (idle || a == 0) fuel
      match (← get).left with
      | .mark ":" :: rest =>
        goOn rest
        let c ← choice v (idle || a != 0) fuel
        return if a = 0 then c else b
      | _ => throw .noColon
    | _ => return a

def assignment (v : Variables) (idle : Bool) : Nat → Reckon Int64
  | 0 => throw .noPrimary
  | fuel + 1 => do
    match (← get).left with
    | .name s :: .mark m :: rest =>
      match assignment? m with
      | some op =>
        goOn rest
        let b ← assignment v idle fuel
        if idle then return b
        let c ← if op = "" then pure b else ofExcept (combine op (← valueOf v s) b)
        assign v s c
        return c
      | none => choice v idle fuel
    | _ => choice v idle fuel

end

def whole (v : Variables) (fuel : Nat) : Reckon Int64 := do
  let n ← assignment v false fuel
  if (← get).left ≠ [] then throw .notAtEnd
  return n

end Reckon

def evalArithmetic (v : Variables) (text : String) : Except ArithmeticFault Int64 × Environment :=
  let lexed := lexemes (text.length + 1) text.toList
  match (Reckon.whole v (8 * (lexed.length + 1))).run ⟨lexed, ⟨[]⟩⟩ with
  | .ok n r => (.ok n, r.assigned)
  | .error f r => (.error f, r.assigned)

end Assay.Shell
