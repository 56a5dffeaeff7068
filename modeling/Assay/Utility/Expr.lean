import Assay.Utility.Basic
import Assay.Utility.RegexReader

/-!
# Utilities that calculate

Whole numbers are taken apart into primes, and expressions are worked out.
-/

set_option autoImplicit false

namespace Assay.Utility

open Shell (Sh)

/-!
## The factor utility

A number is divided by small primes first. What is left is prime, or a walk
through its remainders finds a divisor.
-/

namespace Factor

def powerMod (m : Nat) : Nat → Nat → Nat → Nat
  | 0, _, _ => 1 % m
  | fuel + 1, base, n =>
    if n = 0 then 1 % m
    else
      let rest := powerMod m fuel (base * base % m) (n / 2)
      if n % 2 = 1 then rest * base % m else rest

def halve : Nat → Nat → Nat × Nat
  | 0, n => (0, n)
  | fuel + 1, n =>
    if n % 2 = 0 then
      let (k, odd) := halve fuel (n / 2)
      (k + 1, odd)
    else (0, n)

def reachesMinusOne (m : Nat) : Nat → Nat → Bool
  | 0, _ => false
  | k + 1, x => x == m - 1 || reachesMinusOne m k (x * x % m)

def bases : List Nat := [2, 3, 5, 7, 11, 13, 17, 19, 23, 29, 31, 37, 41]

def isPrime (m : Nat) : Bool :=
  let (k, odd) := halve m.log2 (m - 1)
  bases.all fun b =>
    let x := powerMod m (odd.log2 + 1) (b % m) odd
    b % m == 0 || x == 1 || reachesMinusOne m k x

def walk (m c : Nat) : Nat → Nat → Nat → Option Nat
  | 0, _, _ => none
  | fuel + 1, slow, fast =>
    let step := fun (x : Nat) => (x * x + c) % m
    let slow := step slow
    let fast := step (step fast)
    let d := Nat.gcd (if slow < fast then fast - slow else slow - fast) m
    if d = 1 then walk m c fuel slow fast else if d = m then none else some d

def divisor? (m : Nat) : Option Nat := [1, 2, 3, 5, 7].findSome? fun c => walk m c 2000000 2 2

def large : Nat → Nat → List Nat
  | 0, n => [n]
  | fuel + 1, n =>
    if n < 2 then []
    else if isPrime n then [n]
    else
      match divisor? n with
      | some d => large fuel d ++ large fuel (n / d)
      | none => [n]

/-- Prime factors from a divisor on; divisors are tried up to a bound. -/
def small : Nat → Nat → Nat → List Nat
  | 0, _, n => large n.log2 n
  | fuel + 1, d, n =>
    if n < 2 then []
    else if n < d * d then [n]
    else if n % d = 0 then d :: small fuel d (n / d)
    else small fuel (if d = 2 then 3 else d + 2) n

def primes (n : Nat) : List Nat := (small 20000 2 n).mergeSort fun a b => decide (a ≤ b)

def shown (powers : Bool) (n : Nat) : List String :=
  if powers then
    (primes n).eraseReps.map fun p =>
      let count := (primes n).count p
      toString p ++ if count = 1 then "" else "^" ++ toString count
  else (primes n).map toString

def read? (word : String) : Option Nat :=
  match word.toList.dropWhile (· == ' ') with
  | '+' :: cs => natural? (String.ofList cs)
  | cs => natural? (String.ofList cs)

def factorAll (powers : Bool) (status : Nat) : List String → Sh Nat
  | [] => return status
  | word :: rest => do
    match read? word with
    | some n =>
      let line := String.intercalate " " ((toString n ++ ":") :: shown powers n)
      factorAll powers (← emitWith "factor" status (line ++ "\n")) rest
    | none =>
      blame "factor" (quotedText word ++ " is not a valid positive integer")
      factorAll powers 1 rest

end Factor

open Factor in
def factor : Tool := fun _ arguments =>
  withOptions "factor" 1 ⟨"h", [("exponents", 'h')], false⟩ arguments fun g => do
    let powers := g.has 'h'
    if !g.operands.isEmpty then factorAll powers 0 g.operands
    else
      match ← input? "factor" with
      | none => return 1
      | some cs =>
        let isBlank := fun (c : Char) => c == ' ' || c == '\t' || c == '\n'
        let words := (cs.splitBy fun a b => isBlank a == isBlank b).filter fun w =>
          !(w.head?.any isBlank)
        factorAll powers 0 (words.map String.ofList)

/-!
## The expr utility

Its operands make up an expression over whole numbers and texts, of which the
value is written.
-/

namespace Expr

structure Operands where
  last : String
  rest : List String

def shown (text : String) : String := quotedText (String.ofList (narrow text.toList))

abbrev Evaluating := StateT Operands (Except String)

def integer? (text : String) : Option Int :=
  match text.toList with
  | '-' :: ds => if ds.isEmpty then none else (natural? (String.ofList ds)).map fun n => -(n : Int)
  | _ => (natural? text).map Int.ofNat

def isNull (text : String) : Bool :=
  text.isEmpty ||
    match text.toList with
    | '-' :: '0' :: ds => ds.all (· == '0')
    | ds => ds.all (· == '0')

def accept? (words : List String) : Evaluating (Option String) := do
  match (← get).rest with
  | word :: rest =>
    if words.contains word then
      set (Operands.mk word rest)
      return some word
    else return none
  | [] => return none

def next : Evaluating String := do
  let o ← get
  match o.rest with
  | word :: rest =>
    set (Operands.mk word rest)
    return word
  | [] => throw ("syntax error: missing argument after " ++ shown o.last)

def numbers (a b : String) : Evaluating (Int × Int) := do
  match integer? a, integer? b with
  | some x, some y => return (x, y)
  | _, _ => throw "non-integer argument"

def calculate (op a b : String) : Evaluating String := do
  let (x, y) ← numbers a b
  match op with
  | "+" => return toString (x + y)
  | "-" => return toString (x - y)
  | "*" => return toString (x * y)
  | _ =>
    if y = 0 then throw "division by zero"
    return toString (if op = "/" then x.tdiv y else x.tmod y)

def compare (op a b : String) : String :=
  let order : Ordering := match integer? a, integer? b with
    | some x, some y => Ord.compare x y
    | _, _ => Ord.compare a b
  let holds : Bool := match op with
    | "<" => order == .lt
    | "<=" => order != .gt
    | "=" => order == .eq
    | "==" => order == .eq
    | "!=" => order != .eq
    | ">=" => order != .lt
    | _ => order == .gt
  if holds then "1" else "0"

def matchText (text pattern : String) : Evaluating String := do
  match Regex.parse { extended := false, ignoreCase := false, emptyRanges := true } pattern with
  | .error e => throw e
  | .ok (r, groups) =>
    let input := text.toList.toArray
    match Regex.searchFrom r input 1 0 with
    | some found =>
      if groups = 0 then return toString (found.stop - found.start)
      else return (found.group? input 1).getD ""
    | none => return if groups = 0 then "0" else ""

/-- Place of the first character of a text that is among some, counted from one. -/
def indexOf (text chars : String) : Nat :=
  match text.toList.findIdx? fun c => chars.contains c with
  | some i => i + 1
  | none => 0

def substring (text start length : String) : String :=
  match integer? start, integer? length with
  | some (.ofNat (i + 1)), some (.ofNat n) => String.ofList ((text.toList.drop i).take n)
  | _, _ => ""

def levels : List (List String) :=
  [["|"], ["&"], ["<", "<=", "=", "==", "!=", ">=", ">"], ["+", "-"], ["*", "/", "%"], [":"]]

def needsRight (op a : String) : Bool :=
  match op with
  | "|" => isNull a
  | "&" => !isNull a
  | _ => true

def joinValues (op a b : String) : Evaluating String :=
  match op with
  | "|" => return if !isNull a then a else if isNull b then "0" else b
  | "&" => return if isNull a || isNull b then "0" else a
  | ":" => matchText a b
  | "+" | "-" | "*" | "/" | "%" => calculate op a b
  | _ => return compare op a b

mutual

/-- The value of an expression, of which the operators are those of some levels. What does not
matter is read only. -/
def expression : Nat → List (List String) → Bool → Evaluating String
  | 0, _, _ => throw "syntax error"
  | fuel + 1, [], live => operand fuel live
  | fuel + 1, ops :: inner, live => do
    let a ← expression fuel inner live
    chain fuel ops inner live a

def chain : Nat → List String → List (List String) → Bool → String → Evaluating String
  | 0, _, _, _, a => return a
  | fuel + 1, ops, inner, live, a => do
    match ← accept? ops with
    | some op =>
      let b ← expression fuel inner (live && needsRight op a)
      chain fuel ops inner live (← if live then joinValues op a b else pure a)
    | none => return a

def operand : Nat → Bool → Evaluating String
  | 0, _ => throw "syntax error"
  | fuel + 1, live => do
    let word ← next
    match word with
    | "(" =>
      let value ← expression fuel levels live
      let o ← get
      match o.rest with
      | ")" :: rest =>
        set (Operands.mk ")" rest)
        return value
      | [] => throw ("syntax error: expecting ')' after " ++ shown o.last)
      | found :: _ => throw ("syntax error: expecting ')' instead of " ++ shown found)
    | ")" => throw "syntax error: unexpected ')'"
    | "+" => next
    | "length" => return toString (← operand fuel live).length
    | "match" =>
      let text ← operand fuel live
      let pattern ← operand fuel live
      if live then matchText text pattern else return text
    | "index" =>
      let text ← operand fuel live
      return toString (indexOf text (← operand fuel live))
    | "substr" =>
      let text ← operand fuel live
      let start ← operand fuel live
      return substring text start (← operand fuel live)
    | _ => return word

end

def whole (words : List String) : Except String String := do
  let (value, o) ← (expression (12 * words.length + 12) levels true).run ⟨"", words⟩
  match o.rest with
  | [] => return value
  | word :: _ => throw ("syntax error: unexpected argument " ++ shown word)

end Expr

def expr : Tool := fun _ arguments => do
  let words := match arguments with
    | "--" :: rest => rest
    | _ => arguments
  if words.isEmpty then refuse "expr" 2 "missing operand"
  else
    let wide ← isWide
    let words := if wide then words.map fun w => String.ofList (widen w.toList) else words
    match Expr.whole words with
    | .error text =>
      blame "expr" text
      return 2
    | .ok value =>
      let text := if wide then String.ofList (narrow value.toList) else value
      emitWith "expr" (if Expr.isNull value then 1 else 0) (text ++ "\n")

end Assay.Utility
