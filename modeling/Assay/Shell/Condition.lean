import Assay.Shell.Arithmetic
import Assay.Shell.Session

/-!
# Conditions

A condition is a row of words that test texts, numbers and files. What a word
means depends on the words behind it, so that any text can be tested.
-/

set_option autoImplicit false

namespace Assay.Shell

def readDecimal? (text : String) : Option Int :=
  let isBlank := fun (c : Char) => c == ' ' || decide ('\t' ≤ c ∧ c ≤ '\x0d')
  let (negative, digits) := match text.toList.dropWhile isBlank with
    | '-' :: ds => (true, ds)
    | '+' :: ds => (false, ds)
    | ds => (false, ds)
  let (n, rest) := readDigits 10 digits
  let z : Int := if negative then -(n : Int) else n
  if digits.head?.any Char.isDigit && rest.all isBlank
      && decide (Int64.minValue.toInt ≤ z ∧ z ≤ Int64.maxValue.toInt) then
    some z
  else none

namespace Condition

inductive Mark where
  | finish
  | operand
  | negation
  | conjunction
  | disjunction
  | opening
  | closing
  | unary (f : Session → String → Except String Bool)
  | binary (f : Session → String → String → Except String Bool)

def number (text : String) : Except String Int :=
  match readDecimal? text with
  | some n => .ok n
  | none => .error ("Illegal number: " ++ text)

def behind? (s : Session) : Sink → Option Inode
  | .file k => (s.opened? k).bind fun f => s.files.nodes[f.node]?
  | .device d => some ⟨.device d, 0o666, s.epoch⟩
  | .input 0 => some ⟨.device .null, 0o666, s.epoch⟩
  | _ => some ⟨.pipe, 0o600, s.epoch⟩

def standing? (s : Session) (path : String) : Option Inode :=
  match s.files.nodeAt true s.folder (readable path) with
  | .ok ⟨.device (.descriptor n), _, _⟩ => (s.sink? n).bind (behind? s)
  | .ok n => some n
  | .error _ => none

def ofNode (f : Inode → Bool) : Session → String → Except String Bool :=
  fun s path => .ok ((standing? s path).any f)

def ofEntry (f : Entry → Bool) : Session → String → Except String Bool :=
  ofNode fun n => f n.entry

def ofMode (bit : Nat) : Session → String → Except String Bool :=
  ofNode fun n => n.mode &&& bit != 0

def isDevice : Entry → Bool
  | .device _ => true
  | _ => false

def hasContent (e : Entry) : Bool := e.isFolder || (e.content?.any fun bytes => !bytes.isEmpty)

def isLink (s : Session) (path : String) : Bool := s.files.isLink s.folder (readable path)

def unaryTests : List (String × (Session → String → Except String Bool)) := [
  ("-n", fun _ a => .ok (a != "")),
  ("-z", fun _ a => .ok (a == "")),
  ("-e", ofEntry fun _ => true),
  ("-r", ofEntry fun _ => true),
  ("-w", ofEntry fun _ => true),
  ("-x", ofNode fun n => n.entry.isFolder || n.isExecutable),
  ("-f", ofEntry Entry.isRegular),
  ("-d", ofEntry Entry.isFolder),
  ("-s", ofEntry hasContent),
  ("-c", ofEntry isDevice),
  ("-O", ofEntry fun _ => true),
  ("-G", ofEntry fun _ => true),
  ("-k", ofMode 0o1000),
  ("-b", ofEntry fun _ => false),
  ("-p", ofEntry fun e => e == .pipe),
  ("-u", ofMode 0o4000),
  ("-g", ofMode 0o2000),
  ("-h", fun s path => .ok (isLink s path)),
  ("-L", fun s path => .ok (isLink s path)),
  ("-S", ofEntry fun _ => false),
  ("-t", fun _ a => do
    let _ ← number a
    return false)]

def ofNumbers (f : Int → Int → Bool) : Session → String → String → Except String Bool :=
  fun _ a b => do return f (← number a) (← number b)

def isSame (s : Session) (a b : String) : Bool :=
  let number? := fun path => s.files.numberAt? s.folder (readable path)
  (number? a).isSome && number? a == number? b

def isNewer (s : Session) (a b : String) : Bool :=
  match standing? s a, standing? s b with
  | some m, some n => decide (n.time < m.time)
  | _, _ => false

def binaryTests : List (String × (Session → String → String → Except String Bool)) := [
  ("=", fun _ a b => .ok (a == b)),
  ("!=", fun _ a b => .ok (a != b)),
  ("<", fun _ a b => .ok (decide (a < b))),
  (">", fun _ a b => .ok (decide (b < a))),
  ("-eq", ofNumbers (· == ·)),
  ("-ne", ofNumbers (· != ·)),
  ("-lt", ofNumbers fun a b => decide (a < b)),
  ("-le", ofNumbers fun a b => decide (a ≤ b)),
  ("-gt", ofNumbers fun a b => decide (b < a)),
  ("-ge", ofNumbers fun a b => decide (b ≤ a)),
  ("-nt", fun s a b => .ok (isNewer s a b)),
  ("-ot", fun s a b => .ok (isNewer s b a)),
  ("-ef", fun s a b => .ok (isSame s a b))]

def binary? (word : String) : Option (Session → String → String → Except String Bool) :=
  (binaryTests.find? fun t => t.1 == word).map Prod.snd

def unary? (word : String) : Option (Session → String → Except String Bool) :=
  (unaryTests.find? fun t => t.1 == word).map Prod.snd

def isOperand : List String → Bool
  | [] => true
  | [_] => false
  | word :: _ => (binary? word).isSome

def mark : List String → Mark
  | [] => .finish
  | word :: rest =>
    match word with
    | "!" => .negation
    | "-a" => .conjunction
    | "-o" => .disjunction
    | "(" => if rest.isEmpty then .operand else .opening
    | ")" => .closing
    | _ =>
      match unary? word, binary? word with
      | some f, _ => if isOperand rest then .operand else .unary f
      | none, some f => .binary f
      | none, none => .operand

mutual

/-- Alternatives; the words that are left start with the last one that was taken. -/
def alternatives (s : Session) :
    Nat → Bool → List String → Except String (Bool × List String)
  | 0, sofar, words => .ok (sofar, words)
  | fuel + 1, sofar, words => do
    let (b, words) ← joined s fuel true words
    match mark words.tail with
    | .disjunction => alternatives s fuel (sofar || b) (words.drop 2)
    | _ => return (sofar || b, words)

def joined (s : Session) : Nat → Bool → List String → Except String (Bool × List String)
  | 0, sofar, words => .ok (sofar, words)
  | fuel + 1, sofar, words => do
    let (b, words) ← negated s fuel words
    match mark words.tail with
    | .conjunction => joined s fuel (sofar && b) (words.drop 2)
    | _ => return (sofar && b, words)

def negated (s : Session) : Nat → List String → Except String (Bool × List String)
  | 0, words => .ok (false, words)
  | fuel + 1, words =>
    match mark words with
    | .negation => do
      let (b, words) ← negated s fuel (if words.length = 1 then [] else words.tail)
      return (!b, words)
    | _ => primary s fuel words

def primary (s : Session) : Nat → List String → Except String (Bool × List String)
  | 0, words => .ok (false, words)
  | fuel + 1, words => do
    let word := words.headD ""
    match mark words with
    | .finish => return (false, words)
    | .opening =>
      match mark words.tail with
      | .closing => return (false, words.tail)
      | _ =>
        let (b, words) ← alternatives s fuel false words.tail
        match mark words.tail with
        | .closing => return (b, words.tail)
        | _ => throw "closing paren expected"
    | .unary f =>
      match words.tail with
      | [] => throw (word ++ ": argument expected")
      | a :: rest => return (← f s a, a :: rest)
    | _ => comparison s word words

def comparison (s : Session) (word : String) (words : List String) :
    Except String (Bool × List String) := do
  match mark words.tail with
  | .binary f =>
    match words.drop 2 with
    | [] => throw (words.tail.headD "" ++ ": argument expected")
    | b :: rest => return (← f s word b, b :: rest)
  | _ => return (word != "", words)

end

def whole (s : Session) (words : List String) : Except String Bool := do
  let (b, rest) ← alternatives s (5 * words.length + 5) false words
  match rest with
  | last :: _ :: _ =>
    throw (if last = "" then "unexpected operator" else last ++ ": unexpected operator")
  | _ => return b

def isComparison : List String → Bool
  | [_, op, _] => (binary? op).isSome
  | _ => false

/-- Evaluates the words of a condition. Where there are few of them, a comparison, a
parenthesis and a negation come before any other meaning. -/
def eval (s : Session) (negate : Bool) : List String → Except String Bool
  | [] => .ok negate
  | a :: rest =>
    let few := rest.length == 2 || rest.length == 3
    if isComparison (a :: rest) then
      (comparison s a (a :: rest)).map fun r => r.1 != negate
    else if few && a == "(" && rest.getLast? == some ")" then
      (whole s rest.dropLast).map fun b => b != negate
    else if few && a == "!" then eval s true rest
    else (whole s (a :: rest)).map fun b => b != negate

end Condition

end Assay.Shell
