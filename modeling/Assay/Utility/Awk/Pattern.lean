import Assay.Shell.Format
import Assay.Utility.Regex

/-!
# Patterns of a program

An expression is written with groups, bounds and alternatives that need no
backslash. Every operator needs something to work on, a backslash also counts
within a set, and characters are octets.
-/

set_option autoImplicit false

namespace Assay.Utility.Awk

open Shell (SetItem)

namespace Pattern

/-- What is left of an expression that is read, and the groups that are open. -/
structure Scan where
  rest : List Char
  depth : Nat

abbrev Reading := StateT Scan (Except String)

def missing : String := "missing operand"

def badSet : String := "bad class -- [], [^] or ["

def kindRanges? (name : String) : Option (List SetItem) :=
  (Shell.kind? name).map fun p =>
    (List.range 128).filterMap fun n =>
      let c := Char.ofNat n
      if p c then some (.range c c) else none

def letter? (c : Char) : Option Char := if c = 'e' then none else Shell.escaped? c

def escaped (c : Char) (cs : List Char) : Char × List Char :=
  match letter? c with
  | some d => (d, cs)
  | none => if Shell.isOctal c then Shell.octalChar 3 (c :: cs) else (c, cs)

def member : List Char → Option (Char × List Char)
  | [] => none
  | '\\' :: c :: cs => some (escaped c cs)
  | c :: cs => some (c, cs)

def members : Nat → Bool → List Char → Except String (List SetItem × List Char)
  | 0, _, _ => .error badSet
  | fuel + 1, first, cs =>
    match cs with
    | ']' :: rest =>
      if first then
        (members fuel false rest).map fun (items, rest) => (.range ']' ']' :: items, rest)
      else .ok ([], rest)
    | '[' :: ':' :: more =>
      let (name, tail) := more.span Char.isAlpha
      match tail with
      | ':' :: ']' :: rest =>
        match kindRanges? (String.ofList name) with
        | some found => (members fuel false rest).map fun (items, rest) => (found ++ items, rest)
        | none => .error badSet
      | _ =>
        (members fuel false (':' :: more)).map fun (items, rest) => (.range '[' '[' :: items, rest)
    | _ =>
      match member cs with
      | none => .error badSet
      | some (low, rest) =>
        let ranged? : Option (Char × List Char) := match rest with
          | '-' :: ']' :: _ => none
          | '-' :: more => (member more).filter fun high => decide (low ≤ high.1)
          | _ => none
        match ranged? with
        | some (high, rest) =>
          (members fuel false rest).map fun (items, rest) => (.range low high :: items, rest)
        | none =>
          (members fuel false rest).map fun (items, rest) => (.range low low :: items, rest)

def bound? (cs : List Char) : Option (Nat × Option Nat × List Char) :=
  let value := fun (ds : List Char) =>
    ds.foldl (fun (n : Nat) d => n * 10 + (d.toNat - '0'.toNat)) 0
  let (low, rest) := cs.span Char.isDigit
  match rest with
  | '\x7d' :: rest => if low.isEmpty then none else some (value low, some (value low), rest)
  | ',' :: rest =>
    let (high, rest) := rest.span Char.isDigit
    match rest with
    | '\x7d' :: rest => some (value low, if high.isEmpty then none else some (value high), rest)
    | _ => none
  | _ => none

def timesLimit : Nat := 255

/-- Repeats something as a bound asks for. What is a single character is repeated just as often
as it has to be, if that is more than once. -/
def repeated (r : Regex) (low : Nat) (high : Option Nat) : Except String Regex :=
  if high.any fun h => decide (h < low) then .error "bad interval expression"
  else
    let high := if r.single?.isSome && decide (2 ≤ low) then some low else high
    .ok (.times r (min low timesLimit) (high.map (min timesLimit)))

def repetitions : Nat → Regex → Reading Regex
  | 0, r => return r
  | fuel + 1, r => do
    let s ← get
    match s.rest with
    | '*' :: rest =>
      set { s with rest := rest }
      repetitions fuel (.times r 0 none)
    | '+' :: rest =>
      set { s with rest := rest }
      repetitions fuel (.times r 1 none)
    | '?' :: rest =>
      set { s with rest := rest }
      repetitions fuel (.times r 0 (some 1))
    | '\x7b' :: rest =>
      match bound? rest with
      | none => return r
      | some (low, high, rest) =>
        set { s with rest := rest }
        repetitions fuel (← repeated r low high)
    | _ => return r

def endsBranch (s : Scan) : Bool :=
  match s.rest with
  | [] => true
  | '|' :: _ => true
  | ')' :: _ => s.depth != 0
  | _ => false

mutual

def alternatives : Nat → Reading Regex
  | 0 => throw missing
  | fuel + 1 => do
    let a ← branch fuel none
    otherAlternatives fuel a

def otherAlternatives : Nat → Regex → Reading Regex
  | 0, _ => throw missing
  | fuel + 1, a => do
    let s ← get
    match s.rest with
    | '|' :: rest =>
      set { s with rest := rest }
      let b ← branch fuel none
      otherAlternatives fuel (.either a b)
    | _ => return a

def branch : Nat → Option Regex → Reading Regex
  | 0, _ => throw missing
  | fuel + 1, before => do
    if endsBranch (← get) then
      match before with
      | some r => return r
      | none => throw missing
    else
      let b ← single fuel
      branch fuel (some (match before with
        | some a => .both a b
        | none => b))

def single : Nat → Reading Regex
  | 0 => throw missing
  | fuel + 1 => do
    let s ← get
    let plain := fun (r : Regex) (rest : List Char) => do
      set { s with rest := rest }
      repetitions (rest.length + 1) r
    match s.rest with
    | [] => throw missing
    | '^' :: rest =>
      match rest with
      | '*' :: _ | '+' :: _ => throw "syntax error ^* or ^+"
      | _ =>
        set { s with rest := rest }
        return .textStart
    | '$' :: rest => plain .textEnd rest
    | '.' :: rest => plain .any rest
    | '[' :: rest =>
      let (negated, body) := match rest with
        | '^' :: body => (true, body)
        | _ => (false, rest)
      let (items, rest) ← members (body.length + 1) true body
      plain (.oneOf negated items) rest
    | '(' :: rest =>
      if rest.isEmpty then throw "missing ')'"
      set (⟨rest, s.depth + 1⟩ : Scan)
      let r ← alternatives fuel
      let t ← get
      match t.rest with
      | ')' :: rest =>
        set (⟨rest, s.depth⟩ : Scan)
        repetitions (rest.length + 1) r
      | _ => throw "missing ')'"
    | '\\' :: c :: rest =>
      let (d, rest) := escaped c rest
      plain (.char d) rest
    | '\x7b' :: rest =>
      match bound? rest with
      | some _ => throw "resource exhaustion -- regular expression too large"
      | none => plain (.char '\x7b') rest
    | c :: rest =>
      if c = '*' || c = '+' || c = '?' then throw missing else plain (.char c) rest

end

def read (text : String) : Except String Regex :=
  if text = "" then .ok .empty
  else
    let fuel := 4 * text.length + 8
    match (alternatives fuel).run ⟨text.toList, 0⟩ with
    | .ok (r, _) => .ok r
    | .error e => .error ("regular expression compile failed (" ++ e ++ ")\n" ++ text)

end Pattern

inductive Separator where
  | blanks
  | nothing
  | char (c : Char)
  | pattern (r : Regex)

namespace Separator

def read (text : String) : Except String Separator :=
  match text.toList with
  | [] => .ok .nothing
  | [' '] => .ok .blanks
  | [c] => .ok (.char c)
  | _ => (Pattern.read text).map .pattern

def isBlank (c : Char) : Bool := c == ' ' || c == '\t' || c == '\n'

def splitBlanks (cs : List Char) : List String :=
  (cs.splitBy fun a b => isBlank a == isBlank b).filterMap fun part =>
    if part.head?.any isBlank then none else some (String.ofList part)

def solidMatch? (r : Regex) (input : Array Char) : Nat → Nat → Option Regex.Found
  | 0, _ => none
  | fuel + 1, i =>
    match r.search input i with
    | none => none
    | some f => if f.start < f.stop then some f else solidMatch? r input fuel (f.start + 1)

def splitMatches (r : Regex) (input : Array Char) : Nat → Nat → List String
  | 0, _ => []
  | fuel + 1, i =>
    match solidMatch? r input (input.size + 1 - i) i with
    | none => [String.ofList (input.extract i input.size).toList]
    | some f =>
      String.ofList (input.extract i f.start).toList :: splitMatches r input fuel f.stop

def split (s : Separator) (text : String) : List String :=
  if text = "" then []
  else
    match s with
    | .blanks => splitBlanks text.toList
    | .nothing => text.toList.map String.singleton
    | .char c => text.splitOn (String.singleton c)
    | .pattern r =>
      let input := text.toList.toArray
      splitMatches r input (input.size + 1) 0

end Separator

inductive Replacement where
  | text (cs : List Char)
  | whole
deriving DecidableEq, Repr

namespace Replacement

/-- Reads a replacement behind some backslashes. An ampersand stands for the match; in front of
it each two backslashes are one, and one that is left makes it stand for itself. -/
def readBehind : Nat → List Char → List Replacement
  | n, [] => [.text (List.replicate n '\\')]
  | n, '\\' :: cs => readBehind (n + 1) cs
  | n, '&' :: cs =>
    .text (List.replicate (n / 2) '\\') ::
      (if n % 2 = 1 then .text ['&'] else .whole) :: readBehind 0 cs
  | n, c :: cs => .text (List.replicate n '\\' ++ [c]) :: readBehind 0 cs

def read (cs : List Char) : List Replacement := readBehind 0 cs

def fill (ps : List Replacement) (matched : List Char) : List Char :=
  ps.flatMap fun p => match p with
    | .text cs => cs
    | .whole => matched

/-- Replaces matches from a place on, all of them or the first one, with fuel for each place.
`behind` tells that a match ends here. Yields the text, last first, and the number of them. -/
def replaceFrom (r : Regex) (ps : List Replacement) (everywhere : Bool) (input : Array Char) :
    Nat → Nat → Bool → List Char → Nat → List Char × Nat
  | 0, _, _, out, n => (out, n)
  | fuel + 1, i, behind, out, n =>
    let finish := fun (out : List Char) (i : Nat) =>
      (input.extract i input.size).toList.reverse ++ out
    match if input.size < i then none else r.search input i with
    | none => (finish out i, n)
    | some f =>
      let between := (input.extract i f.start).toList.reverse ++ out
      let isEmpty := f.start == f.stop
      let step := (input.extract f.stop (f.stop + 1)).toList
      if isEmpty && behind && f.start == i then
        replaceFrom r ps everywhere input fuel (f.stop + 1) false (step.reverse ++ between) n
      else
        let matched := (input.extract f.start f.stop).toList
        let out := (fill ps matched).reverse ++ between
        if !everywhere then (finish out f.stop, n + 1)
        else if isEmpty then
          replaceFrom r ps everywhere input fuel (f.stop + 1) false (step.reverse ++ out) (n + 1)
        else replaceFrom r ps everywhere input fuel f.stop true out (n + 1)

def replace (r : Regex) (ps : List Replacement) (everywhere : Bool) (text : String) :
    String × Nat :=
  let input := text.toList.toArray
  let (out, n) := replaceFrom r ps everywhere input (2 * input.size + 4) 0 false [] 0
  (String.ofList out.reverse, n)

end Replacement

end Assay.Utility.Awk
