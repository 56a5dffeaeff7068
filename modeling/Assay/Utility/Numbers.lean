import Assay.Utility.Basic

/-!
# Numbers and words of options

An option may ask for a number, with a letter for its unit, that lies between
two bounds, or for one of several words, of which the start is enough.
-/

set_option autoImplicit false

namespace Assay.Utility

inductive Misread where
  | malformed
  | beyond
deriving DecidableEq, Repr

namespace Numeral

def highest (signed : Bool) : Int :=
  if signed then 9223372036854775807 else 18446744073709551615

def lowest (signed : Bool) : Int := if signed then -9223372036854775808 else 0

def unitLetters : List Char := ['K', 'M', 'G', 'T', 'P', 'E', 'Z', 'Y', 'R', 'Q']

def power? (c : Char) : Option Nat :=
  let large := if ['k', 'm', 'g', 't'].contains c then c.toUpper else c
  (unitLetters.findIdx? (· == large)).map (· + 1)

def scale? (units : String) (unit : List Char) : Option Nat :=
  match unit with
  | [] => some 1
  | c :: more =>
    if !units.contains c then none
    else
      match power? c, c with
      | some n, _ =>
        if more.isEmpty then some (Nat.pow 1024 n)
        else if !units.contains '0' then none
        else if more = ['i', 'B'] then some (Nat.pow 1024 n)
        else if more = ['B'] ∨ more = ['D'] then some (Nat.pow 1000 n)
        else none
      | none, 'b' => if more.isEmpty then some 512 else none
      | none, 'B' => if more.isEmpty then some 1024 else none
      | none, 'c' => if more.isEmpty then some 1 else none
      | none, 'w' => if more.isEmpty then some 2 else none
      | none, _ => none

def read (units : String) (signed : Bool) (text : String) : Except Misread Int :=
  let isBlank := fun (c : Char) => c == ' ' || decide ('\t' ≤ c ∧ c ≤ '\x0d')
  let body := text.toList.dropWhile isBlank
  let (negative, body) := match body with
    | '-' :: cs => (true, cs)
    | '+' :: cs => (false, cs)
    | _ => (false, body)
  let (digits, unit) := body.span Char.isDigit
  if negative && !signed then .error .malformed
  else if digits.isEmpty then
    match text.toList, scale? units text.toList with
    | _ :: _, some scale => .ok scale
    | _, _ => .error .malformed
  else
    let count := digits.foldl (fun n d => n * 10 + (d.toNat - '0'.toNat)) 0
    match scale? units unit with
    | none => .error .malformed
    | some scale =>
      let value := (if negative then -(count : Int) else count) * scale
      if value < lowest signed ∨ highest signed < value then .error .beyond else .ok value

def bounded (units : String) (signed : Bool) (low high : Int) (what text : String) :
    Except String Int :=
  let complaint := what ++ ": " ++ quotedText text
  match read units signed text with
  | .error .malformed => .error complaint
  | .error .beyond => .error (complaint ++ ": Value too large for defined data type")
  | .ok n =>
    if low ≤ n ∧ n ≤ high then .ok n
    else if -1073741824 ≤ n ∧ n ≤ 1073741823 then
      .error (complaint ++ ": Numerical result out of range")
    else .error (complaint ++ ": Value too large for defined data type")

def amountUnits : String := "bkKmMGTPEZYRQ0"

def natural (units : String) (low : Nat) (what text : String) : Except String Nat :=
  (bounded units false low (highest false) what text).map Int.toNat

end Numeral

def shownChoices (rows : List (List String)) : String :=
  "Valid arguments are:" ++ String.join (rows.map fun row =>
    "\n  - " ++ String.intercalate ", " (row.map quotedText))

def chooseRow (option : String) (rows : List (List String)) (word : String) :
    Except String Nat :=
  let wrong := fun (problem : String) =>
    problem ++ " argument " ++ quotedText word ++ " for " ++ quotedText option ++ "\n" ++
      shownChoices rows
  match rows.findIdx? fun row => row.contains word with
  | some n => .ok n
  | none =>
    match (rows.zipIdx.filter fun r => r.1.any fun w => w.startsWith word).map Prod.snd with
    | [] => .error (wrong "invalid")
    | [n] => .ok n
    | _ => .error (wrong "ambiguous")

def settle {α : Type} (name : String) (status : Nat) (read : Except String α)
    (body : α → Shell.Sh Nat) : Shell.Sh Nat := do
  match read with
  | .ok value => body value
  | .error text =>
    blame name text
    return status

/-- Settles an option for which a wrong text calls for a hint as well. -/
def settleWithHint {α : Type} (name : String) (status : Nat) (read : Except String α)
    (body : α → Shell.Sh Nat) : Shell.Sh Nat := do
  match read with
  | .ok value => body value
  | .error text => refuse name status text

def Given.read {α : Type} (g : Given) (c : Char) (default : α)
    (read : String → Except String α) : Except String α :=
  match g.text? c with
  | none => .ok default
  | some text => read text

def partsBy (stop : Char) (cs : List Char) : List (List Char) :=
  let (part, rest) := cs.foldr
    (fun c p => if c = stop then ([], p.1 :: p.2) else (c :: p.1, p.2))
    (([], []) : List Char × List (List Char))
  match (part :: rest).reverse with
  | [] :: before => before.reverse
  | all => all.reverse

def endAll (stop : Char) (lines : List (List Char)) : String :=
  String.ofList (lines.flatMap fun line => line ++ [stop])

end Assay.Utility
