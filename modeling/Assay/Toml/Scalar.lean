import Assay.Binary64.Basic
import Assay.Binary64.Decimal

/-!
# TOML tables and scalars

What a TOML document holds, and how it is written where no quotes are.
-/

set_option autoImplicit false

namespace Assay.Toml

/-!
## TOML tables

A table remembers how it came about, because that decides who may add to it:
a table written inline is closed, one opened by a header takes the keys under
that header, and one that only dotted keys or longer headers imply may still
be filled in by their like.
-/

inductive TableKind where
  | inline
  | opened
  | implied
  | dotted
deriving DecidableEq, Repr

inductive Item where
  | string (s : String)
  | integer (z : Int)
  | float (x : Binary64)
  /-- A numeral that stands for no number: a float too large to be finite, or a radix
  mark without digits. -/
  | void
  | bool (b : Bool)
  | datetime
  | array (items : List Item)
  | table (kind : TableKind) (entries : List (String × Item))
  | tables (elements : List (List (String × Item)))

abbrev Entries := List (String × Item)

namespace Entries

def get? (entries : Entries) (key : String) : Option Item :=
  (entries.find? fun e => e.1 == key).map Prod.snd

def put (entries : Entries) (key : String) (item : Item) : Entries :=
  if (entries.get? key).isSome then
    entries.map fun e => if e.1 == key then (key, item) else e
  else entries ++ [(key, item)]

def add? (entries : Entries) (key : String) (item : Item) : Option Entries :=
  if (entries.get? key).isSome then none else some (entries ++ [(key, item)])

end Entries

def changeLast? {α : Type} (f : α → Option α) : List α → Option (List α)
  | [] => none
  | [a] => (f a).map ([·])
  | a :: as => (changeLast? f as).map (a :: ·)

/-- Adds a value below a path of dotted keys. The table that takes it is one that dotted
keys made; a list of tables may only be passed through. -/
def addDotted? (key : String) (item : Item) : List String → Entries → Option Entries
  | [], entries => entries.add? key item
  | [k], entries =>
    match entries.get? k with
    | none => some (entries.put k (.table .dotted [(key, item)]))
    | some (.table .dotted inner) =>
      (Entries.add? inner key item).map fun e => entries.put k (.table .dotted e)
    | some _ => none
  | k :: ks, entries =>
    match entries.get? k with
    | none => (addDotted? key item ks []).map fun e => entries.put k (.table .dotted e)
    | some (.table .dotted inner) =>
      (addDotted? key item ks inner).map fun e => entries.put k (.table .dotted e)
    | some (.table .implied inner) =>
      (addDotted? key item ks inner).map fun e => entries.put k (.table .implied e)
    | some (.tables elements) =>
      (changeLast? (addDotted? key item ks) elements).map fun es => entries.put k (.tables es)
    | some _ => none

/-- Changes the table that a header's path leads to, from the root. Missing tables
on the way are implied; a list of tables is entered at its last element. -/
def changeAt? (f : Entries → Option Entries) : List String → Entries → Option Entries
  | [], entries => f entries
  | k :: ks, entries =>
    match entries.get? k with
    | none => (changeAt? f ks []).map fun e => entries.put k (.table .implied e)
    | some (.table .inline _) => none
    | some (.table kind inner) =>
      (changeAt? f ks inner).map fun e => entries.put k (.table kind e)
    | some (.tables elements) =>
      (changeLast? (changeAt? f ks) elements).map fun es => entries.put k (.tables es)
    | some _ => none

def openTable? (key : String) (entries : Entries) : Option Entries :=
  match entries.get? key with
  | none => some (entries.put key (.table .opened []))
  | some (.table .implied inner) => some (entries.put key (.table .opened inner))
  | some _ => none

def openElement? (key : String) (entries : Entries) : Option Entries :=
  match entries.get? key with
  | none => some (entries.put key (.tables [[]]))
  | some (.tables elements) => some (entries.put key (.tables (elements ++ [[]])))
  | some _ => none

/-!
## TOML scalars

A scalar without quotes is a run of characters that is a truth value, a
numeral, a date or a time. Underscores may stand between digits. A time may
leave out its seconds.
-/

/-- Any character that neither ends a value nor stands between values. -/
def isScalarChar (c : Char) : Bool :=
  !(c == '=' || c == ',' || c == '[' || c == ']' || c == '\x7b' || c == '\x7d' ||
    c == ' ' || c == '\t' || c == '#' || c == '\r' || c == '\n')

def digitRun? (isDigit : Char → Bool) : List Char → Option (List Char)
  | [] => none
  | [c] => if isDigit c then some [c] else none
  | c :: '_' :: cs => if isDigit c then (digitRun? isDigit cs).map (c :: ·) else none
  | c :: cs => if isDigit c then (digitRun? isDigit cs).map (c :: ·) else none

def decimalRun? (cs : List Char) : Option (List Char) := digitRun? Char.isDigit cs

/-- Digits of a whole part: a zero alone, or no leading zero. -/
def wholeRun? (cs : List Char) : Option (List Char) :=
  match decimalRun? cs with
  | some ('0' :: _ :: _) => none
  | r => r

def radixValue (radix : Nat) (cs : List Char) : Nat :=
  cs.foldl (fun n c => radix * n +
    (if c.isDigit then digitValue c else c.toLower.toNat - 'a'.toNat + 10)) 0

def isHexDigit (c : Char) : Bool :=
  c.isDigit || ('a' ≤ c && c ≤ 'f') || ('A' ≤ c && c ≤ 'F')

def isOctalDigit (c : Char) : Bool := '0' ≤ c && c ≤ '7'

def isBinaryDigit (c : Char) : Bool := c == '0' || c == '1'

/-- Integer of the digits behind a radix mark, where none at all pass for a numeral. -/
def radixInteger? (radix : Nat) (isDigit : Char → Bool) (ds : List Char) : Option Item :=
  if ds.isEmpty then some .void
  else (digitRun? isDigit ds).map fun r => .integer (radixValue radix r)

def signed (negative : Bool) (n : Nat) : Int := if negative then -(n : Int) else n

def underscoreParts : List Char → List (List Char)
  | [] => [[]]
  | '_' :: cs => [] :: underscoreParts cs
  | c :: cs =>
    match underscoreParts cs with
    | [] => [[c]]
    | part :: parts => (c :: part) :: parts

/-- Whether digits stand on both sides of every underscore, where those of any radix
pass and a first part of one character is not looked at. -/
def underscoresMeet : List (List Char) → Bool
  | before :: after :: parts =>
    (before.length ≤ 1 || before.getLast?.any isHexDigit) && after.head?.any isHexDigit &&
      underscoresMeet (after :: parts)
  | _ => true

/-- What a text stands for that starts like a numeral with underscores and has no mark of
a float: nothing, if there is more to it than digits. -/
def underscored? (cs : List Char) : Option Item :=
  let body := (Decimal.spanSign cs).2
  let rest := body.dropWhile Char.isDigit
  if rest.head? == some '_' && cs.head? != some '_' && body.head? != some '0' &&
      rest.all (fun c => c != '.' && c != 'e' && c != 'E' && c != ' ') &&
      underscoresMeet (underscoreParts cs) then
    let (negative, digits) := Decimal.spanSign (cs.filter (· != '_'))
    if !digits.isEmpty && digits.all Char.isDigit then
      some (.integer (signed negative (digitsValue digits)))
    else some .void
  else none

def integer? (cs : List Char) : Option Item :=
  match cs with
  | '0' :: 'x' :: ds => radixInteger? 16 isHexDigit ds
  | '0' :: 'o' :: ds => radixInteger? 8 isOctalDigit ds
  | '0' :: 'b' :: ds => radixInteger? 2 isBinaryDigit ds
  | _ =>
    let (negative, body) := Decimal.spanSign cs
    match wholeRun? body with
    | some r => some (.integer (signed negative (digitsValue r)))
    | none => underscored? cs

def splitAtChar (p : Char → Bool) (cs : List Char) : List Char × Option (List Char) :=
  match cs.span fun c => !p c with
  | (before, []) => (before, none)
  | (before, _ :: after) => (before, some after)

def floatBody? (cs : List Char) : Option Decimal :=
  let (mantissa, exponent) := splitAtChar (fun c => c == 'e' || c == 'E') cs
  let (whole, fraction) := splitAtChar (· == '.') mantissa
  if fraction.isNone && exponent.isNone then none
  else do
    let w ← wholeRun? whole
    let f ← match fraction with
      | none => some []
      | some ds => decimalRun? ds
    let e ← match exponent with
      | none => some (0 : Int)
      | some ds =>
        let (negative, body) := Decimal.spanSign ds
        (decimalRun? body).map fun r => signed negative (digitsValue r)
    return ⟨digitsValue (w ++ f), e - f.length⟩

def float? (cs : List Char) : Option Item :=
  let (negative, body) := Decimal.spanSign cs
  if body = "inf".toList then some (.float (.inf negative))
  else if body = "nan".toList then some (.float .nan)
  else (floatBody? body).map fun d =>
    let x := Binary64.ofDecimal negative d
    if x.isFinite then .float x else .void

def fixedDigits? (width least greatest : Nat) (cs : List Char) : Option (Nat × List Char) :=
  let ds := cs.take width
  let n := digitsValue ds
  if ds.length = width ∧ ds.all Char.isDigit ∧ least ≤ n ∧ n ≤ greatest then
    some (n, cs.drop width)
  else none

def isLeapYear (y : Nat) : Bool := (y % 4 == 0 && y % 100 != 0) || y % 400 == 0

def daysInMonth (y m : Nat) : Nat :=
  if m = 2 then (if isLeapYear y then 29 else 28)
  else if m = 4 ∨ m = 6 ∨ m = 9 ∨ m = 11 then 30
  else 31

def expect? (c : Char) : List Char → Option (List Char)
  | d :: cs => if c = d then some cs else none
  | [] => none

def date? (cs : List Char) : Option (List Char) := do
  let (y, cs) ← fixedDigits? 4 0 9999 cs
  let cs ← expect? '-' cs
  let (m, cs) ← fixedDigits? 2 1 12 cs
  let cs ← expect? '-' cs
  let (_, cs) ← fixedDigits? 2 1 (daysInMonth y m) cs
  return cs

def fraction? (cs : List Char) : Option (List Char) :=
  match cs with
  | '.' :: ds =>
    if (ds.takeWhile Char.isDigit).isEmpty then none else some (ds.dropWhile Char.isDigit)
  | _ => some cs

def time? (cs : List Char) : Option (List Char) := do
  let (_, cs) ← fixedDigits? 2 0 23 cs
  let cs ← expect? ':' cs
  let (_, cs) ← fixedDigits? 2 0 59 cs
  match cs with
  | ':' :: more =>
    let (_, cs) ← fixedDigits? 2 0 60 more
    fraction? cs
  | _ => return cs

def offset? (cs : List Char) : Option (List Char) :=
  match cs with
  | [] => some []
  | c :: more =>
    if c = 'Z' ∨ c = 'z' then some more
    else if c = '+' ∨ c = '-' then do
      let (_, cs) ← fixedDigits? 2 0 23 more
      let cs ← expect? ':' cs
      let (_, cs) ← fixedDigits? 2 0 59 cs
      return cs
    else none

def isDate (cs : List Char) : Bool := date? cs == some []

def isDatetime (cs : List Char) : Bool :=
  match date? cs with
  | none => time? cs == some []
  | some [] => true
  | some (c :: rest) =>
    (c == 'T' || c == 't' || c == ' ') && ((time? rest).bind offset?) == some []

def scalar? (cs : List Char) : Option Item :=
  if cs = "true".toList then some (.bool true)
  else if cs = "false".toList then some (.bool false)
  else match integer? cs with
    | some item => some item
    | none =>
      match float? cs with
      | some item => some item
      | none => if isDatetime cs then some .datetime else none

end Assay.Toml
