import Assay.Binary64.Elementary
import Assay.Shell.Format
import Std.Data.HashMap

/-!
# Values and tables of a program

The values that a program computes with, the tables that hold them, and the
formats by which they are printed.
-/

set_option autoImplicit false

namespace Assay.Utility.Awk

/-!
## Values of a program

A value is a number or a text, and each counts as the other where that is asked
for. A text from outside that looks like a number is compared as one.
-/

inductive Value where
  | unset
  | number (x : Binary64)
  | text (s : String)
  | input (s : String)
deriving DecidableEq, Repr, Inhabited

def isSpace (c : Char) : Bool :=
  c == ' ' || c == '\t' || c == '\x0b' || c == '\x0c' || c == '\x0d'

def leadingNumber (s : String) : Binary64 :=
  match Shell.readReal s with
  | some (x, _, _) => x
  | none => .zero false

/-- The number that a text looks like, blanks around it aside. -/
def wholeNumber? (s : String) : Option Binary64 :=
  let cs := s.toList.dropWhile isSpace
  let body := (cs.reverse.dropWhile isSpace).reverse
  let mayStart := body.head?.any fun c => c.isDigit || c == '+' || c == '-' || c == '.'
  let mayStop := body.getLast?.any fun c => c.isDigit || c == '.'
  if mayStart && mayStop then
    match Shell.readReal (String.ofList body) with
    | some (x, [], _) => some x
    | _ => none
  else none

def one : Binary64 := .ofNat 1

def Value.ofBool (b : Bool) : Value := .number (if b then one else .zero false)

def Value.ofNat (n : Nat) : Value := .number (.ofNat n)

def wholeLimit : Int := 18446744073709551616

def signedLimit : Int := 9223372036854775808

def wholeText? (x : Binary64) : Option String :=
  match x.whole? with
  | some n =>
    if n < -signedLimit ∨ wholeLimit < n then none
    else some (toString (min n (wholeLimit - 1)))
  | none => none

/-- A number that comes from no text has a sign even if it is none. -/
def nanText (text : String) : String := if text = "nan" then "-nan" else text

def numberText (form : String) (x : Binary64) : String :=
  match wholeText? x with
  | some text => text
  | none =>
    match form.toList with
    | '%' :: cs =>
      let blank : Shell.Filling := ⟨[], [], false, false, [], none⟩
      match Shell.readDirective cs blank with
      | (some (d, rest), _) =>
        if "eEfFgG".toList.contains d.conversion then
          nanText (d.real x) ++ String.ofList rest
        else form
      | (none, _) => form
    | _ => form

namespace Value

def toNumber : Value → Binary64
  | unset => .zero false
  | number x => x
  | text s | input s => leadingNumber s

def toText (form : String) : Value → String
  | unset => ""
  | number x => numberText form x
  | text s | input s => s

def comparable? : Value → Option Binary64
  | unset => some (.zero false)
  | number x => some x
  | text _ => none
  | input s => wholeNumber? s

def isTrue : Value → Bool
  | unset => false
  | number x => !x.isZero
  | text s => s != ""
  | input s =>
    match wholeNumber? s with
    | some x => !x.isZero
    | none => s != ""

def order (form : String) (a b : Value) : Ordering :=
  match a, b with
  | .unset, .unset => .eq
  | .unset, .text s | .unset, .input s =>
    match b.comparable? with
    | some y => numbers (.zero false) y
    | none => compare "" s
  | a, b =>
    match a.comparable?, b.comparable? with
    | some x, some y => numbers x y
    | _, _ => compare (a.toText form) (b.toText form)
where
  numbers (x y : Binary64) : Ordering :=
    if x.lt y then .lt else if y.lt x then .gt else .eq

end Value

/-- A number without its fraction, within the bounds of a word with a sign. -/
def toWhole (x : Binary64) : Int :=
  match x with
  | .nan => -signedLimit
  | .inf s => if s then -signedLimit else signedLimit - 1
  | x =>
    let n := (x.wholePart.whole?).getD 0
    max (-signedLimit) (min n (signedLimit - 1))

/-!
## Tables

A table holds values under texts. Its keys are listed in the order of the places
that they are filed under. A key that is a whole number is filed as a number,
and as a text only once that is needed; what has been asked for last comes first
in its place.
-/

inductive Key where
  | number (n : Int)
  | text (s : String)
deriving DecidableEq, Repr

def Key.name : Key → String
  | .number n => toString n
  | .text s => s

def Key.ofValue (form : String) : Value → Key
  | .number x =>
    match x.whole? with
    | some n => if -signedLimit ≤ n ∧ n < signedLimit then .number n else .text (numberText form x)
    | none => .text (numberText form x)
  | v => .text (v.toText form)

structure Table where
  values : Std.HashMap String Value
  size : Nat
  dense : Bool
  named : Bool
  texts : Array (List String)
  numbers : Array (List Int)

namespace Table

def firstPlaces : Nat := 64

def crowd : Nat := 12

def empty : Table :=
  ⟨∅, 0, false, false, Array.replicate firstPlaces [], Array.replicate firstPlaces []⟩

instance : Inhabited Table := ⟨empty⟩

def spread (s : String) : Nat :=
  s.toList.foldl (fun h c => (h ^^^ c.toNat) * 16777619 % 4294967296) 2166136261

def textPlace (t : Table) (s : String) : Nat := spread s % t.texts.size

def numberPlace (t : Table) (n : Int) : Nat := (n % (t.numbers.size : Int)).toNat

def inFront {α : Type} [BEq α] (a : α) (xs : List α) : List α := a :: xs.filter (· != a)

def fileNumber (t : Table) (n : Int) : Table :=
  { t with numbers := t.numbers.modify (t.numberPlace n) (inFront n) }

def fileText (t : Table) (s : String) : Table :=
  { t with texts := t.texts.modify (t.textPlace s) (inFront s) }

def spreadOut (t : Table) : Table :=
  if t.dense then
    let places := (List.range 40).foldl
      (fun n _ => if n * crowd < t.size then 2 * n else n) firstPlaces
    let blank := { t with
      dense := false, texts := Array.replicate places [], numbers := Array.replicate places [] }
    (List.range t.size).foldl (fun t i => t.fileNumber (i + 1 : Nat)) blank
  else t

def nameAll (t : Table) : Table :=
  let t := t.spreadOut
  if t.named then t
  else
    let all := t.numbers.toList.flatten.map fun n => toString n
    { all.foldl fileText t with named := true }

def grow (t : Table) : Table :=
  if t.dense || t.size ≤ t.texts.size * crowd then t
  else
    let places := 2 * t.texts.size
    let blank := { t with
      texts := Array.replicate places [], numbers := Array.replicate places [] }
    -- The order of what comes to one place is kept.
    let t := (t.texts.toList.flatten.reverse).foldl fileText blank |> fun u =>
      (t.numbers.toList.flatten.reverse).foldl fileNumber u
    t

def find (t : Table) (k : Key) : Bool × Table :=
  let name := k.name
  let isHeld := t.values.contains name
  match k with
  | .number n =>
    if t.dense && decide (1 ≤ n ∧ n ≤ t.size) then (true, t)
    else
      let t := t.spreadOut
      let isFiled := t.numbers[t.numberPlace n]?.any fun ns => ns.contains n
      if isHeld then
        let t := if isFiled || !t.named then t else t.fileText name
        (true, t.fileNumber n)
      else (false, t)
  | .text s => if t.size = 0 then (false, t) else
    let t := t.nameAll
    if isHeld then (true, t.fileText s) else (false, t)

def set (t : Table) (k : Key) (v : Value) : Table := { t with values := t.values.insert k.name v }

def get (t : Table) (k : Key) : Value × Table :=
  let name := k.name
  match t.values[name]? with
  | some v => (v, (t.find k).2)
  | none =>
    match k with
    | .number n =>
      let isNext := (t.size = 0 && n == 1) || (t.dense && n == t.size + 1)
      if isNext then
        (.unset, { t with values := t.values.insert name .unset, size := t.size + 1, dense := true })
      else
        let t := t.spreadOut
        let t := if t.named then t.fileText name else t
        let t := { t.fileNumber n with
          values := t.values.insert name .unset, size := t.size + 1 }
        (.unset, t.grow)
    | .text s =>
      let t := t.nameAll
      let t := { t.fileText s with
        values := t.values.insert name .unset, size := t.size + 1 }
      (.unset, t.grow)

def erase (t : Table) (k : Key) : Table :=
  let name := k.name
  if !t.values.contains name then
    match k with
    | .number _ => if t.dense then t else (t.find k).2
    | .text _ => (t.find k).2
  else if t.size = 1 then empty
  else
    match k with
    | .number n =>
      if t.dense && n == t.size then
        { t with values := t.values.erase name, size := t.size - 1 }
      else drop t.spreadOut name
    | .text _ => drop t.nameAll name
where
  drop (t : Table) (name : String) : Table :=
    let number := name.toInt?.filter fun n => toString n == name
    { t with
      values := t.values.erase name
      size := t.size - 1
      texts := t.texts.modify (t.textPlace name) fun ss => ss.filter (· != name)
      numbers := match number with
        | some n => t.numbers.modify (t.numberPlace n) fun ns => ns.filter (· != n)
        | none => t.numbers }

def keys (t : Table) : List String × Table :=
  if t.size = 0 then ([], t)
  else
    let t := t.nameAll
    (t.texts.toList.flatten, t)

def ofList (vs : List Value) : Table :=
  let values := (vs.zipIdx).foldl (fun (m : Std.HashMap String Value) (v, i) =>
    m.insert (toString (i + 1)) v) ∅
  { empty with values := values, size := vs.length, dense := !vs.isEmpty }

end Table

/-!
## Printing by a format

Directives of a format are filled in with values, each with one. A format that
asks for more values than there are ends the program.
-/

namespace Printed

/-- Where filling in has come to: the text, last first, the values that are left, and the
number of the last directive. -/
structure Filling where
  out : List String
  values : List Value
  number : Nat

inductive Fault where
  | tooFew
  | improper (number : Nat)

def Fault.text (f : Fault) (function format : String) : String :=
  let call := function ++ "(\"" ++ format ++ "\")"
  match f with
  | tooFew => "not enough arguments passed to " ++ call
  | improper n => "improper conversion(number " ++ toString n ++ ") in " ++ call

def signedWhole (x : Binary64) : Int :=
  match x with
  | .inf s => if s then -(signedLimit - 1) else wholeLimit - 1
  | .nan => -signedLimit
  | x =>
    let n := (x.wholePart.whole?).getD 0
    if n < -signedLimit then -(signedLimit - 1) else min n (wholeLimit - 1)

def unsignedWhole (x : Binary64) : Nat :=
  match x with
  | .nan => 9223372036854775808
  | x =>
    let n := signedWhole x
    (n % wholeLimit).toNat

/-- Takes a width or a precision: digits, or a star for a value. -/
def measure (cs : List Char) (f : Filling) : Except Fault (Option Int × List Char × Filling) :=
  match cs with
  | '*' :: rest =>
    match f.values with
    | v :: vs => .ok (some (toWhole v.toNumber), rest, { f with values := vs })
    | [] => .error .tooFew
  | _ =>
    let (ds, rest) := cs.span Char.isDigit
    .ok (if ds.isEmpty then none else some (digitsValue ds), rest, f)

def shown? (form : String) (d : Shell.Directive) (isLong : Bool) (v : Value) : Option String :=
  let c := d.conversion
  if c = 's' then if isLong then none else some (d.text (v.toText form))
  else if c = 'c' then
    if isLong then none
    else
      let char := match v with
        | .number x => Char.ofNat ((toWhole x) % 256).toNat
        | .input s =>
          match wholeNumber? s with
          | some x => Char.ofNat ((toWhole x) % 256).toNat
          | none => s.toList.headD '\x00'
        | v => (v.toText form).toList.headD '\x00'
      some ({ d with precision := none }.text (String.singleton char))
  else if c = 'd' || c = 'i' then some (d.signed (signedWhole v.toNumber))
  else if "ouxX".toList.contains c then some (d.unsigned (unsignedWhole v.toNumber))
  else if "eEfgG".toList.contains c then
    if isLong then none
    else
      let x := v.toNumber
      match v, x with
      | .number _, .nan => some (d.padded "-nan")
      | _, _ => some (d.real x)
  else none

def fillFrom (form : String) : Nat → List Char → Filling → Except (List String × Fault) String
  | 0, _, f => .ok (String.join f.out.reverse)
  | fuel + 1, cs, f =>
    match cs with
    | [] => .ok (String.join f.out.reverse)
    | '%' :: '%' :: rest =>
      fillFrom form fuel rest { f with out := "%" :: f.out, number := f.number + 1 }
    | '%' :: rest => do
      let f := { f with number := f.number + 1 }
      let (flags, rest) := rest.span fun c => "-+ #0".toList.contains c
      let (width, rest, f) ← (measure rest f).mapError fun e => (f.out, e)
      let (precision, rest, f) ← match rest with
        | '.' :: rest => do
          let (p, rest, f) ← (measure rest f).mapError fun e => (f.out, e)
          pure (some (p.getD 0), rest, f)
        | _ => pure (none, rest, f)
      let (sizes, rest) := rest.span fun c => c == 'l' || c == 'h'
      match f.values, rest with
      | [], _ => throw (f.out, .tooFew)
      | _, [] => throw (f.out, .improper f.number)
      | v :: vs, c :: rest =>
        let width := width.getD 0
        let d : Shell.Directive :=
          { left := flags.contains '-' || decide (width < 0)
            zeros := flags.contains '0'
            plus := flags.contains '+'
            blank := flags.contains ' '
            alternate := flags.contains '#'
            width := width.natAbs
            precision := precision.bind fun p => if p < 0 then none else some p.toNat
            conversion := c }
        match shown? form d (!sizes.isEmpty) v with
        | some text => fillFrom form fuel rest { f with out := text :: f.out, values := vs }
        | none => throw (f.out, .improper f.number)
    | c :: rest => fillFrom form fuel rest { f with out := String.singleton c :: f.out }

end Printed

def filledFormat (form function format : String) (values : List Value) :
    Except (String × String) String :=
  match Printed.fillFrom form (format.length + 1) format.toList ⟨[], values, 0⟩ with
  | .ok text => .ok text
  | .error (out, f) => .error (String.join out.reverse, f.text function format)

end Assay.Utility.Awk
