import Assay.Binary64.Digits
import Assay.Shell.Arithmetic
import Assay.SystemError

/-!
# Escapes and formats

Texts that are written with escapes, and formats that are filled in with
arguments.
-/

set_option autoImplicit false

namespace Assay.Shell

/-!
## Escapes

Backslash sequences stand for single characters, of which each is a byte.
-/

def escaped? : Char → Option Char
  | 'a' => some '\x07'
  | 'b' => some '\x08'
  | 'e' => some '\x1b'
  | 'f' => some '\x0c'
  | 'n' => some '\n'
  | 'r' => some '\r'
  | 't' => some '\t'
  | 'v' => some '\x0b'
  | '\\' => some '\\'
  | _ => none

def isOctal (c : Char) : Bool := decide ('0' ≤ c ∧ c ≤ '7')

def octalChar (limit : Nat) (cs : List Char) : Char × List Char :=
  let digits := (cs.take limit).takeWhile isOctal
  let code := digits.foldl (fun n c => n * 8 + (c.toNat - '0'.toNat)) 0
  (Char.ofNat (code % 256), cs.drop digits.length)

/-- What stands behind a backslash; a backslash that starts nothing stays. -/
def readEscape (cs : List Char) : Char × List Char :=
  match cs with
  | c :: rest =>
    match escaped? c with
    | some e => (e, rest)
    | none => if isOctal c then octalChar 3 cs else ('\\', cs)
  | [] => ('\\', [])

/-- Resolves the backslashes of a text; the flag tells whether output is to end there. -/
def resolveEscapes : Nat → List Char → List Char × Bool
  | 0, _ => ([], false)
  | _, [] => ([], false)
  | _ + 1, '\\' :: 'c' :: _ => ([], true)
  | fuel + 1, '\\' :: cs =>
    let digits := match cs with
      | '0' :: d :: rest => if isOctal d then d :: rest else cs
      | _ => cs
    let (c, rest) := readEscape digits
    let (more, ended) := resolveEscapes fuel rest
    (c :: more, ended)
  | fuel + 1, c :: cs =>
    let (more, ended) := resolveEscapes fuel cs
    (c :: more, ended)

def withoutEscapes (cs : List Char) : List Char × Bool := resolveEscapes (cs.length + 1) cs

/-!
## Formats

A format is filled in with arguments, again and again until none is left. What
is wrong with an argument is noted, and a format that cannot be read ends it all.
-/

structure Directive where
  left : Bool
  zeros : Bool
  plus : Bool
  blank : Bool
  alternate : Bool
  width : Nat
  precision : Option Nat
  conversion : Char
deriving DecidableEq, Repr

namespace Directive

def padded (d : Directive) (text : String) : String :=
  let blanks := String.ofList (List.replicate (d.width - text.length) ' ')
  if d.left then text ++ blanks else blanks ++ text

def sign (d : Directive) (negative : Bool) : String :=
  if negative then "-" else if d.plus then "+" else if d.blank then " " else ""

def filled (d : Directive) (head digits : String) (zeros : Bool) : String :=
  let fill := if zeros && !d.left then d.width - head.length - digits.length else 0
  d.padded (head ++ Layout.zeros fill ++ digits)

/-- A whole number: what stands before it, and its digits, at least as many as asked for. -/
def whole (d : Directive) (head : String) (digits : String) : String :=
  match d.precision with
  | none => d.filled head digits d.zeros
  | some 0 => if digits = "0" then d.padded head else d.filled head digits false
  | some p => d.filled head (Layout.zeros (p - digits.length) ++ digits) false

def signed (d : Directive) (n : Int) : String :=
  d.whole (d.sign (decide (n < 0))) (toString n.natAbs)

def unsigned (d : Directive) (n : Nat) : String :=
  let inBase := fun (base : Nat) => String.ofList (Nat.toDigits base n)
  let marked := d.alternate && n != 0
  match d.conversion with
  | 'o' =>
    let digits := inBase 8
    d.whole "" (if marked && (d.precision.getD 0) ≤ digits.length then "0" ++ digits else digits)
  | 'x' => d.whole (if marked then "0x" else "") (inBase 16)
  | 'X' => d.whole (if marked then "0X" else "") (inBase 16).toUpper
  | _ => d.whole "" (inBase 10)

def magnitude (d : Directive) (rank : Nat) : String :=
  let places := d.precision.getD 6
  match d.conversion.toLower with
  | 'e' => Binary64.exponentForm (Binary64.units rank) places d.alternate
  | 'f' => Binary64.fixedForm (Binary64.units rank) places d.alternate
  | 'a' => Binary64.hexForm rank d.precision d.alternate
  | _ => Binary64.generalForm (Binary64.units rank) places d.alternate

def real (d : Directive) (x : Binary64) : String :=
  let text := match x with
    | .nan => d.padded (d.sign false ++ "nan")
    | .inf negative => d.padded (d.sign negative ++ "inf")
    | .finite negative rank =>
      let digits := d.magnitude rank
      if d.conversion.toLower = 'a' then
        d.filled (d.sign negative ++ "0x") (digits.drop 2).toString d.zeros
      else d.filled (d.sign negative) digits d.zeros
  if d.conversion.isUpper then text.toUpper else text

def text (d : Directive) (s : String) : String :=
  d.padded (match d.precision with
    | some p => (s.take p).toString
    | none => s)

end Directive

structure Filling where
  output : List String
  arguments : List String
  used : Bool
  ended : Bool
  complaints : List String
  fault : Option String
deriving DecidableEq, Repr

namespace Filling

def put (f : Filling) (s : String) : Filling := { f with output := s :: f.output }

def grumble (f : Filling) (s : String) : Filling := { f with complaints := s :: f.complaints }

def next (f : Filling) : Option String × Filling :=
  match f.arguments with
  | [] => (none, { f with used := f.used })
  | a :: rest => (some a, { f with arguments := rest, used := true })

end Filling

def isSpace (c : Char) : Bool := c == ' ' || decide ('\t' ≤ c ∧ c ≤ '\x0d')

/-- Says what is wrong with a number of which some characters are left. -/
def conversionComplaint (argument : String) (isAll : Bool) (rest : List Char) (inRange : Bool) :
    Option String :=
  if rest ≠ [] then
    some (argument ++ if isAll then ": expected numeric value" else ": not completely converted")
  else if inRange then none
  else some (argument ++ ": " ++ (SystemError.mk 34).text)

/-- The code behind a quote, for an argument that stands for a character. -/
def quotedCode? (argument : String) : Option Nat :=
  match argument.toList with
  | [c] => if c = '"' ∨ c = '\'' then some 0 else none
  | c :: d :: _ => if c = '"' ∨ c = '\'' then some d.toNat else none
  | [] => none

def readWhole (argument : String) : Option Int × List Char :=
  let (negative, digits) := Decimal.spanSign (argument.toList.dropWhile isSpace)
  if digits.head?.any Char.isDigit then
    let (n, rest) := readNumber digits
    (some (if negative then -(n : Int) else n), rest)
  else (none, argument.toList)

def signedArgument (argument : String) : Int × Option String :=
  match quotedCode? argument with
  | some c => (c, none)
  | none =>
    let (n?, rest) := readWhole argument
    let n := n?.getD 0
    let low := Int64.minValue.toInt
    let high := Int64.maxValue.toInt
    (max low (min n high),
      conversionComplaint argument n?.isNone rest (decide (low ≤ n ∧ n ≤ high)))

/-- An argument as a number without a sign, which goes around below zero. -/
def unsignedArgument (argument : String) : Nat × Option String :=
  match quotedCode? argument with
  | some c => (c, none)
  | none =>
    let (n?, rest) := readWhole argument
    let n := n?.getD 0
    let size : Nat := Nat.pow 2 64
    let inRange := decide (n.natAbs < size)
    ((if inRange then n % (size : Int) else size - 1).toNat,
      conversionComplaint argument n?.isNone rest inRange)

def spanNumeral (cs : List Char) : List Char × List Char :=
  let (whole, rest) := Decimal.spanDigits cs
  let (mantissa, rest) := match rest with
    | '.' :: more =>
      let (fraction, tail) := Decimal.spanDigits more
      if whole.isEmpty && fraction.isEmpty then ([], cs) else (whole ++ '.' :: fraction, tail)
    | _ => (whole, rest)
  match rest with
  | e :: more =>
    let (_, digits) := Decimal.spanSign more
    let (ds, tail) := Decimal.spanDigits digits
    if (e = 'e' ∨ e = 'E') ∧ !ds.isEmpty ∧ !mantissa.isEmpty then
      (mantissa ++ e :: more.take (more.length - tail.length), tail)
    else (mantissa, rest)
  | [] => (mantissa, [])

def readHexReal (negative : Bool) (cs : List Char) : Option (Binary64 × List Char) :=
  let isHex := fun c => (digitValue? c).isSome
  let (whole, rest) := cs.span isHex
  let (fraction, rest) := match rest with
    | '.' :: more => more.span isHex
    | _ => ([], rest)
  let (power, rest) : Int × List Char := match rest with
    | p :: more =>
      let (minus, digits) := Decimal.spanSign more
      let (ds, tail) := Decimal.spanDigits digits
      if (p = 'p' ∨ p = 'P') ∧ !ds.isEmpty then
        (if minus then -(digitsValue ds : Int) else digitsValue ds, tail)
      else (0, rest)
    | [] => (0, [])
  if whole.isEmpty && fraction.isEmpty then none
  else
    let n := (readDigits 16 (whole ++ fraction)).1
    let e := max (-6000) (min 6000 (power - 4 * fraction.length))
    some (.ofRatio negative (n * Nat.pow 2 e.toNat * unitsPerOne) (Nat.pow 2 (-e).toNat), rest)

def realWord? (negative : Bool) (folded : String) : Option (Binary64 × Nat) :=
  if folded.startsWith "infinity" then some (.inf negative, 8)
  else if folded.startsWith "inf" then some (.inf negative, 3)
  else if folded.startsWith "nan" then some (.nan, 3)
  else none

def readReal (argument : String) : Option (Binary64 × List Char × Bool) :=
  let (negative, body) := Decimal.spanSign (argument.toList.dropWhile isSpace)
  match realWord? negative (String.ofList (Binary64.foldCase body)) with
  | some (x, length) => some (x, body.drop length, true)
  | none =>
    let hex? := match body with
      | '0' :: x :: cs => if x = 'x' ∨ x = 'X' then readHexReal negative cs else none
      | _ => none
    match hex? with
    | some (x, rest) => some (x, rest, true)
    | none =>
      let (numeral, rest) := spanNumeral body
      (Decimal.ofText? numeral).map fun d =>
        let x := Binary64.ofDecimal negative d
        (x, rest, x.isFinite && !(x.isZero && d.coefficient != 0))

def realArgument (argument : String) : Binary64 × Option String :=
  match quotedCode? argument with
  | some c => (.ofNat c, none)
  | none =>
    match readReal argument with
    | some (x, rest, inRange) => (x, conversionComplaint argument false rest inRange)
    | none => (.zero false, conversionComplaint argument true argument.toList true)

def measure (f : Filling) : Int × Filling :=
  match f.next with
  | (none, f) => (0, f)
  | (some a, f) =>
    let (n, complaint) := signedArgument a
    (n, complaint.toList.foldl Filling.grumble f)

/-- Reads the width or the precision of a directive: a number, or a star for an argument. -/
def readMeasure (cs : List Char) (f : Filling) : Int × List Char × Filling :=
  match cs with
  | '*' :: rest =>
    let (n, f) := measure f
    (n, rest, f)
  | _ =>
    let (ds, rest) := Decimal.spanDigits cs
    (digitsValue ds, rest, f)

def readDirective (cs : List Char) (f : Filling) : Option (Directive × List Char) × Filling :=
  let (flags, cs) := cs.span fun c => "-0+ #".toList.contains c
  let (width, cs, f) := readMeasure cs f
  let (precision, cs, f) : Option Int × List Char × Filling := match cs with
    | '.' :: rest =>
      let (n, rest, f) := readMeasure rest f
      (some n, rest, f)
    | _ => (none, cs, f)
  match cs with
  | [] => (none, f)
  | c :: rest =>
    let d : Directive :=
      { left := flags.contains '-' || decide (width < 0)
        zeros := flags.contains '0'
        plus := flags.contains '+'
        blank := flags.contains ' '
        alternate := flags.contains '#'
        width := width.natAbs
        precision := precision.bind fun p => if p < 0 then none else some p.toNat
        conversion := c }
    (some (d, rest), f)

def writeArgument? (d : Directive) (f : Filling) : Option Filling :=
  let (a?, f) := f.next
  let a := a?.getD ""
  let say := fun (text : String) (complaint : Option String) =>
    complaint.toList.foldl Filling.grumble (f.put text)
  if d.conversion = 's' then some (f.put (d.text a))
  else if d.conversion = 'c' then
    let c := a.toList.headD '\x00'
    some (f.put ({ d with precision := none }.text (String.singleton c)))
  else if d.conversion = 'b' then
    let (cs, ended) := withoutEscapes a.toList
    some { f.put (d.text (String.ofList cs)) with ended := ended }
  else if "di".toList.contains d.conversion then
    let (n, complaint) := signedArgument a
    some (say (d.signed n) complaint)
  else if "ouxX".toList.contains d.conversion then
    let (n, complaint) := unsignedArgument a
    some (say (d.unsigned n) complaint)
  else if "aAeEfFgG".toList.contains d.conversion then
    let (x, complaint) := if a?.isNone then (.zero false, none) else realArgument a
    some (say (d.real x) complaint)
  else none

def fillOnce : Nat → List Char → Filling → Filling
  | 0, _, f => f
  | _, [], f => f
  | fuel + 1, '\\' :: cs, f =>
    let (c, rest) := readEscape cs
    fillOnce fuel rest (f.put (String.singleton c))
  | fuel + 1, '%' :: '%' :: cs, f => fillOnce fuel cs (f.put "%")
  | fuel + 1, '%' :: cs, f =>
    match readDirective cs f with
    | (none, f) => { f with fault := some "missing format character" }
    | (some (d, rest), f) =>
      match writeArgument? d f with
      | none =>
        let directive := String.ofList ('%' :: cs.take (cs.length - rest.length))
        { f with fault := some (directive ++ ": invalid directive") }
      | some f => if f.ended then f else fillOnce fuel rest f
  | fuel + 1, c :: cs, f => fillOnce fuel cs (f.put (String.singleton c))

def fill (format : List Char) : Nat → Filling → Filling
  | 0, f => f
  | n + 1, f =>
    let f := fillOnce (format.length + 1) format f
    if f.fault.isSome || f.ended || !f.used || f.arguments.isEmpty then f else fill format n f

def formatted (format : String) (arguments : List String) : Filling :=
  fill format.toList (arguments.length + 1) ⟨[], arguments, false, false, [], none⟩

def Filling.text (f : Filling) : String := String.join f.output.reverse

end Assay.Shell
