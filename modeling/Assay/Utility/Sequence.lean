import Assay.Shell.Format
import Assay.Utility.Numbers

/-!
# The seq utility

Numbers from one to another are shown. Steps are worked out exactly, and all
numbers have as many places as the first one or the step.
-/

set_option autoImplicit false

namespace Assay.Utility

open Shell (Sh)

structure Fixed where
  value : Int
  places : Nat
deriving DecidableEq, Repr

def Fixed.scaled (f : Fixed) (places : Nat) : Int :=
  f.value * (Nat.pow 10 (places - f.places) : Nat)

def Fixed.show (value : Int) (places : Nat) : String :=
  let digits := toString value.natAbs
  let digits := String.ofList (List.replicate (places + 1 - digits.length) '0') ++ digits
  (if value < 0 then "-" else "") ++
    if places = 0 then digits
    else (digits.take (digits.length - places)).toString ++ "." ++
      (digits.drop (digits.length - places)).toString

namespace Sequence

inductive Value where
  | finite (f : Fixed)
  | endless (negative : Bool)
  | nan

/-- An operand as it has been written: its value, how many places and columns it has, and
whether it is zero below zero. A number in hexadecimal places has no count of them. -/
structure Operand where
  value : Value
  places : Option Nat
  width : Nat
  isMinusZero : Bool

/-- Reads a number in base sixteen behind its mark. -/
def hexValue? (cs : List Char) : Option Fixed :=
  let digit? := Shell.digitValue?
  let (whole, rest) := cs.span fun c => (digit? c).isSome
  let (part, rest) := match rest with
    | '.' :: more => more.span fun c => (digit? c).isSome
    | _ => ([], rest)
  let power? : Option Int := match rest with
    | [] => some 0
    | p :: ds =>
      if p != 'p' && p != 'P' then none
      else
        let (negative, ds) := Decimal.spanSign ds
        (natural? (String.ofList ds)).map fun n => if negative then -(n : Int) else n
  if whole.isEmpty && part.isEmpty then none
  else
    power?.bind fun power =>
      let n := (whole ++ part).foldl (fun n c => n * 16 + (digit? c).getD 0) 0
      let power := power - 4 * part.length
      if 1000 < power.natAbs then none
      else if 0 ≤ power then some ⟨(n * Nat.pow 2 power.toNat : Nat), 0⟩
      else
        let places := power.natAbs
        some ⟨(n * Nat.pow 5 places : Nat), places⟩

def value? (text : String) : Option Value :=
  let body := text.toList.dropWhile Shell.isSpace
  let (negative, body) := Decimal.spanSign body
  let signed := fun (f : Fixed) => Value.finite ⟨if negative then -f.value else f.value, f.places⟩
  let word := String.ofList (Binary64.foldCase body)
  if word = "inf" ∨ word = "infinity" then some (.endless negative)
  else if word = "nan" then some .nan
  else
    match body with
    | '0' :: x :: cs =>
      if x = 'x' ∨ x = 'X' then (hexValue? cs).map signed else decimal? signed body
    | _ => decimal? signed body
where
  decimal? (signed : Fixed → Value) (body : List Char) : Option Value :=
    (Decimal.ofText? body).bind fun d =>
      if 5000 < d.exponent.natAbs then none
      else some (signed ⟨(d.coefficient * Nat.pow 10 d.exponent.toNat : Nat),
        (-d.exponent).toNat⟩)

def extent (text : String) : Option Nat × Nat :=
  let cs := text.toList
  let (body, rest) := cs.span fun c => c != 'e' && c != 'E'
  let exponent : Int := match rest with
    | _ :: ds =>
      let (negative, ds) := Decimal.spanSign ds
      let n := ((natural? (String.ofList ds)).getD 0 : Int)
      if negative then -n else n
    | [] => 0
  let (whole, part) := body.span (· != '.')
  let fraction := part.length - 1
  let hasPoint := !part.isEmpty
  let width : Int := body.length
  let width := if !hasPoint then width
    else if fraction = 0 then width - 1
    else if (whole.getLast?.any Char.isDigit) then width else width + 1
  if rest.isEmpty then (some fraction, width.toNat)
  else if exponent < 0 then
    let width := if hasPoint then (if fraction = 0 then width + 1 else width) else width + 1
    (some (fraction + exponent.natAbs), (width + exponent.natAbs).toNat)
  else
    let places := fraction - exponent.toNat
    let width := if hasPoint && places = 0 && fraction != 0 then width - 1 else width
    (some places, (width + (exponent.toNat - fraction : Nat)).toNat)

def read (text : String) : Except String Operand :=
  match value? text with
  | none => .error ("invalid floating point argument: " ++ quotedText text)
  | some .nan =>
    .error ("invalid " ++ quotedText "not-a-number" ++ " argument: " ++ quotedText text)
  | some v =>
    let isHex := text.toList.any fun c => c == 'x' || c == 'X'
    let (places, width) := match v with
      | .finite _ =>
        if !isHex then extent text
        else if text.contains '.' || text.contains 'p' then (none, 0) else (some 0, 0)
      | _ => (some 0, 0)
    let isZero := match v with
      | .finite f => f.value == 0
      | _ => false
    .ok ⟨v, places, width, isZero && text.trimAsciiStart.startsWith "-"⟩

structure Format where
  before : String
  directive : Shell.Directive
  behind : String

def plainPart : List Char → String × List Char
  | '%' :: '%' :: cs =>
    let (text, rest) := plainPart cs
    ("%" ++ text, rest)
  | '%' :: cs => ("", '%' :: cs)
  | c :: cs =>
    let (text, rest) := plainPart cs
    (String.singleton c ++ text, rest)
  | [] => ("", [])

def Format.read (text : String) : Except String Format :=
  let shown := "format " ++ quotedText text
  match plainPart text.toList with
  | (_, []) => .error (shown ++ " has no % directive")
  | (before, _ :: cs) =>
    let (flags, cs) := cs.span fun c => "-+#0 '".contains c
    let (width, cs) := cs.span Char.isDigit
    let (precision, cs) := match cs with
      | '.' :: more =>
        let (digits, rest) := more.span Char.isDigit
        (some ((natural? (String.ofList digits)).getD 0), rest)
      | _ => (none, cs)
    let cs := match cs with
      | 'L' :: more => more
      | _ => cs
    match cs with
    | [] => .error (shown ++ " ends in %")
    | c :: cs =>
      if !"efgaEFGA".contains c then
        .error (shown ++ " has unknown %" ++ String.singleton c ++ " directive")
      else
        match plainPart cs with
        | (_, _ :: _) => .error (shown ++ " has too many % directives")
        | (behind, []) =>
          .ok ⟨before,
            { left := flags.contains '-', zeros := flags.contains '0', plus := flags.contains '+',
              blank := flags.contains ' ', alternate := flags.contains '#',
              width := (natural? (String.ofList width)).getD 0, precision := precision,
              conversion := c }, behind⟩

def binary (f : Fixed) (minusZero : Bool) : Binary64 :=
  Binary64.ofDecimal (minusZero || decide (f.value < 0)) ⟨f.value.natAbs, -(f.places : Int)⟩

inductive Style where
  | given (f : Format)
  | places (count width : Nat)

def Style.number (s : Style) (f : Fixed) (minusZero : Bool) : String :=
  match s with
  | given g => g.directive.real (binary f minusZero)
  | places count width =>
    let exact := Fixed.show (f.value / (Nat.pow 10 (f.places - count) : Nat)) count
    let sign := if f.value < 0 || minusZero then "-" else ""
    let digits := if f.value < 0 then (exact.drop 1).toString else exact
    sign ++ Layout.zeros (width - sign.length - digits.length) ++ digits

def Style.text (s : Style) (f : Fixed) (minusZero : Bool) : String :=
  match s with
  | given g => g.before ++ s.number f minusZero ++ g.behind
  | places _ _ => s.number f minusZero

def defaultStyle (equalWidths : Bool) (first step last : Operand) : Style :=
  match first.places, step.places, last.places with
  | some a, some b, some c =>
    let places := max a b
    let width := if !equalWidths then 0
      else
        let firstWidth := first.width + (places - a) + (if a = 0 && places != 0 then 1 else 0)
        let lastWidth := last.width + places - c
        let lastWidth := if c != 0 && places = 0 then lastWidth - 1 else lastWidth
        let lastWidth := if c = 0 && places != 0 then lastWidth + 1 else lastWidth
        max firstWidth lastWidth
    .places places width
  | _, _, _ =>
    .given ⟨"", ⟨false, false, false, false, false, 0, none, 'g'⟩, ""⟩

/-- How many numbers of a sequence without an end are written. -/
def endlessCount : Nat := 20000

def numbers (first step : Fixed) (last : Value) : List Fixed × Bool :=
  let places := max first.places step.places
  let nth := fun (n : Nat) =>
    (⟨first.scaled places + step.scaled places * (n : Int), places⟩ : Fixed)
  match last with
  | .nan => ([], false)
  | .endless negative =>
    if negative == decide (step.value < 0) then ((List.range endlessCount).map nth, true)
    else ([], false)
  | .finite last =>
    let exact := max places last.places
    let a := first.scaled exact
    let d := step.scaled exact
    let z := last.scaled exact
    if (0 < d ∧ z < a) ∨ (d < 0 ∧ a < z) then ([], false)
    else ((List.range (((z - a) / d).toNat + 1)).map nth, false)

def isExtra (s : Style) (before past : Fixed) (last : Value) : Bool :=
  match last, value? (s.number past false) with
  | .finite z, some (.finite shown) =>
    let exact := max z.places shown.places
    shown.scaled exact == z.scaled exact && s.number before false != s.number past false
  | _, _ => false

def texts (s : Style) (first step last : Operand) : List String × Bool :=
  match first.value, step.value with
  | .finite a, .finite d =>
    let (found, isEndless) := numbers a d last.value
    let texts := found.zipIdx.map fun (f, i) => s.text f (i == 0 && first.isMinusZero)
    match found.getLast? with
    | none => ([], false)
    | some before =>
      let past : Fixed := ⟨before.value + d.scaled before.places, before.places⟩
      let extra := !isEndless && isExtra s before past last.value
      (if extra then texts ++ [s.text past false] else texts, isEndless)
  | _, _ => ([], false)

end Sequence

def isNegativeNumber (word : String) : Bool :=
  match word.toList with
  | '-' :: c :: _ => c.isDigit || c == '.'
  | _ => false

def seqWords (arguments : List String) : Except String Options.Parsed :=
  let (options, numbers) := arguments.span fun a => a.startsWith "-" && !isNegativeNumber a
  let split := fun (words numbers : List String) =>
    (Options.parseAll ⟨"f:s:w", [("format", 'f'), ("separator", 's'), ("equal-width", 'w')], true⟩
      words).map fun p => (p.1, p.2 ++ numbers)
  match options.getLast?, numbers with
  | some "-s", text :: rest => again split (options ++ [text]) rest
  | some "-f", text :: rest => again split (options ++ [text]) rest
  | _, _ => split options numbers
where
  again (split : List String → List String → Except String Options.Parsed)
      (taken rest : List String) : Except String Options.Parsed :=
    let (options, numbers) := rest.span fun a => a.startsWith "-" && !isNegativeNumber a
    split (taken ++ options) numbers

def seq : Tool := fun _ arguments => do
  match seqWords arguments with
  | .error text => refuse "seq" 1 text
  | .ok (options, words) =>
    let g : Given := ⟨options, words⟩
    match words with
    | [] => refuse "seq" 1 "missing operand"
    | _ :: _ :: _ :: extra :: _ => refuse "seq" 1 ("extra operand " ++ quotedText extra)
    | words =>
      let format? := match g.text? 'f' with
        | none => .ok none
        | some text => (Sequence.Format.read text).map some
      settle "seq" 1 format? fun format => do
        if format.isSome && g.has 'w' then
          return ← refuse "seq" 1
            "format string may not be specified when printing equal width strings"
        settleWithHint "seq" 1 (operands words) fun (first, step, last) => do
          let style := match format with
            | some f => .given f
            | none => Sequence.defaultStyle (g.has 'w') first step last
          let (texts, isEndless) := Sequence.texts style first step last
          if texts.isEmpty then return 0
          let between := (g.text? 's').getD "\n"
          let status ← emit "seq" (String.intercalate between texts ++ "\n")
          if isEndless && status = 0 then throw .never
          return status
where
  operands (words : List String) :
      Except String (Sequence.Operand × Sequence.Operand × Sequence.Operand) := do
    let one : Sequence.Operand := ⟨.finite ⟨1, 0⟩, some 0, 1, false⟩
    match words with
    | [last] => return (one, one, ← Sequence.read last)
    | [first, last] => return (← Sequence.read first, one, ← Sequence.read last)
    | [first, step, last] =>
      let a ← Sequence.read first
      let d ← Sequence.read step
      if let .finite ⟨0, _⟩ := d.value then
        throw ("invalid Zero increment value: " ++ quotedText step)
      return (a, d, ← Sequence.read last)
    | _ => return (one, one, one)

end Assay.Utility
