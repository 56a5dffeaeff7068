import Assay.Shell.Format
import Assay.Utility.Basic

/-!
# The printf utility

A format is filled in with arguments, again and again until none is left. The
utility knows more escapes than a shell does, accepts fewer combinations in a
directive, and says what is wrong between the texts that it writes.
-/

set_option autoImplicit false

namespace Assay.Utility

open Shell (Sh Directive)

namespace Printf

/-- Something that is written, or said. -/
inductive Piece where
  | text (t : String)
  | note (t : String)
deriving DecidableEq, Repr

structure Printed where
  pieces : List Piece
  arguments : List String
  used : Bool
  status : Nat
  ended : Bool

namespace Printed

def put (p : Printed) (t : String) : Printed := { p with pieces := .text t :: p.pieces }

def say (p : Printed) (t : String) : Printed := { p with pieces := .note t :: p.pieces }

def grumble (p : Printed) (t : String) : Printed := { p.say t with status := 1 }

def abandon (p : Printed) (t : String) : Printed := { p.grumble t with ended := true }

def next (p : Printed) : String × Printed :=
  match p.arguments with
  | [] => ("", p)
  | a :: rest => (a, { p with arguments := rest, used := true })

end Printed

inductive Escape where
  | octets (cs : List Char)
  | ending
  | wrong (text : String)

def letter? : Char → Option Char
  | '"' => some '"'
  | '\\' => some '\\'
  | 'a' => some '\x07'
  | 'b' => some '\x08'
  | 'e' => some '\x1b'
  | 'f' => some '\x0c'
  | 'n' => some '\n'
  | 'r' => some '\x0d'
  | 't' => some '\t'
  | 'v' => some '\x0b'
  | _ => none

def isOctal (c : Char) : Bool := decide ('0' ≤ c ∧ c ≤ '7')

def isHex (c : Char) : Bool := (Shell.digitValue? c).isSome

def missingHex : Escape := .wrong "missing hexadecimal number in escape"

def byNumber (wide : Bool) (mark : Char) (digits : List Char) : Escape :=
  let n := (Shell.readDigits 16 digits).1
  if decide (0xd800 ≤ n ∧ n ≤ 0xdfff) then
    .wrong ("invalid universal character name \\" ++ String.ofList (mark :: digits))
  else if n < 0x80 then .octets [Char.ofNat n]
  else if wide && decide (n < 0x110000) then .octets (narrowChar (Char.ofNat n))
  else
    let hex := (String.ofList (Nat.toDigits 16 n)).toUpper
    let width := if n < 0x10000 then 4 else 8
    .octets ((if n < 0x10000 then "\\u" else "\\U") ++
      String.ofList (List.replicate (width - hex.length) '0') ++ hex).toList

/-- Reads an escape behind its backslash. In an argument a zero may stand before octal digits. -/
def escape (wide inArgument : Bool) (cs : List Char) : Escape × List Char :=
  match cs with
  | [] => (.octets ['\\'], [])
  | 'c' :: rest => (.ending, rest)
  | 'x' :: rest =>
    let digits := (rest.take 2).takeWhile isHex
    if digits.isEmpty then (missingHex, rest)
    else (.octets [Char.ofNat (Shell.readDigits 16 digits).1], rest.drop digits.length)
  | c :: rest =>
    if isOctal c then
      let body := if inArgument && c == '0' then rest else cs
      let digits := (body.take 3).takeWhile isOctal
      (.octets [Char.ofNat ((Shell.readDigits 8 digits).1 % 256)], body.drop digits.length)
    else if c = 'u' ∨ c = 'U' then
      let width := if c = 'u' then 4 else 8
      let digits := (rest.take width).takeWhile isHex
      if digits.length < width then (missingHex, rest)
      else (byNumber wide c digits, rest.drop width)
    else
      match letter? c with
      | some d => (.octets [d], rest)
      | none => (.octets ['\\', c], rest)

def resolve (wide : Bool) : Nat → List Char → Printed → Printed
  | 0, _, p => p
  | _, [], p => p
  | fuel + 1, '\\' :: cs, p =>
    match escape wide true cs with
    | (.octets found, rest) => resolve wide fuel rest (p.put (String.ofList found))
    | (.ending, _) => { p with ended := true }
    | (.wrong text, _) => p.abandon text
  | fuel + 1, c :: cs, p => resolve wide fuel cs (p.put (String.singleton c))

def complaint (argument text : String) : String :=
  let reason := (text.toList.drop argument.length).drop 2
  quotedText argument ++ ": " ++
    match String.ofList reason with
    | "expected numeric value" => "expected a numeric value"
    | "not completely converted" => "value not completely converted"
    | reason => reason

/-- The number of the character that stands behind a quote, and what follows it. -/
def quotedNumber? (wide : Bool) (argument : String) : Option (Nat × List Char) :=
  match argument.toList with
  | c :: cs =>
    if c != '"' && c != '\'' then none
    else
      match if wide then widen cs else cs with
      | d :: rest => some (if isStray d then d.toNat - strayBase else d.toNat, narrow rest)
      | [] => none
  | [] => none

def number {α : Type} (wide : Bool) (ofNat : Nat → α) (plain : String → α × Option String)
    (argument : String) (p : Printed) : α × Printed :=
  match quotedNumber? wide argument with
  | some (n, []) => (ofNat n, p)
  | some (n, rest) =>
    (ofNat n, p.say ("warning: " ++ String.ofList rest ++
      ": character(s) following character constant have been ignored"))
  | none =>
    let (x, text) := if argument = "'" ∨ argument = "\"" then
        (ofNat 0, some (argument ++ ": expected numeric value"))
      else plain argument
    (x, (text.map (complaint argument)).toList.foldl Printed.grumble p)

def measure (wide : Bool) (cs : List Char) (p : Printed) : Int × List Char × Printed :=
  match cs with
  | '*' :: rest =>
    let (argument, p) := p.next
    let (n, p) := number wide Int.ofNat Shell.signedArgument argument p
    (n, rest, p)
  | _ =>
    let (digits, rest) := cs.span Char.isDigit
    ((Shell.readDigits 10 digits).1, rest, p)

def admitted (flag : Char) : List Char :=
  match flag with
  | '\'' => "dfFgGiu".toList
  | '#' => "aAeEfFgGoxX".toList
  | '0' => "aAdeEfFgGiouxX".toList
  | '.' => "aAdeEfFgGiosuxX".toList
  | _ => "aAcdeEfFgGiosuxX".toList

def write (wide : Bool) (d : Directive) (p : Printed) : Printed :=
  let (argument, p) := p.next
  if d.conversion = 's' then p.put (d.text argument)
  else if d.conversion = 'c' then p.put (d.text (String.singleton (argument.toList.headD '\x00')))
  else if d.conversion = 'd' ∨ d.conversion = 'i' then
    let (n, p) := number wide Int.ofNat Shell.signedArgument argument p
    p.put (d.signed n)
  else if "ouxX".toList.contains d.conversion then
    let (n, p) := number wide id Shell.unsignedArgument argument p
    p.put (d.unsigned n)
  else
    let plain := fun (a : String) => if a = "" then (.zero false, none) else Shell.realArgument a
    let (x, p) := number wide Binary64.ofNat plain argument p
    p.put (d.real x)

/-- Carries a directive out behind its percent sign, and tells what follows it. -/
def directive (wide : Bool) (cs : List Char) (p : Printed) : Printed × List Char :=
  match cs with
  | '%' :: rest => (p.put "%", rest)
  | 'b' :: rest =>
    let (argument, p) := p.next
    (resolve wide (argument.length + 1) argument.toList p, rest)
  | 'q' :: rest =>
    match p.arguments with
    | [] => (p, rest)
    | _ =>
      let (argument, p) := p.next
      (p.put (shownName argument), rest)
  | _ =>
    let (flags, body) := cs.span fun c => "-0+ #'I".toList.contains c
    let (width, body, p) := measure wide body p
    let (precision, body, p) : Option Int × List Char × Printed := match body with
      | '.' :: rest =>
        let (n, rest, p) := measure wide rest p
        (some n, rest, p)
      | _ => (none, body, p)
    let body := body.dropWhile fun c => "lLhjtz".toList.contains c
    let marks := flags ++ if precision.isSome then ['.'] else []
    let conversion := body.headD '\x00'
    if (' ' :: marks).all fun m => (admitted m).contains conversion then
      let d : Directive :=
        { left := flags.contains '-' || decide (width < 0)
          zeros := flags.contains '0'
          plus := flags.contains '+'
          blank := flags.contains ' '
          alternate := flags.contains '#'
          width := width.natAbs
          precision := precision.bind fun n => if n < 0 then none else some n.toNat
          conversion := conversion }
      (write wide d p, body.tail)
    else
      let shown := String.ofList ('%' :: cs.take (cs.length - body.tail.length))
      (p.abandon (shown ++ ": invalid conversion specification"), [])

def fillOnce (wide : Bool) : Nat → List Char → Printed → Printed
  | 0, _, p => p
  | _, [], p => p
  | fuel + 1, '%' :: cs, p =>
    let (p, rest) := directive wide cs p
    if p.ended then p else fillOnce wide fuel rest p
  | fuel + 1, '\\' :: cs, p =>
    match escape wide false cs with
    | (.octets found, rest) => fillOnce wide fuel rest (p.put (String.ofList found))
    | (.ending, _) => { p with ended := true }
    | (.wrong text, _) => p.abandon text
  | fuel + 1, c :: cs, p => fillOnce wide fuel cs (p.put (String.singleton c))

def fill (wide : Bool) (format : List Char) : Nat → Printed → Printed
  | 0, p => p
  | n + 1, p =>
    let p := fillOnce wide (format.length + 1) format { p with used := false }
    if p.ended || p.arguments.isEmpty then p
    else if p.used then fill wide format n p
    else
      p.say ("warning: ignoring excess arguments, starting with " ++
        quotedText (p.arguments.headD ""))

def deliver (status : Nat) : List Char → List Piece → Sh Nat
  | pending, [] => emitWith "printf" status (String.ofList pending.reverse)
  | pending, .text t :: rest => deliver status (t.toList.reverse ++ pending) rest
  | pending, .note t :: rest => do
    let status ← if pending.isEmpty then pure status
      else emitWith "printf" status (String.ofList pending.reverse)
    blame "printf" t
    deliver status [] rest

end Printf

open Printf in
def printf : Tool := fun _ arguments => do
  match if arguments.head? == some "--" then arguments.tail else arguments with
  | [] => refuse "printf" 1 "missing operand"
  | format :: words =>
    let p := fill (← isWide) format.toList (words.length + 1) ⟨[], words, false, 0, false⟩
    deliver p.status [] p.pieces.reverse

end Assay.Utility
