import Assay.Shell.Arithmetic
import Assay.Utility.Numbers

/-!
# The od utility

Octets are shown in blocks, each with the offset at which it stands, and on a
line for each form that is asked for. Blocks that repeat are left out.
-/

set_option autoImplicit false

namespace Assay.Utility

open Shell (Sh)

namespace Dump

/-- How octets are shown that belong together. -/
inductive Kind where
  | signed
  | unsigned
  | octal
  | hex
  | named
  | plain
deriving DecidableEq, Repr

/-- A form: the kind, how many octets belong together, and whether the block is shown as text
behind them. -/
structure Form where
  kind : Kind
  size : Nat
  trailer : Bool
deriving DecidableEq, Repr

def padZeros (width : Nat) (digits : String) : String :=
  String.ofList (List.replicate (width - digits.length) '0') ++ digits

def inBase (base width n : Nat) : String :=
  padZeros width (String.ofList (Nat.toDigits base n))

def escapes : List (Nat × String) := [
  (0, "\\0"), (7, "\\a"), (8, "\\b"), (9, "\\t"), (10, "\\n"), (11, "\\v"), (12, "\\f"),
  (13, "\\r")]

def isShown (n : Nat) : Bool := decide (31 < n ∧ n < 127)

def plainText (n : Nat) : String :=
  match escapes.find? fun e => e.1 == n with
  | some (_, text) => text
  | none => if isShown n then String.singleton (Char.ofNat n) else inBase 8 3 n

def controlNames : List String := [
  "nul", "soh", "stx", "etx", "eot", "enq", "ack", "bel", "bs", "ht", "nl", "vt", "ff", "cr",
  "so", "si", "dle", "dc1", "dc2", "dc3", "dc4", "nak", "syn", "etb", "can", "em", "sub", "esc",
  "fs", "gs", "rs", "us", "sp"]

def namedText (n : Nat) : String :=
  let n := n % 128
  if n = 127 then "del" else (controlNames[n]?).getD (String.singleton (Char.ofNat n))

def Form.width (f : Form) : Nat :=
  match f.kind with
  | .signed => (toString (Nat.pow 2 (8 * f.size - 1))).length + 1
  | .unsigned => (toString (Nat.pow 2 (8 * f.size))).length
  | .octal => (f.size * 8 + 2) / 3
  | .hex => 2 * f.size
  | .named | .plain => 3

def Form.unit (f : Form) (n : Nat) : String :=
  match f.kind with
  | .signed =>
    let half := Nat.pow 2 (f.size * 8 - 1)
    if n < half then toString n else toString ((n : Int) - (2 * half : Nat))
  | .unsigned => toString n
  | .octal => inBase 8 f.width n
  | .hex => inBase 16 f.width n
  | .named => namedText n
  | .plain => plainText n

/-- Reads how many octets belong together, and what follows that. -/
def readSize (text : String) (cs : List Char) : Except String (Nat × List Char) :=
  match cs with
  | 'C' :: rest => .ok (1, rest)
  | 'S' :: rest => .ok (2, rest)
  | 'I' :: rest => .ok (4, rest)
  | 'L' :: rest => .ok (8, rest)
  | _ =>
    let (digits, rest) := cs.span Char.isDigit
    let n := (Shell.readDigits 10 digits).1
    if digits.isEmpty then .ok (4, rest)
    else if [1, 2, 4, 8].contains n then .ok (n, rest)
    else .error ("invalid type string " ++ quotedText text ++
      ";\nthis system doesn't provide a " ++ toString n ++ "-byte integral type")

def numberKind? : Char → Option Kind
  | 'd' => some .signed
  | 'u' => some .unsigned
  | 'o' => some .octal
  | 'x' => some .hex
  | _ => none

def readForms (text : String) : Nat → List Char → Except String (List Form)
  | 0, _ => .ok []
  | _, [] => .ok []
  | fuel + 1, c :: cs => do
    let (kind, size, rest) ← match c, numberKind? c with
      | _, some kind => (readSize text cs).map fun (size, rest) => (kind, size, rest)
      | 'a', _ => pure (.named, 1, cs)
      | 'c', _ => pure (.plain, 1, cs)
      | _, _ => throw ("invalid character '" ++ String.singleton c ++ "' in type string " ++
          quotedText text)
    match rest with
    | 'z' :: rest => return ⟨kind, size, true⟩ :: (← readForms text fuel rest)
    | _ => return ⟨kind, size, false⟩ :: (← readForms text fuel rest)

def letterForms : List (Char × String) := [
  ('a', "a"), ('b', "o1"), ('c', "c"), ('D', "u4"), ('d', "u2"), ('H', "x4"), ('X', "x4"),
  ('i', "dI"), ('I', "dL"), ('L', "dL"), ('l', "dL"), ('O', "o4"), ('B', "o2"), ('o', "o2"),
  ('s', "d2"), ('h', "x2"), ('x', "x2")]

structure Settings where
  forms : List Form
  block : Nat
  radix : Char
  all : Bool
  bigEndian : Bool

def offsetText (radix : Char) (n : Nat) : String :=
  match radix with
  | 'n' => ""
  | 'd' => inBase 10 7 n
  | 'x' => inBase 16 6 n
  | _ => inBase 8 7 n

def units (bigEndian : Bool) (size : Nat) : Nat → List Nat → List Nat
  | 0, _ => []
  | _, [] => []
  | fuel + 1, octets =>
    let unit := octets.take size
    let unit := unit ++ List.replicate (size - unit.length) 0
    (if bigEndian then unit else unit.reverse).foldl (fun n b => n * 256 + b) 0 ::
      units bigEndian size fuel (octets.drop size)

namespace Settings

def lineWidth (s : Settings) : Nat :=
  s.forms.foldl (fun n f => max n ((f.width + 1) * (s.block / f.size))) 0

def blockText (s : Settings) (f : Form) (octets : List Nat) : String :=
  let fields := s.block / f.size
  let pad := s.lineWidth - f.width * fields
  let shown := units s.bigEndian f.size octets.length octets
  let padAfter := fun (i : Nat) => pad * (fields - i) / fields
  let cells := shown.zipIdx.map fun (n, i) =>
    padLeft (padAfter i - padAfter (i + 1) + f.width) (f.unit n)
  let blank := fields - shown.length
  let trailer := if !f.trailer then "" else
    String.ofList (List.replicate (blank * f.width + pad * blank / fields) ' ') ++ "  >" ++
      String.ofList (octets.map fun n => if isShown n then Char.ofNat n else '.') ++ "<"
  String.join cells ++ trailer

def blockLines (s : Settings) (offset : Nat) (octets : List Nat) : List String :=
  let place := offsetText s.radix offset
  s.forms.zipIdx.map fun (f, i) =>
    (if i = 0 then place else String.ofList (List.replicate place.length ' ')) ++
      s.blockText f octets

def lines (s : Settings) : Nat → Nat → Option (List Nat) → Bool → List Nat → List String
  | 0, _, _, _, _ => []
  | _, _, _, _, [] => []
  | fuel + 1, offset, before, marked, octets =>
    let block := octets.take s.block
    let rest := octets.drop s.block
    if !s.all && before == some block && block.length = s.block then
      (if marked then [] else ["*"]) ++ s.lines fuel (offset + s.block) before true rest
    else s.blockLines offset block ++ s.lines fuel (offset + s.block) (some block) false rest

end Settings

/-- Strings of so many characters that can be shown and end with a null, with their offsets. -/
def strings (least : Nat) : Nat → List Nat → List Nat → List (Nat × String)
  | _, _, [] => []
  | offset, run, n :: rest =>
    if isShown n then strings least (offset + 1) (n :: run) rest
    else
      let more := strings least (offset + 1) [] rest
      if n = 0 && least ≤ run.length then
        (offset - run.length, String.ofList (run.reverse.map Char.ofNat)) :: more
      else more

/-- A number that an option asks for, in base eight or sixteen if it is written so. -/
def readNumber (units : String) (anyBase : Bool) (option text : String) : Except String Nat :=
  let wrong := fun (what : String) => what ++ option ++ " argument '" ++ text ++ "'"
  let body := match text.toList.dropWhile (· == ' ') with
    | '+' :: cs => cs
    | cs => cs
  let isHex := match body with
    | '0' :: x :: d :: _ => (x == 'x' || x == 'X') && (Shell.digitValue? d).isSome
    | _ => false
  let (n, rest) :=
    if !anyBase then Shell.readDigits 10 body
    else if isHex then Shell.readDigits 16 (body.drop 2)
    else if body.head? == some '0' then Shell.readDigits 8 body
    else Shell.readDigits 10 body
  if rest.length = body.length then .error (wrong "invalid ")
  else
    match Numeral.scale? units rest with
    | none => .error (wrong "invalid suffix in ")
    | some scale =>
      if n * scale ≤ 18446744073709551615 then .ok (n * scale)
      else .error (option ++ " argument '" ++ text ++ "' too large")

def amountUnits : String := "bEGKkMmPQRTYZ0"

/-- An offset in its old form: octal, decimal before a point, or hexadecimal. -/
def oldOffset? (text : String) : Option Nat :=
  let cs := if text.startsWith "+" then text.toList.tail else text.toList
  let (base, body) := match cs with
    | '0' :: x :: rest => if x = 'x' ∨ x = 'X' then (16, rest) else (8, cs)
    | _ => (if cs.contains '.' then 10 else 8, cs)
  let (n, rest) := Shell.readDigits base body
  if rest.length = body.length then none
  else
    match if rest.head? == some '.' then rest.tail else rest with
    | [] => some n
    | ['b'] => some (n * 512)
    | ['B'] => some (n * 1024)
    | _ => none

/-- Letters of options that leave no room for offsets among operands. -/
def newLetters : List Char := "AjNStvw".toList ++ ['σ', 'ω', 'ε', 'α', 'ι', 'κ']

def takeOffset (g : Given) : Option Nat × List String :=
  let old := g.has 'τ'
  if g.options.any (fun o => newLetters.contains o.1) && !old then (none, g.operands)
  else
    match g.operands with
    | [word] =>
      match if old || word.startsWith "+" then oldOffset? word else none with
      | some n => (some n, [])
      | none => (none, g.operands)
    | [file, word] =>
      let isOffset := old || word.startsWith "+" || word.toList.head?.any Char.isDigit
      match if isOffset then oldOffset? word else none with
      | some n => (some n, [file])
      | none => (none, g.operands)
    | operands => (none, operands)

def options : Options :=
  ⟨"A:aBbcDdHhIij:LlN:OoS:st:vw::Xxσ::ω::ε:α:ι:κ:τ", [("skip-bytes", 'ι'), ("address-radix", 'α'),
    ("read-bytes", 'κ'), ("format", 't'), ("output-duplicates", 'v'), ("strings", 'σ'),
    ("traditional", 'τ'), ("width", 'ω'), ("endian", 'ε')], false⟩

def asked (g : Given) : Except String (List Form) := do
  let texts := g.options.filterMap fun o =>
    if o.1 = 't' then some o.2 else (letterForms.find? fun f => f.1 == o.1).map Prod.snd
  let forms ← texts.mapM fun t => readForms t t.length t.toList
  return if forms.flatten.isEmpty then [⟨.octal, 2, false⟩] else forms.flatten

def numberOf (g : Given) (units : String) (anyBase : Bool) (short long : Char) (name : String) :
    Except String (Option Nat) :=
  match g.options.reverse.find? fun o => o.1 == short || o.1 == long with
  | some (c, text) =>
    let option := if c = short then "-" ++ String.singleton short else "--" ++ name
    (readNumber units anyBase option text).map some
  | none => .ok none

/-- Octets of all operands, the status that those leave which cannot be read, and whether one
of them has been found. -/
def readAll : List String → Sh (List Char × Nat × Bool)
  | [] => return ([], 0, false)
  | operand :: rest => do
    match ← content operand with
    | .ok cs =>
      let (more, status, _) ← readAll rest
      return (cs ++ more, status, true)
    | .error u =>
      blameUnread "od" operand u
      let (more, _, found) ← readAll rest
      return (more, 1, found || u.isFound)

def fail (text : String) : Sh Nat := do
  blame "od" text
  return 1

def dump (s : Settings) (skip : Nat) (limit least : Option Nat) (operands : List String) :
    Sh Nat := do
  let (cs, status, found) ← readAll (if operands.isEmpty then ["-"] else operands)
  if !found then return status
  let octets := (cs.drop skip).map Char.toNat
  if cs.length < skip then fail "cannot skip past end of combined input"
  else
    let octets := (limit.map octets.take).getD octets
    match least with
    | some least =>
      let shown := (strings least skip [] octets).map fun (offset, text) =>
        offsetText s.radix offset ++ (if s.radix = 'n' then "" else " ") ++ text
      emitWith "od" status (joinLines shown)
    | none =>
      let last := if s.radix = 'n' then [] else [offsetText s.radix (skip + octets.length)]
      emitWith "od" status
        (joinLines (s.lines (octets.length + 1) skip none false octets ++ last))

def blockSize (forms : List Form) (width : Option Nat) : Nat × Option String :=
  let common := forms.foldl (fun n f => Nat.lcm n f.size) 1
  match width with
  | none => (if common < 16 then common * (16 / common) else common, none)
  | some n =>
    if n % common = 0 then (n, none)
    else (common, some ("warning: invalid width " ++ toString n ++ "; using " ++ toString common ++
      " instead"))

end Dump

open Dump in
def od : Tool := fun _ arguments =>
  withOptions "od" 1 Dump.options arguments fun g => do
    let radix := ((g.options.reverse.find? fun o => o.1 == 'A' || o.1 == 'α').map Prod.snd).getD "o"
    let letter := radix.toList.headD '\x00'
    if !("doxn".toList.contains letter) then
      return ← fail ("invalid output address radix '" ++ String.singleton letter ++
        "'; it must be one character from [doxn]")
    let read : Except String (Option Nat × Option Nat × Option Nat × Option Nat) := do
      let skip ← numberOf g amountUnits true 'j' 'ι' "skip-bytes"
      let limit ← numberOf g amountUnits true 'N' 'κ' "read-bytes"
      let least ← if g.text? 'σ' == some "" then pure (some 3)
        else numberOf g amountUnits true 'S' 'σ' "strings"
      let width ← if (g.options.reverse.find? fun o => o.1 == 'w' || o.1 == 'ω').any
          (fun o => o.2 == "") then pure (some 32)
        else numberOf g "" false 'w' 'ω' "width"
      return (skip, limit, least, width)
    let endian := g.read 'ε' 0 (chooseRow "--endian" [["little"], ["big"]])
    settleWithHint "od" 1 endian fun endian =>
      settle "od" 1 read fun (skip, limit, least, width) =>
        settle "od" 1 (asked g) fun forms => do
          if width = some 0 then throw (.killed 6)
          let (block, warning?) := blockSize forms width
          if let some text := warning? then blame "od" text
          let (offset, operands) := takeOffset g
          let s : Dump.Settings := ⟨forms, block, letter, g.has 'v', endian == 1⟩
          dump s ((offset <|> skip).getD 0) limit least operands

end Assay.Utility
