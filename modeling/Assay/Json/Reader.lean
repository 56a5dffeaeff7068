import Assay.Json.Node

/-!
# Reading JSON text

The reader turns a text into a tree in one pass from left to right. Each part
returns what it read and the text that follows, or no text once the tree has
broken off.
-/

set_option autoImplicit false

namespace Assay.Json

def isSpace (c : Char) : Bool := c == ' ' || c == '\t' || c == '\n' || c == '\r'

def skipSpace (cs : List Char) : List Char := cs.dropWhile isSpace

/-- Outcome of reading a token: the token and the text after it, or the end or
character that broke it off. -/
inductive Scan (α : Type) where
  | done (a : α) (rest : List Char)
  | stop (f : Fault)

def scanWord : List Char → List Char → Scan Unit
  | [], cs => .done () cs
  | _ :: _, [] => .stop .cut
  | w :: ws, c :: cs => if w = c then scanWord ws cs else .stop .junk

def scanDigits (cs : List Char) : Scan (List Char) :=
  match cs.span Char.isDigit with
  | ([], []) => .stop .cut
  | ([], _ :: _) => .stop .junk
  | (ds, rest) => .done ds rest

/-- Reads the digits before the point: a zero alone, or digits without a leading zero. -/
def scanWhole (cs : List Char) : Scan (List Char) :=
  match scanDigits cs with
  | .done ('0' :: _ :: _) _ => .stop .junk
  | s => s

def scanFraction : List Char → Scan (List Char)
  | '.' :: cs => scanDigits cs
  | cs => .done [] cs

def scanExponent : List Char → Scan (Option Exponent)
  | [] => .done none []
  | c :: cs =>
    if c = 'e' ∨ c = 'E' then
      let (negative, digits) := Decimal.spanSign cs
      match scanDigits digits with
      | .done ds rest => .done (some ⟨negative, ds⟩) rest
      | .stop f => .stop f
    else .done none (c :: cs)

def scanNumeral (negative : Bool) (cs : List Char) : Scan Numeral :=
  match scanWhole cs with
  | .stop f => .stop f
  | .done whole rest =>
    match scanFraction rest with
    | .stop f => .stop f
    | .done fraction rest =>
      match scanExponent rest with
      | .stop f => .stop f
      | .done exponent rest => .done ⟨negative, whole, fraction, exponent⟩ rest

def hexValue? (c : Char) : Option Nat :=
  if c.isDigit then some (c.toNat - '0'.toNat)
  else if 'a' ≤ c ∧ c ≤ 'f' then some (c.toNat - 'a'.toNat + 10)
  else if 'A' ≤ c ∧ c ≤ 'F' then some (c.toNat - 'A'.toNat + 10)
  else none

def hexNumber? (cs : List Char) : Option Nat :=
  cs.foldlM (fun n c => (hexValue? c).map (16 * n + ·)) 0

def byteLength (cs : List Char) : Nat := cs.foldr (fun c n => c.utf8Size + n) 0

def escaped? (c : Char) : Option Char :=
  if c = '"' ∨ c = '\\' ∨ c = '/' then some c
  else if c = 'b' then some '\x08'
  else if c = 'f' then some '\x0c'
  else if c = 'n' then some '\n'
  else if c = 'r' then some '\r'
  else if c = 't' then some '\t'
  else none

/-- Outcome of reading a string literal: its units are known even when it is cut off. -/
inductive StringScan where
  | done (units : List StringUnit) (rest : List Char)
  | cut (units : List StringUnit)
  | junk

namespace StringScan

def cons (u : StringUnit) : StringScan → StringScan
  | done units rest => done (u :: units) rest
  | cut units => cut (u :: units)
  | junk => junk

end StringScan

/-- Reads a string literal whose opening quote has been read. The four digits of a
code are missing, not wrong, when fewer than four bytes are left. -/
def scanString (cs : List Char) : StringScan :=
  match cs with
  | [] => .cut []
  | '"' :: rest => .done [] rest
  | '\\' :: rest =>
    match rest with
    | [] => .cut []
    | 'u' :: more =>
      match more with
      | a :: b :: c :: d :: tail =>
        match hexNumber? [a, b, c, d] with
        | some n => (scanString tail).cons (.code n)
        | none => .junk
      | short => if byteLength short < 4 then .cut [] else .junk
    | e :: tail =>
      match escaped? e with
      | some c => (scanString tail).cons (.char c)
      | none => .junk
  | c :: rest =>
    if c.toNat < 0x20 then .junk else (scanString rest).cons (.char c)

abbrev Reading (α : Type) := α × Option (List Char)

def wordNode (node : Node) (word : String) (cs : List Char) : Reading Node :=
  match scanWord word.toList cs with
  | .done _ rest => (node, some rest)
  | .stop f => (.broken f, none)

def numberNode (negative : Bool) (cs : List Char) : Reading Node :=
  match scanNumeral negative cs with
  | .done n rest => (.number n, some rest)
  | .stop .cut => (.cutNumber, none)
  | .stop .junk => (.broken .junk, none)

def stringNode (cs : List Char) : Reading Node :=
  match scanString cs with
  | .done units rest => (.string units, some rest)
  | .cut units => (.cutString units, none)
  | .junk => (.broken .junk, none)

mutual

def readValue : Nat → List Char → Reading Node
  | 0, _ => (.broken .junk, none)
  | fuel + 1, cs =>
    match skipSpace cs with
    | [] => (.broken .cut, none)
    | c :: rest =>
      if c = 'n' then wordNode .null "ull" rest
      else if c = 't' then wordNode (.bool true) "rue" rest
      else if c = 'f' then wordNode (.bool false) "alse" rest
      else if c = '"' then stringNode rest
      else if c = '-' then numberNode true rest
      else if c.isDigit then numberNode false (c :: rest)
      else if c = '[' then
        let (items, rest) := readItems fuel true rest
        (.array items, rest)
      else if c = '\x7b' then
        let (members, rest) := readMembers fuel true rest
        (.object members, rest)
      else (.broken .junk, none)

/-- Reads the items of an array up to its closing bracket. A comma announces an item,
which is a broken one when the text ends behind it. -/
def readItems : Nat → Bool → List Char → Reading Items
  | 0, _, _ => (.broken .junk, none)
  | fuel + 1, first, cs =>
    match skipSpace cs with
    | [] => (.broken .cut, none)
    | c :: rest =>
      if c = ']' then (.closed, some rest)
      else if first then readItem fuel (c :: rest)
      else if c = ',' then
        match skipSpace rest with
        | [] => (.item (.broken .cut) (.broken .junk), none)
        | d :: tail => if d = ']' then (.broken .junk, none) else readItem fuel (d :: tail)
      else (.broken .junk, none)

def readItem : Nat → List Char → Reading Items
  | 0, _ => (.broken .junk, none)
  | fuel + 1, cs =>
    match readValue fuel cs with
    | (node, none) => (.item node (.broken .junk), none)
    | (node, some rest) =>
      let (items, rest) := readItems fuel false rest
      (.item node items, rest)

def readMembers : Nat → Bool → List Char → Reading Members
  | 0, _, _ => (.broken .junk, none)
  | fuel + 1, first, cs =>
    match skipSpace cs with
    | [] => (.broken .cut, none)
    | c :: rest =>
      if c = '\x7d' then (.closed, some rest)
      else if first then
        if c = '"' then readMember fuel rest else (.broken .junk, none)
      else if c = ',' then
        match skipSpace rest with
        | [] => (.broken .cut, none)
        | d :: tail => if d = '"' then readMember fuel tail else (.broken .junk, none)
      else (.broken .junk, none)

/-- Reads one member, whose key's opening quote has been read, and those after it. -/
def readMember : Nat → List Char → Reading Members
  | 0, _ => (.broken .junk, none)
  | fuel + 1, cs =>
    match scanString cs with
    | .junk => (.broken .junk, none)
    | .cut units => (.cutKey units, none)
    | .done key rest =>
      match skipSpace rest with
      | [] => (.member key (.broken .cut) (.broken .junk), none)
      | c :: tail =>
        if c = ':' then
          match readValue fuel tail with
          | (node, none) => (.member key node (.broken .junk), none)
          | (node, some rest) =>
            let (members, rest) := readMembers fuel false rest
            (.member key node members, rest)
        else (.member key (.broken .junk) (.broken .junk), none)

end

structure Source where
  root : Node
  trailing : Bool

/-- Reads a whole text. Each step of the reader takes at least a third of a
character, so the fuel never runs out. -/
def readText (cs : List Char) : Source :=
  let (root, rest) := readValue (3 * cs.length + 3) cs
  ⟨root, match rest with
    | none => false
    | some more => !(skipSpace more).isEmpty⟩

end Assay.Json
