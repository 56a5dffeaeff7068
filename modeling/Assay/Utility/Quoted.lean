import Assay.Shell.Session

/-!
# Characters and quotes

The characters that utilities see in the octets of a text, and the quotes that
they show names and texts in.
-/

set_option autoImplicit false

namespace Assay.Utility

/-!
## Characters

Texts of a shell are octets. Where the environment asks for it, utilities take
those octets together that make up one character. An octet that belongs to no
character is kept as a character that texts do not have, so that widening and
narrowing lose nothing.
-/

open Shell (Sh octetsOf bytesOf)

def strayBase : Nat := 0x10ff00

def isStray (c : Char) : Bool := decide (strayBase ≤ c.toNat)

def lengthAt (c : Char) : Nat :=
  let n := c.toNat
  if n < 0xc2 then 1 else if n < 0xe0 then 2 else if n < 0xf0 then 3 else 4

def widenFrom : Nat → List Char → List Char
  | 0, _ => []
  | _, [] => []
  | fuel + 1, c :: cs =>
    if c.toNat < 0x80 then c :: widenFrom fuel cs
    else
      let length := lengthAt c
      match Text.decode? (bytesOf ((c :: cs).take length)) with
      | some [d] => d :: widenFrom fuel (cs.drop (length - 1))
      | _ => Char.ofNat (strayBase + c.toNat) :: widenFrom fuel cs

def widen (cs : List Char) : List Char :=
  if cs.all fun c => c.toNat < 0x80 then cs else widenFrom cs.length cs

def narrowChar (c : Char) : List Char :=
  if c.toNat < 0x80 then [c]
  else if isStray c then [Char.ofNat (c.toNat - strayBase)]
  else octetsOf (Text.encodeChar c)

def narrow (cs : List Char) : List Char := cs.flatMap narrowChar

def isPrintable (c : Char) : Bool :=
  let n := c.toNat
  if n < 0x80 then decide (0x20 ≤ n ∧ n < 0x7f)
  else !isStray c && decide (0xa0 ≤ n) && n != 0x2028 && n != 0x2029

def isCombining (n : Nat) : Bool :=
  decide (0x300 ≤ n ∧ n < 0x370) || decide (0x483 ≤ n ∧ n < 0x48a) ||
    decide (0x200b ≤ n ∧ n < 0x2010) || decide (0x20d0 ≤ n ∧ n < 0x20f1) ||
    decide (0xfe00 ≤ n ∧ n < 0xfe10) || decide (0xfe20 ≤ n ∧ n < 0xfe30)

def isBroad (n : Nat) : Bool :=
  decide (0x1100 ≤ n ∧ n < 0x1160) || decide (0x2e80 ≤ n ∧ n < 0xa4d0 ∧ n ≠ 0x303f) ||
    decide (0xac00 ≤ n ∧ n < 0xd7a4) || decide (0xf900 ≤ n ∧ n < 0xfb00) ||
    decide (0xfe30 ≤ n ∧ n < 0xfe70) || decide (0xff01 ≤ n ∧ n < 0xff61) ||
    decide (0xffe0 ≤ n ∧ n < 0xffe7) || decide (0x1f300 ≤ n ∧ n < 0x1f650) ||
    decide (0x1f900 ≤ n ∧ n < 0x1fa00) || decide (0x20000 ≤ n ∧ n < 0x3fffe)

def columnsOf (c : Char) : Nat :=
  if !isPrintable c || isCombining c.toNat then 0 else if isBroad c.toNat then 2 else 1

def wideLocales : List String := ["C.UTF-8", "C.utf8"]

def isWide : Sh Bool := do
  let env := (← get).environment
  let values := ["LC_ALL", "LC_CTYPE", "LANG"].filterMap fun name =>
    ((env.find? fun b => b.1 == name).map Prod.snd).filter (· != "")
  return values.head?.any wideLocales.contains

end Assay.Utility

namespace Assay.Utility.Quoted

/-!
## Quoted names and texts

Diagnostics show a name so that a shell would read it back: in quotes, where
the characters in it need them, with a code for each octet that cannot be
shown. Other texts stand between quotes of their own, the form of which depends
on the environment.
-/

def octal (n : Nat) : List Char :=
  [n / 64 % 8, n / 8 % 8, n % 8].map fun d => Char.ofNat ('0'.toNat + d)

def letters : List (Char × Char) := [
  ('\x07', 'a'), ('\x08', 'b'), ('\x09', 't'), ('\n', 'n'), ('\x0b', 'v'), ('\x0c', 'f'),
  ('\x0d', 'r')]

def code (c : Char) : List Char :=
  match letters.find? fun l => l.1 == c with
  | some (_, letter) => ['\\', letter]
  | none => (narrowChar c).flatMap fun octet => '\\' :: octal octet.toNat

/-- What stands between single quotes for a name; `coded` tells that codes are being given. -/
def nameBody (coded : Bool) : List Char → List Char
  | [] => []
  | c :: cs =>
    if c = '\'' then "'\\''".toList ++ nameBody false cs
    else if isPrintable c then (if coded then "''".toList else []) ++ c :: nameBody false cs
    else (if coded then [] else "'$'".toList) ++ code c ++ nameBody true cs

def specials : List Char := "!\"$&()*;<=>?[\\^\x60|".toList

def initials : List Char := ['#', '~']

def braces : List Char := ['\x7b', '\x7d']

def isPlain (cs : List Char) : Bool :=
  cs.all isPrintable && !(cs.any specials.contains) && !(cs.tail.any initials.contains) &&
    (cs.length = 1 || !(cs.any braces.contains))

def needsQuotes (cs : List Char) : Bool :=
  cs.isEmpty || !(cs.all isPrintable) || cs.any specials.contains ||
    cs.any [' ', '\'', ':'].contains || (cs.take 1).any initials.contains ||
    (cs.length = 1 && cs.any braces.contains)

def textBody (cs : List Char) : List Char :=
  cs.flatMap fun c =>
    if c = '\\' then ['\\', c] else if isPrintable c then [c] else code c

end Quoted

open Quoted

def quotedName (name : String) : String :=
  let cs := widen name.toList
  if cs.contains '\'' && isPlain cs then "\"" ++ name ++ "\""
  else "'" ++ String.ofList (narrow (nameBody false cs)) ++ "'"

def shownName (name : String) : String :=
  if needsQuotes (widen name.toList) then quotedName name else name

def quotedText (text : String) : String :=
  "‘" ++ String.ofList (narrow (textBody (widen text.toList))) ++ "’"

def settleQuotes (wide : Bool) (text : String) : String :=
  String.ofList (text.toList.flatMap fun c =>
    if c = '‘' || c = '’' then (if wide then narrowChar c else ['\'']) else [c])

end Assay.Utility
