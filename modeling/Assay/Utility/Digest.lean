import Assay.Utility.Digest.Hash
import Assay.Utility.Numbers

/-!
# Utilities on digests

Octets are written with letters, and the digests of files are shown or compared
with those that a list has for them.
-/

set_option autoImplicit false

namespace Assay.Utility

/-!
## The base64 utility

Octets are written with sixty-four letters, three octets with four of them, and
read back.
-/

namespace Base64

def letters : List Char :=
  "ABCDEFGHIJKLMNOPQRSTUVWXYZabcdefghijklmnopqrstuvwxyz0123456789+/".toList

def letter (n : Nat) : Char := (letters[n % 64]?).getD 'A'

def encode : List Nat → List Char
  | a :: b :: c :: rest =>
    let n := a * 65536 + b * 256 + c
    letter (n / 262144) :: letter (n / 4096) :: letter (n / 64) :: letter n :: encode rest
  | [a, b] =>
    let n := a * 65536 + b * 256
    [letter (n / 262144), letter (n / 4096), letter (n / 64), '=']
  | [a] =>
    let n := a * 65536
    [letter (n / 262144), letter (n / 4096), '=', '=']
  | [] => []

/-- The octet that two letters make up together, of which some low bits of the first one and
the high bits of the second one count. -/
def octet (shift x y : Nat) : Char :=
  Char.ofNat ((x * Nat.pow 2 shift + y / Nat.pow 2 (6 - shift)) % 256)

/-- The octets that four characters stand for, as far as they can be read, and whether all of
them are right. -/
def decodeGroup (group : List Char) : List Char × Bool :=
  match group.map letters.idxOf? with
  | some x :: some y :: rest =>
    let first := octet 2 x y
    match rest, group.drop 2 with
    | [some z, some w], _ => ([first, octet 4 y z, octet 6 z w], true)
    | some z :: _, [_, d] => ([first, octet 4 y z], d == '=')
    | some z :: _, _ => ([first, octet 4 y z], false)
    | _, tail => ([first], tail == ['=', '='])
  | _ => ([], false)

def decode : Nat → List Char → List Char × Bool
  | 0, _ => ([], true)
  | _, [] => ([], true)
  | fuel + 1, cs =>
    match decodeGroup (cs.take 4) with
    | (octets, false) => (octets, false)
    | (octets, true) =>
      let (more, right) := decode fuel (cs.drop 4)
      (octets ++ more, right)

/-- Breaks characters into lines of a width; none where the width is zero. -/
def wrap (width : Nat) : Nat → List Char → List String
  | 0, cs => [String.ofList cs]
  | _, [] => []
  | fuel + 1, cs =>
    if width = 0 then [String.ofList cs]
    else String.ofList (cs.take width) :: wrap width fuel (cs.drop width)

def readWidth (text : String) : Except String Nat :=
  match Numeral.read "" true text with
  | .error .beyond => if text.contains '-' then .error wrong else .ok 0
  | .error .malformed => .error wrong
  | .ok n => if n < 0 then .error wrong else .ok n.toNat
where
  wrong : String := "invalid wrap size: " ++ quotedText text

end Base64

def base64 : Tool := fun _ arguments =>
  withOptions "base64" 1 ⟨"diw:", [("decode", 'd'), ("wrap", 'w'), ("ignore-garbage", 'i')],
    false⟩ arguments fun g =>
    settle "base64" 1 (g.read 'w' 76 Base64.readWidth) fun width => do
      if let _ :: extra :: _ := g.operands then
        return ← refuse "base64" 1 ("extra operand " ++ quotedText extra)
      let (read, status) ← contents "base64" g.operands
      if status ≠ 0 then return 1
      let cs := together read
      if g.has 'd' then
        let kept := cs.filter fun c => c != '\n' &&
          (!g.has 'i' || Base64.letters.contains c || c == '=')
        let (octets, right) := Base64.decode kept.length kept
        let status ← emit "base64" (String.ofList octets)
        if right then return status
        blame "base64" "invalid input"
        return 1
      else
        let lines := Base64.wrap width (cs.length * 2 + 1) (Base64.encode (cs.map Char.toNat))
        emit "base64" (if width = 0 then String.join lines else joinLines lines)

/-!
## Digests of files

The digests of files are shown, or compared with those that a list has for them.
-/

open Shell (Sh bytesOf)

namespace Digest

structure Algorithm where
  tag : String
  size : Nat
  digest : Nat → List Nat → List Nat

def Algorithm.md5 : Algorithm := ⟨"MD5", 16, fun _ => Digest.md5⟩
def Algorithm.sha1 : Algorithm := ⟨"SHA1", 20, fun _ => Digest.sha1⟩
def Algorithm.sha224 : Algorithm := ⟨"SHA224", 28, fun _ => Digest.sha224⟩
def Algorithm.sha256 : Algorithm := ⟨"SHA256", 32, fun _ => Digest.sha256⟩
def Algorithm.sha384 : Algorithm := ⟨"SHA384", 48, fun _ => Digest.sha384⟩
def Algorithm.sha512 : Algorithm := ⟨"SHA512", 64, fun _ => Digest.sha512⟩
def Algorithm.blake2 : Algorithm := ⟨"BLAKE2b", 64, Digest.blake2⟩
def Algorithm.sm3 : Algorithm := ⟨"SM3", 32, fun _ => Digest.sm3⟩

def Algorithm.isVariable (a : Algorithm) : Bool := a.tag == "BLAKE2b"

def Algorithm.tagFor (a : Algorithm) (size : Nat) : String :=
  a.tag ++ if size = a.size then "" else "-" ++ toString (8 * size)

/-- How many octets a text stands for that has the form of a digest. -/
def Algorithm.sizeOf? (a : Algorithm) (cs : List Char) : Option Nat :=
  let size := cs.length / 2
  if cs.all (fun c => (Shell.digitValue? c).isSome) && cs.length % 2 = 0 &&
      (if a.isVariable then 0 < size && size ≤ a.size else size = a.size) then some size
  else none

def Algorithm.all : List Algorithm :=
  [.md5, .sha1, .sha224, .sha256, .sha384, .sha512, .blake2, .sm3]

structure Entry where
  algorithm : Algorithm
  size : Nat
  digest : List Char
  name : List Char

def hexOf (octets : List Nat) : String :=
  String.ofList (octets.flatMap fun o => [Nat.digitChar (o / 16), Nat.digitChar (o % 16)])

def octetsIn (cs : List Char) : List Nat := (bytesOf cs).map fun b => b.toNat

structure Tally where
  misformed : Nat
  unread : Nat
  unequal : Nat
  formed : Bool
  equal : Bool

structure Settings where
  name : String
  algorithm : Algorithm
  detects : Bool
  size : Nat
  tagged : Bool
  starred : Bool
  stop : String
  quiet : Bool
  silent : Bool
  warns : Bool
  strict : Bool
  lenient : Bool

namespace Settings

def escaped (name : String) : String × Bool :=
  let cs := name.toList
  (String.ofList (cs.flatMap fun c => match c with
    | '\\' => ['\\', '\\']
    | '\n' => ['\\', 'n']
    | '\x0d' => ['\\', 'r']
    | c => [c]), cs.any fun c => c = '\\' || c = '\n' || c = '\x0d')

def unescaped? : List Char → Option (List Char)
  | [] => some []
  | '\\' :: 'n' :: cs => (unescaped? cs).map ('\n' :: ·)
  | '\\' :: 'r' :: cs => (unescaped? cs).map ('\x0d' :: ·)
  | '\\' :: '\\' :: cs => (unescaped? cs).map ('\\' :: ·)
  | '\\' :: _ => none
  | c :: cs => (unescaped? cs).map (c :: ·)

def line (s : Settings) (name digest : String) : String :=
  let (shown, hasEscapes) := if s.stop = "\n" then escaped name else (name, false)
  (if hasEscapes then "\\" else "") ++
    (if s.tagged then s.algorithm.tagFor s.size ++ " (" ++ shown ++ ") = " ++ digest
    else digest ++ " " ++ (if s.starred then "*" else " ") ++ shown) ++ s.stop

def digestOf (s : Settings) (cs : List Char) : String :=
  hexOf (s.algorithm.digest s.size (octetsIn cs))

def taggedFrom? (a : Algorithm) (cs : List Char) : Option Entry := do
  let (bits, cs) := match cs with
    | '-' :: more => ((more.takeWhile Char.isDigit), more.dropWhile Char.isDigit)
    | _ => ([], cs)
  let cs := if cs.head? == some ' ' then cs.tail else cs
  let '(' :: cs := cs | none
  -- The name ends at the last bracket.
  let (tail, front) := cs.reverse.span (· != ')')
  let _ :: name := front | none
  let tail := tail.reverse.dropWhile fun c => c = ' ' || c = '\t'
  let '=' :: digest := tail | none
  let digest := digest.dropWhile fun c => c = ' ' || c = '\t'
  let size ← a.sizeOf? digest
  let wanted := if bits.isEmpty then a.size else ((String.ofList bits).toNat?.getD 0) / 8
  if size = wanted then return ⟨a, size, digest, name.reverse⟩ else none

def parse? (s : Settings) (line : List Char) : Option Entry := do
  let cs := line.dropWhile fun c => c = ' ' || c = '\t'
  let (hasEscapes, cs) := match cs with
    | '\\' :: more => (true, more)
    | _ => (false, cs)
  let candidates := if s.detects then Algorithm.all else [s.algorithm]
  let isTag := fun (a : Algorithm) =>
    a.tag.toList.isPrefixOf cs && (cs.drop a.tag.length).head?.any [' ', '-', '('].contains
  let entry ← match candidates.find? isTag with
    | some a => taggedFrom? a (cs.drop a.tag.length)
    | none =>
      if s.detects then none
      else
        let (digest, rest) := cs.span fun c => c != ' ' && c != '\t'
        let size ← s.algorithm.sizeOf? digest
        match rest with
        | _ :: mark :: name =>
          if (mark = ' ' || mark = '*') && !name.isEmpty then
            some ⟨s.algorithm, size, digest, name⟩
          else some ⟨s.algorithm, size, digest, mark :: name⟩
        | _ => none
  if hasEscapes then (unescaped? entry.name).map fun name => { entry with name := name }
  else some entry

def checkLine (s : Settings) (source : String) (isInput : Bool) (number : Nat)
    (line : List Char) (t : Tally) : Sh (Tally × String) := do
  if line.head? == some '#' then return (t, "")
  let line := if line.getLast? == some '\x0d' then line.dropLast else line
  if line.isEmpty then return (t, "")
  match s.parse? line with
  | none => misformed
  | some entry =>
    let name := String.ofList entry.name
    if isInput && name = "-" then misformed
    else
      let t := { t with formed := true }
      let (shown, hasEscapes) := escaped name
      let say := fun (result : String) =>
        (if hasEscapes then "\\" else "") ++ shown ++ ": " ++ result ++ "\n"
      match ← content name with
      | .error u =>
        if s.lenient && !u.isFound then return (t, "")
        blameUnread s.name name u
        return ({ t with unread := t.unread + 1 },
          if s.silent then "" else say "FAILED open or read")
      | .ok cs =>
        let digest := hexOf (entry.algorithm.digest entry.size (octetsIn cs))
        if digest.toList = entry.digest.map Char.toLower then
          return ({ t with equal := true }, if s.silent || s.quiet then "" else say "OK")
        else
          return ({ t with unequal := t.unequal + 1 }, if s.silent then "" else say "FAILED")
where
  misformed : Sh (Tally × String) := do
    if s.warns then
      blame s.name (shownName source ++ ": " ++ toString number ++ ": improperly formatted " ++
        s.algorithm.tag ++ " checksum line")
    return ({ t with misformed := t.misformed + 1 }, "")

def check (s : Settings) (operand : String) : Sh Nat := do
  match ← content operand with
  | .error u =>
    if u.isFound then
      blame s.name (shownName (sourceName operand) ++ ": " ++
        if operand = "-" then u.text else "read error")
    else blameUnread s.name operand u
    return 1
  | .ok cs =>
    let source := sourceName operand
    let lines := (partsBy '\n' cs).zipIdx
    let (t, shown) ← lines.foldlM (fun (t, shown) (line, k) => do
      let (t, text) ← s.checkLine source (operand == "-") (k + 1) line t
      return (t, text :: shown)) ((⟨0, 0, 0, false, false⟩ : Tally), ([] : List String))
    let counted := fun (n : Nat) (one many : String) =>
      if n = 0 then pure () else
        blame s.name ("WARNING: " ++ toString n ++ " " ++ if n = 1 then one else many)
    if !t.formed then
      blame s.name (shownName source ++ ": no properly formatted checksum lines found")
    else if !s.silent then
      counted t.misformed "line is improperly formatted" "lines are improperly formatted"
      counted t.unread "listed file could not be read" "listed files could not be read"
      counted t.unequal "computed checksum did NOT match" "computed checksums did NOT match"
      if s.lenient && !t.equal then blame s.name (shownName source ++ ": no file was verified")
    let isRight := t.formed && t.equal && t.unequal = 0 && t.unread = 0 &&
      (!s.strict || t.misformed = 0)
    emitWith s.name (if isRight then 0 else 1) (String.join shown.reverse)
where
  sourceName (operand : String) : String := if operand = "-" then "standard input" else operand

end Settings

def isLast (g : Given) (letters : String) (c : Char) : Bool := g.last? letters == some c

def misuse? (g : Given) (tagged : Bool) : Option String :=
  let checks := g.has 'c'
  let only := fun (c : Char) (name : String) =>
    if g.has c && !checks then
      some ("the --" ++ name ++ " option is meaningful only when verifying checksums")
    else none
  let mode := g.last? "btτ"
  [if tagged && mode == some 't' then some "--tag does not support --text mode" else none,
    if g.has 'z' && checks then
      some "the --zero option is not supported when verifying checksums" else none,
    if tagged && checks then
      some "the --tag option is meaningless when verifying checksums" else none,
    if mode.isSome && checks then
      some "the --binary and --text options are meaningless when verifying checksums" else none,
    only 'ι' "ignore-missing",
    if isLast g "σκw" 'σ' then only 'σ' "status" else none,
    if isLast g "σκw" 'w' then only 'w' "warn" else none,
    if isLast g "σκw" 'κ' then only 'κ' "quiet" else none,
    only 'ρ' "strict"].findSome? id

def options (letters : String) : Options :=
  ⟨"bctwzικσρτ" ++ letters, [("binary", 'b'), ("check", 'c'), ("ignore-missing", 'ι'),
    ("quiet", 'κ'), ("status", 'σ'), ("text", 't'), ("warn", 'w'), ("strict", 'ρ'),
    ("tag", 'τ'), ("zero", 'z')] ++ (if letters = "" then [] else [("length", 'l')]), false⟩

def readLength (a : Algorithm) (text : String) : Except (List String) Nat :=
  let wrong := "invalid length: " ++ quotedText text
  match Numeral.read "" false text with
  | .error _ => .error [wrong]
  | .ok n =>
    if 8 * (a.size : Int) < n then
      .error [wrong, "maximum digest length for " ++ quotedText a.tag ++ " is " ++
        toString (8 * a.size) ++ " bits"]
    else if n % 8 ≠ 0 then .error [wrong, "length is not a multiple of 8"]
    else .ok (if n = 0 then a.size else n.toNat / 8)

def run (name : String) (a : Algorithm) : Tool := fun _ arguments =>
  withOptions name 1 (options (if a.tag = "BLAKE2b" then "l:" else "")) arguments fun g => do
    match (g.text? 'l').mapM (readLength a) with
    | .error texts =>
      for text in texts do blame name text
      return 1
    | .ok size =>
      let tagged := g.has 'τ'
      match misuse? g tagged with
      | some text => refuse name 1 text
      | none =>
        let s : Digest.Settings :=
          { name := name, algorithm := a, detects := false
            size := size.getD a.size, tagged := tagged
            starred := isLast g "bt" 'b', stop := if g.has 'z' then "\x00" else "\n"
            quiet := isLast g "σκw" 'κ', silent := isLast g "σκw" 'σ'
            warns := isLast g "σκw" 'w', strict := g.has 'ρ', lenient := g.has 'ι' }
        let operands := if g.operands.isEmpty then ["-"] else g.operands
        if g.has 'c' then
          operands.foldlM (fun status o => return max status (← s.check o)) 0
        else
          let (read, status) ← contents name operands
          emitWith name status (String.join (read.map fun r => s.line r.1 (s.digestOf r.2)))

def algorithms : List (String × Option Algorithm) := [
  ("bsd", none), ("sysv", none), ("crc", none), ("md5", some .md5), ("sha1", some .sha1),
  ("sha224", some .sha224), ("sha256", some .sha256), ("sha384", some .sha384),
  ("sha512", some .sha512), ("blake2b", some .blake2), ("sm3", some .sm3)]

def sumLine (kind name : String) (isNamed : Bool) (cs : List Char) : String :=
  let octets := octetsIn cs
  let behind := if isNamed then " " ++ name else ""
  match kind with
  | "bsd" =>
    let sum := toString (turnedSum octets)
    let blocks := toString ((octets.length + 1023) / 1024)
    String.ofList (List.replicate (5 - sum.length) '0') ++ sum ++ " " ++
      String.ofList (List.replicate (5 - blocks.length) ' ') ++ blocks ++ behind ++ "\n"
  | "sysv" =>
    toString (foldedSum octets) ++ " " ++ toString ((octets.length + 511) / 512) ++ behind ++ "\n"
  | _ => toString (cyclic octets) ++ " " ++ toString octets.length ++ behind ++ "\n"

def showSums (name kind : String) (operands : List String) : Sh Nat := do
  let isNamed := !operands.isEmpty
  let (read, status) ← contents name operands
  emitWith name status (String.join (read.map fun r => sumLine kind r.1 isNamed r.2))

end Digest

open Digest

def md5sum : Tool := Digest.run "md5sum" .md5
def sha1sum : Tool := Digest.run "sha1sum" .sha1
def sha224sum : Tool := Digest.run "sha224sum" .sha224
def sha256sum : Tool := Digest.run "sha256sum" .sha256
def sha384sum : Tool := Digest.run "sha384sum" .sha384
def sha512sum : Tool := Digest.run "sha512sum" .sha512
def b2sum : Tool := Digest.run "b2sum" .blake2

def sum : Tool := fun _ arguments =>
  withOptions "sum" 1 ⟨"rs", [("sysv", 's')], false⟩ arguments fun g =>
    showSums "sum" (if isLast g "rs" 's' then "sysv" else "bsd") g.operands

def cksum : Tool := fun _ arguments =>
  withOptions "cksum" 1 ⟨"a:bctwzl:ικσρτυδ", [("algorithm", 'a'), ("check", 'c'), ("length", 'l'),
    ("ignore-missing", 'ι'), ("quiet", 'κ'), ("status", 'σ'), ("warn", 'w'), ("strict", 'ρ'),
    ("tag", 'τ'), ("zero", 'z'), ("debug", 'δ'), ("untagged", 'υ')], false⟩ arguments fun g =>
    settleWithHint "cksum" 1
      (((g.options.filter fun o => o.1 == 'a').map Prod.snd).mapM
        (chooseRow "--algorithm" (algorithms.map fun a => [a.1]))) fun rows => do
      let (kind, algorithm) := ((rows.getLast?).bind fun n => algorithms[n]?).getD ("crc", none)
      let settingsFor := fun (a : Algorithm) (detects : Bool) =>
        ({ name := "cksum", algorithm := a, detects := detects, size := a.size
           tagged := !isLast g "τυ" 'υ', starred := isLast g "bt" 'b'
           stop := if g.has 'z' then "\x00" else "\n", quiet := isLast g "σκw" 'κ'
           silent := isLast g "σκw" 'σ', warns := isLast g "σκw" 'w'
           strict := g.has 'ρ', lenient := g.has 'ι' } : Digest.Settings)
      let operands := if g.operands.isEmpty then ["-"] else g.operands
      let checkAll := fun (s : Digest.Settings) =>
        operands.foldlM (fun status o => return max status (← s.check o)) 0
      match algorithm, g.has 'c' with
      | some a, false =>
        let s := settingsFor a false
        let (read, status) ← contents "cksum" operands
        emitWith "cksum" status (String.join (read.map fun r => s.line r.1 (s.digestOf r.2)))
      | some a, true => checkAll (settingsFor a false)
      | none, true =>
        if g.has 'a' then
          blame "cksum" "--check is not supported with --algorithm=\x7bbsd,sysv,crc\x7d"
          return 1
        checkAll (settingsFor { Algorithm.md5 with tag := "CRC" } true)
      | none, false => showSums "cksum" kind g.operands

end Assay.Utility
