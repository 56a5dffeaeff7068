import Assay.Shell.Format
import Assay.Utility.Calendar
import Assay.Utility.Folders

/-!
# Facts about files

What is known of a file besides what it holds is shown by a format, in which
letters stand for facts.
-/

set_option autoImplicit false

namespace Assay.Utility

open Shell (Sh octets readable Session)

def entrySize : Entry → Nat
  | .folder => 4096
  | .link target => (octets target).length
  | .file content => content.length
  | .program _ => 35000
  | _ => 0

def entryBlocks : Entry → Nat
  | .link _ => 0
  | e => (entrySize e + 4095) / 4096 * 8

/-- How many places share what stands at a path. -/
def linksOf (s : Session) (n : Inode) (place : Place) : Nat :=
  if n.entry.isFolder then
    2 + ((s.files.childNames place).filter fun name =>
      (s.files.at? (place ++ [name])).any Entry.isFolder).length
  else max 1 (((s.files.number? place).map s.files.linkCount).getD 1)

def kindBits : Entry → Nat
  | .folder => 0o040000
  | .link _ => 0o120000
  | .device _ => 0o020000
  | .pipe => 0o010000
  | _ => 0o100000

/-- A fact about a node, which is shown by its kind. -/
inductive Fact where
  | text (t : String)
  | unsigned (n : Nat)
  | octal (n : Nat)
  | hexadecimal (n : Nat)
  /-- A time, in seconds with as many digits behind the point as are asked for. -/
  | time (t : Int)

def deviceNumbers : Entry → Nat × Nat
  | .device _ => (1, 3)
  | _ => (0, 0)

def fact? (s : Session) (path : String) (n : Inode) (place : Place) (c : Char) : Option Fact :=
  let moment := Moment.ofTime n.time
  match c with
  | 'a' => some (.octal n.mode)
  | 'A' => some (.text (Rights.kindLetter n.entry ++ Rights.text n.mode))
  | 'b' => some (.unsigned (entryBlocks n.entry))
  | 'B' => some (.unsigned 512)
  | 'd' => some (.unsigned 64)
  | 'D' => some (.hexadecimal 64)
  | 'f' => some (.hexadecimal (kindBits n.entry + n.mode))
  | 'F' => some (.text (kindName n.entry))
  | 'g' | 'u' => some (.unsigned 0)
  | 'G' | 'U' => some (.text "root")
  | 'h' => some (.unsigned (linksOf s n place))
  | 'i' => some (.unsigned (1000000 + (s.files.number? place).getD 0))
  | 'm' => some (.text "/")
  | 'n' => some (.text path)
  | 'N' =>
    some (.text (quotedName path ++ match n.entry with
      | .link target => " -> " ++ quotedName (octets target)
      | _ => ""))
  | 'o' => some (.unsigned 4096)
  | 'r' => some (.unsigned ((deviceNumbers n.entry).1 * 256 + (deviceNumbers n.entry).2))
  | 'R' => some (.hexadecimal ((deviceNumbers n.entry).1 * 256 + (deviceNumbers n.entry).2))
  | 's' => some (.unsigned (entrySize n.entry))
  | 't' => some (.hexadecimal (deviceNumbers n.entry).1)
  | 'T' => some (.hexadecimal (deviceNumbers n.entry).2)
  | 'w' => some (.text "-")
  | 'W' => some (.time 0)
  | 'x' | 'y' | 'z' => some (.text (moment.shown "%Y-%m-%d %H:%M:%S.%N %z"))
  | 'X' | 'Y' | 'Z' => some (.time n.time)
  | _ => none

structure FactForm where
  marks : List Char
  width : Nat
  /-- Digits behind a point, if there is one; none stand for as many as there are. -/
  precision : Option (Option Nat)

namespace FactForm

def directive (f : FactForm) (allowed : String) (conversion : Char) : Shell.Directive :=
  let has := fun (c : Char) => f.marks.contains c && allowed.contains c
  { left := has '-', zeros := has '0', plus := has '+', blank := has ' ', alternate := has '#',
    width := f.width, precision := f.precision.map fun p => p.getD 0, conversion := conversion }

def seconds (f : FactForm) (digits : Nat) (t : Int) : String :=
  let d := { f.directive "'-+ 0" 'd' with precision := none }
  let unit := Nat.pow 10 (9 - min digits 9)
  let isNegative := decide (t < 0)
  let units := if isNegative then t.natAbs / unit else t.toNat / unit
  let perSecond := Nat.pow 10 (min digits 9)
  let behind := toString (units % perSecond)
  let tail := if digits = 0 then "" else
    "." ++ String.ofList (List.replicate (min digits 9 - behind.length) '0') ++ behind ++
      String.ofList (List.replicate (digits - 9) '0')
  let whole := if digits = 0 then (t.fdiv billion).natAbs else units / perSecond
  d.filled (d.sign isNegative) (toString whole ++ tail) d.zeros

def shown (f : FactForm) : Fact → String
  | .text t => (f.directive "-" 's').text t
  | .unsigned n => (f.directive "'-0" 'u').unsigned n
  | .octal n => (f.directive "-#0" 'o').unsigned n
  | .hexadecimal n => (f.directive "-#0" 'x').unsigned n
  | .time t => f.seconds (match f.precision with
      | none => 0
      | some p => p.getD 9) t

end FactForm

inductive FactPiece where
  | shown (t : String)
  | said (t : String)
  | ending (t : String)

def factEscape (cs : List Char) : List FactPiece × Nat :=
  let isHex := fun (c : Char) => (Shell.digitValue? c).isSome
  let byNumber := fun (base : Nat) (digits : List Char) =>
    FactPiece.shown (String.singleton (Char.ofNat ((Shell.readDigits base digits).1 % 256)))
  match cs with
  | [] => ([.said "warning: backslash at end of format", .shown "\\"], 0)
  | 'x' :: c :: more =>
    if isHex c then
      let digits := ((c :: more).take 2).takeWhile isHex
      ([byNumber 16 digits], digits.length + 1)
    else ([.said "warning: unrecognized escape '\\x'", .shown "x"], 1)
  | c :: _ =>
    if Rights.isOctal c then
      let digits := (cs.take 3).takeWhile Rights.isOctal
      ([byNumber 8 digits], digits.length)
    else
      match ("\"\\abefnrtv".toList.zip
        ['"', '\\', '\x07', '\x08', '\x1b', '\x0c', '\n', '\x0d', '\t', '\x0b']).find?
        fun p => p.1 == c with
      | some (_, d) => ([.shown (String.singleton d)], 1)
      | none =>
        ([.said ("warning: unrecognized escape '\\" ++ String.singleton c ++ "'"),
          .shown (String.singleton c)], 1)

/-- Shows facts by a format, with fuel for its characters. Backslashes count where that is
asked for. -/
def showFacts (fact : Char → Option Fact) (escapes : Bool) : Nat → List Char → List FactPiece
  | 0, _ => []
  | _, [] => []
  | fuel + 1, '%' :: cs =>
    let (marks, rest) := cs.span fun c => "-0+# '".toList.contains c
    let (digits, rest) := rest.span Char.isDigit
    let (precision, rest) := match rest with
      | '.' :: more =>
        let (after, rest) := more.span Char.isDigit
        (some (String.ofList after).toNat?, rest)
      | _ => (none, rest)
    let form : FactForm := ⟨marks, ((String.ofList digits).toNat?).getD 0, precision⟩
    let isBare := marks.isEmpty && digits.isEmpty && precision.isNone
    match rest with
    | [] =>
      if isBare then [.shown "%"]
      else [.ending (quotedText (String.ofList ('%' :: cs)) ++ ": invalid directive")]
    | '%' :: more =>
      if isBare then .shown "%" :: showFacts fact escapes fuel more
      else
        [.ending (quotedText (String.ofList ('%' :: cs.take (cs.length - more.length))) ++
          ": invalid directive")]
    | c :: more =>
      .shown (((fact c).map form.shown).getD "?") :: showFacts fact escapes fuel more
  | fuel + 1, '\\' :: cs =>
    if escapes then
      let (pieces, count) := factEscape cs
      pieces ++ showFacts fact escapes fuel (cs.drop count)
    else .shown "\\" :: showFacts fact escapes fuel cs
  | fuel + 1, c :: cs => .shown (String.singleton c) :: showFacts fact escapes fuel cs

/-- Shows and says pieces in their order. What is shown is kept until the end, or until there
is something to be said at the end of it all, which is the answer. -/
def tellFacts : List FactPiece → List String → Sh (List String × Bool)
  | [], sofar => return (sofar, false)
  | .shown t :: more, sofar => tellFacts more (t :: sofar)
  | .said t :: more, sofar => do
    blame "stat" t
    tellFacts more sofar
  | .ending t :: _, sofar => do
    blame "stat" t
    return (sofar, true)

def usualFacts (isLink : Bool) : String :=
  "  File: " ++ (if isLink then "%N" else "%n") ++
    "\n  Size: %-10s\tBlocks: %-10b IO Block: %-6o %F\nDevice: 0,64\tInode: %-10i  Links: %h\n" ++
    "Access: (%04a/%A)  Uid: (    0/    root)   Gid: (    0/    root)\n" ++
    "Access: %x\nModify: %y\nChange: %z\n Birth: %w\n"

def factsAsked (g : Given) (fact : Char → Option Fact) (isLink : Bool) : List FactPiece :=
  let pieces := fun (escapes : Bool) (format : String) =>
    showFacts fact escapes (format.length + 1) format.toList
  match g.last? "cp" with
  | some 'c' => pieces false ((g.text? 'c').getD "") ++ [.shown "\n"]
  | some _ => pieces true ((g.text? 'p').getD "")
  | none =>
    if g.has 't' then pieces false "%n %s %b %f %u %g %D %i %h %t %T %X %Y %Z %W %o\n"
    else pieces false (usualFacts isLink)

def showFactsOf (g : Given) : List String → Nat → List String → Sh Nat
  | sofar, status, [] => emitWith "stat" status (String.join sofar.reverse)
  | sofar, status, path :: rest => do
    let s ← get
    let last := g.has 'L'
    let place? := if last then s.files.resolve s.folder (readable path)
      else s.files.entrance s.folder (readable path)
    match s.files.nodeAt last s.folder (readable path), place? with
    | .ok n, .ok place =>
      let (sofar, isEnd) ← tellFacts (factsAsked g (fact? s path n place) n.entry.isLink) sofar
      if isEnd then emitWith "stat" 1 (String.join sofar.reverse)
      else showFactsOf g sofar status rest
    | .error e, _ | _, .error e =>
      blame "stat" ("cannot statx " ++ quotedName path ++ ": " ++ reason e)
      showFactsOf g sofar 1 rest

def stat : Tool := fun _ arguments =>
  withOptions "stat" 1 ⟨"c:p:Ltfκ:", [("dereference", 'L'), ("file-system", 'f'),
    ("format", 'c'), ("printf", 'p'), ("terse", 't'), ("cached", 'κ')], false⟩ arguments
    fun g => do
    let cached := ((g.options.filter fun o => o.1 == 'κ').map Prod.snd).mapM
      (chooseRow "--cached" [["default"], ["never"], ["always"]])
    settleWithHint "stat" 1 cached fun _ => do
      if g.operands.isEmpty then refuse "stat" 1 "missing operand"
      else showFactsOf g [] 0 g.operands

end Assay.Utility
