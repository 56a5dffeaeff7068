import Assay.Shell.Format
import Assay.Utility.Basic
import Assay.Utility.Copying
import Assay.Utility.Facts
import Assay.Utility.RegexReader

/-!
# The find utility

Files below some paths are tested one after the other, and something is done
with those that pass.
-/

set_option autoImplicit false

namespace Assay.Utility

open Shell (Sh Runner octets readable Session)

namespace Find

inductive Comparison where
  | less
  | equal
  | greater

def Comparison.holds {α : Type} [Ord α] (c : Comparison) (found wanted : α) : Bool :=
  match c with
  | .less => compare found wanted == .lt
  | .equal => compare found wanted == .eq
  | .greater => compare found wanted == .gt

inductive BitsWanted where
  | exactly
  | every
  | any

inductive Test where
  | name (pattern : List Shell.PatternItem) (ignoreCase : Bool)
  | path (pattern : List Shell.PatternItem) (ignoreCase : Bool)
  | target (pattern : List Shell.PatternItem) (ignoreCase : Bool)
  | regex (r : Regex)
  | kind (letters : List Char) (beyond : Bool)
  | isEmpty
  | size (c : Comparison) (n unit : Nat)
  | changed (c : Comparison) (time span : Int)
  | newer (time : Int)
  | rights (w : BitsWanted) (mode : Nat)
  | links (c : Comparison) (n : Nat)
  | sameNode (number : Nat)
  | number (c : Comparison) (n : Nat)
  | runs
  | always (b : Bool)
  | negation (t : Test)
  | both (a b : Test)
  | either (a b : Test)
  | after (a b : Test)
  | print (stop : String) (file : Option String)
  | printf (format : String) (file : Option String)
  | list (file : Option String)
  | delete
  | prune
  | quit
  | exec (words : List String) (inFolder asks : Bool)
  | collect (words : List String) (inFolder : Bool) (index : Nat)
deriving Inhabited

structure Query where
  least : Nat
  most : Nat
  late : Bool
  acts : Bool
  follows : Bool
  followsOperands : Bool
  flavour : String
  collectors : Nat
  dayStart : Int
  notes : List String
  files : List String
  source : Option String

def patternOf (text : String) : List Shell.PatternItem :=
  Shell.PatternItem.read (text.toList.map fun c => ⟨false, c⟩)

/-- Words that are left, the query, the last predicate, and what paths are tested against. -/
structure Reading where
  words : List String
  query : Query
  last : String

abbrev Parsing := StateT Reading (Except String)

def word (after : String) : Parsing String := do
  match (← get).words with
  | w :: rest =>
    modify fun s => { s with words := rest, last := after }
    return w
  | [] => throw ("missing argument to \x60" ++ after ++ "'")

def alter (f : Query → Query) : Parsing Unit := modify fun s => { s with query := f s.query }

def act : Parsing Unit := alter fun q => { q with acts := true }

def comparison (text : String) : Comparison × List Char :=
  match text.toList with
  | '+' :: cs => (.greater, cs)
  | '-' :: cs => (.less, cs)
  | cs => (.equal, cs)

def number (after : String) : Parsing (Comparison × Nat) := do
  let text ← word after
  let (c, cs) := comparison text
  match natural? (String.ofList cs) with
  | some n => return (c, n)
  | none => throw ("invalid argument \x60" ++ text ++ "' to \x60" ++ after ++ "'")

def depth (after : String) : Parsing Nat := do
  let text ← word after
  match natural? text with
  | some n => return n
  | none =>
    throw ("Expected a positive decimal integer argument to " ++ after ++ ", but got " ++
      quotedText text)

def span (after : String) (unit : Int) : Parsing Test := do
  let (c, n) ← number after
  let start := (← get).query.dayStart
  let early := if unit = daySeconds then
      start + (match c with
        | .less => (daySeconds - 1) * billion
        | _ => 0)
    else start + daySeconds * billion
  let time := early - n * unit * billion
  return .changed c time (unit * billion)

def sizeUnit? : List Char → Option Nat
  | [] => some 512
  | ['b'] => some 512
  | ['c'] => some 1
  | ['w'] => some 2
  | ['k'] => some 1024
  | ['M'] => some 1048576
  | ['G'] => some 1073741824
  | _ => none

def kinds : List Char := "bcdpflsD".toList

def flavours : List String := [
  "findutils-default", "ed", "emacs", "gnu-awk", "grep", "posix-awk", "awk", "posix-basic",
  "posix-egrep", "egrep", "posix-extended", "posix-minimal-basic", "sed"]

def basicFlavours : List String := [
  "findutils-default", "ed", "emacs", "grep", "posix-basic", "posix-minimal-basic", "sed"]

def simple? (s : Session) (w : String) : Parsing (Option Test) := do
  match w with
  | "-name" => return some (.name (patternOf (← word w)) false)
  | "-iname" => return some (.name (patternOf (← word w).toLower) true)
  | "-path" | "-wholename" => return some (.path (patternOf (← word w)) false)
  | "-ipath" | "-iwholename" => return some (.path (patternOf (← word w).toLower) true)
  | "-lname" => return some (.target (patternOf (← word w)) false)
  | "-ilname" => return some (.target (patternOf (← word w).toLower) true)
  | "-regextype" =>
    let kind ← word w
    if !flavours.contains kind then
      throw ("Unknown regular expression type " ++ quotedText kind ++ "; valid types are " ++
        String.intercalate ", " (flavours.map quotedText) ++ ".")
    alter fun q => { q with flavour := kind }
    return some (.always true)
  | "-regex" | "-iregex" =>
    let text ← word w
    let extended := !basicFlavours.contains (← get).query.flavour
    let x : Regex.Flavour := { extended := extended, ignoreCase := w = "-iregex" }
    -- Signs for repetition count in every kind.
    let text := if extended then text else loosened text.toList
    match Regex.parse x text with
    | .ok (r, _) => return some (.regex r)
    | .error e => throw ("failed to compile regular expression '" ++ text ++ "': " ++ e)
  | "-type" | "-xtype" =>
    let text ← word w
    let letters := text.splitOn ","
    match letters.find? fun l => !(kinds.any fun k => String.singleton k == l) with
    | some l =>
      throw (if l.length ≤ 1 then "Unknown argument to " ++ w ++ ": " ++ l
        else "Must separate multiple arguments to " ++ w ++ " using: ','")
    | none => return some (.kind (letters.flatMap String.toList) (w = "-xtype"))
  | "-empty" => return some .isEmpty
  | "-maxdepth" =>
    let n ← depth w
    alter fun q => { q with most := n }
    return some (.always true)
  | "-mindepth" =>
    let n ← depth w
    alter fun q => { q with least := n }
    return some (.always true)
  | "-depth" | "-d" =>
    alter fun q => { q with late := true }
    return some (.always true)
  | "-mount" | "-xdev" | "-noleaf" | "-ignore_readdir_race" | "-warn" | "-nowarn" |
      "-noignore_readdir_race" =>
    return some (.always true)
  | "-daystart" =>
    alter fun q => { q with dayStart := s.now - s.now.fmod (daySeconds * billion) }
    return some (.always true)
  | "-files0-from" =>
    let path ← word w
    alter fun q => { q with source := some path }
    return some (.always true)
  | "-follow" =>
    alter fun q => { q with follows := true }
    return some (.always true)
  | "-size" =>
    let text ← word w
    let (c, cs) := comparison text
    let (digits, unit) := cs.span Char.isDigit
    match natural? (String.ofList digits), sizeUnit? unit with
    | some n, some u => return some (.size c n u)
    | some _, none => throw ("invalid -size type \x60" ++ String.ofList (unit.take 1) ++ "'")
    | none, _ =>
      throw ("invalid -size type \x60" ++ String.ofList ((cs.reverse.take 1)) ++ "'")
  | "-mtime" | "-atime" | "-ctime" =>
    return some (← span w daySeconds)
  | "-mmin" | "-amin" | "-cmin" =>
    return some (← span w 60)
  | "-used" =>
    let _ ← number w
    return some (.always false)
  | "-fstype" => return some (.always ((← word w) = "overlay"))
  | "-context" =>
    let _ ← word w
    throw "invalid predicate -context: SELinux is not enabled."
  | "-newer" | "-anewer" | "-cnewer" | "-newermm" | "-neweraa" | "-newerac" | "-neweram" |
      "-newerca" | "-newercc" | "-newercm" | "-newerma" | "-newermc" =>
    let path ← word w
    match s.files.nodeAt true s.folder (readable path) with
    | .ok n => return some (.newer n.time)
    | .error e => throw (quotedText path ++ ": " ++ reason e)
  | "-newermt" | "-newerat" | "-newerct" =>
    let text ← word w
    match TimeText.read? s.now text with
    | some time => return some (.newer time)
    | none => throw ("I cannot figure out how to interpret " ++ quotedText text ++ " as a date or time")
  | "-perm" =>
    let text ← word w
    let (wanted, cs) := match text.toList with
      | '-' :: cs => (BitsWanted.every, cs)
      | '/' :: cs => (BitsWanted.any, cs)
      | cs => (BitsWanted.exactly, cs)
    match Rights.read? (String.ofList cs) with
    | some changes =>
      let mode := Rights.applyAll changes 0 false 0
      if wanted matches .any && mode = 0 then
        alter fun q => { q with notes := ("warning: you have specified a mode pattern " ++ text ++
          " (which is equivalent to /000). The meaning of -perm /000 has now been changed to be " ++
          "consistent with -perm -000; that is, while it used to match no files, it now matches " ++
          "all files.") :: q.notes }
      return some (.rights wanted mode)
    | none => throw ("invalid mode " ++ quotedText text)
  | "-links" =>
    let (c, n) ← number w
    return some (.links c n)
  | "-inum" =>
    let (c, n) ← number w
    return some (.number c n)
  | "-samefile" =>
    let path ← word w
    match s.files.numberAt? s.folder (readable path) with
    | some n => return some (.sameNode n)
    | none => throw (quotedText path ++ ": " ++ SystemError.notFound.text)
  | "-user" | "-group" =>
    let text ← word w
    if text = "root" then return some (.always true)
    match natural? text with
    | some n => return some (.always (n = 0))
    | none =>
      throw (quotedText text ++ " is not the name of " ++
        if w = "-user" then "a known user" else "an existing group")
  | "-uid" | "-gid" =>
    let (c, n) ← number w
    return some (.always (c.holds 0 n))
  | "-nouser" | "-nogroup" => return some (.always false)
  | "-readable" | "-writable" => return some (.always true)
  | "-executable" => return some .runs
  | "-prune" => return some .prune
  | "-quit" => return some .quit
  | "-true" => return some (.always true)
  | "-false" => return some (.always false)
  | _ => return none
where
  loosened : List Char → String
    | '\\' :: c :: cs => "\\" ++ String.singleton c ++ loosened cs
    | '+' :: cs => "\\+" ++ loosened cs
    | '?' :: cs => "\\?" ++ loosened cs
    | c :: cs => String.singleton c ++ loosened cs
    | [] => ""

def command (w : String) : Parsing Test := do
  act
  let inFolder := w = "-execdir" || w = "-okdir"
  let asks := w = "-ok" || w = "-okdir"
  let (words, rest) := takeCommand (← get).words
  match rest with
  | stop :: rest =>
    if words.isEmpty then throw ("invalid argument \x60" ++ stop ++ "' to \x60" ++ w ++ "'")
    modify fun s => { s with words := rest }
    if stop = ";" then return .exec words inFolder asks
    match words.dropLast.find? fun v => 1 < (v.splitOn "\x7b\x7d").length with
    | some v =>
      if v = "\x7b\x7d" then
        throw ("Only one instance of \x7b\x7d is supported with " ++ w ++ " ... +")
      throw ("In " ++ quotedText (w ++ " ... \x7b\x7d +") ++ " the " ++ quotedText "\x7b\x7d" ++
        " must appear by itself, but you specified " ++ quotedText v)
    | none =>
      let index := (← get).query.collectors
      alter fun q => { q with collectors := index + 1 }
      return .collect words.dropLast inFolder index
  | [] => throw ("missing argument to \x60" ++ w ++ "'")
where
  takeCommand : List String → List String × List String
    | [] => ([], [])
    | ";" :: rest => ([], ";" :: rest)
    | "\x7b\x7d" :: "+" :: rest => (["\x7b\x7d"], "+" :: rest)
    | v :: rest =>
      let (words, left) := takeCommand rest
      (v :: words, left)

def lacksExpression (w : String) : String := "expected an expression after '" ++ w ++ "'"

def outputFile (w : String) : Parsing (Option String) := do
  act
  if !w.startsWith "-f" then return none
  let path ← word w
  alter fun q => { q with files := path :: q.files }
  return some path

def checkFormat : Nat → List Char → Except String (List String)
  | 0, _ => .ok []
  | _, [] => .ok []
  | _, ['\\'] => .ok ["warning: escape \x60\\' followed by nothing at all"]
  | _, '\\' :: 'c' :: _ => .ok []
  | fuel + 1, '\\' :: c :: cs => do
    let more ← checkFormat fuel cs
    if "ntabfrv\\01234567".contains c then return more
    else
      return ("warning: unrecognized escape \x60\\" ++ String.singleton c ++ "'") :: more
  | fuel + 1, '%' :: '%' :: cs => checkFormat fuel cs
  | fuel + 1, '%' :: cs => do
    let rest := (cs.dropWhile fun c => "-0+# ".contains c).dropWhile fun c => c.isDigit || c == '.'
    match rest with
    | [] => throw "error: % at end of format string"
    | c :: more =>
      if "TACB".contains c then
        match more with
        | [] => throw ("error: %" ++ String.singleton c ++ " at end of format string")
        | _ :: more => checkFormat fuel more
      else
        let after ← checkFormat fuel more
        if letters.contains c then return after
        else
          return ("warning: unrecognized format directive \x60%" ++ String.singleton c ++ "'") ::
            after
  | fuel + 1, _ :: cs => checkFormat fuel cs
where
  letters : List Char := "abcdDfFgGhHiklmMnpPsStuUyYZ".toList

def format (w : String) : Parsing String := do
  let text ← word w
  match checkFormat (text.length + 1) text.toList with
  | .ok notes =>
    alter fun q => { q with notes := notes.reverse ++ q.notes }
    return text
  | .error e => throw e

mutual

def rows (s : Session) : Nat → Parsing Test
  | 0 => throw "expression too long"
  | fuel + 1 => do
    let a ← alternatives s fuel
    match (← get).words with
    | "," :: rest =>
      modify fun s => { s with words := rest }
      if rest.isEmpty then throw (lacksExpression ",")
      return .after a (← rows s fuel)
    | _ => return a

def alternatives (s : Session) : Nat → Parsing Test
  | 0 => throw "expression too long"
  | fuel + 1 => do
    let a ← row s fuel
    match (← get).words with
    | w :: rest =>
      if w = "-o" ∨ w = "-or" then
        modify fun s => { s with words := rest }
        if rest.isEmpty then throw (lacksExpression w)
        return .either a (← alternatives s fuel)
      else return a
    | [] => return a

def row (s : Session) : Nat → Parsing Test
  | 0 => throw "expression too long"
  | fuel + 1 => do
    let a ← single s fuel
    match (← get).words with
    | [] => return a
    | w :: rest =>
      if w = "-o" ∨ w = "-or" ∨ w = ")" ∨ w = "," then return a
      if w = "-a" ∨ w = "-and" then
        modify fun s => { s with words := rest }
        if rest.isEmpty then throw (lacksExpression w)
      return .both a (← row s fuel)

def single (s : Session) : Nat → Parsing Test
  | 0 => throw "expression too long"
  | fuel + 1 => do
    let before := (← get).last
    let w ← word "find"
    let noted : Parsing Unit := modify fun s => { s with last := w }
    match w with
    | "!" | "-not" =>
      if (← get).words.isEmpty then throw (lacksExpression w)
      return .negation (← single s fuel)
    | "(" =>
      noted
      if (← get).words.head? == some ")" then
        throw "invalid expression; empty parentheses are not allowed."
      let t ← rows s fuel
      match (← get).words with
      | ")" :: rest =>
        modify fun s => { s with words := rest }
        return t
      | _ =>
        throw "invalid expression; I was expecting to find a ')' somewhere but did not see one."
    | ")" => throw "you have too many ')'"
    | "-o" | "-or" | "-a" | "-and" | "," =>
      throw ("invalid expression; you have used a binary operator '" ++ w ++
        "' with nothing before it.")
    | "-print" | "-fprint" =>
      let file ← outputFile w
      noted
      return .print "\n" file
    | "-print0" | "-fprint0" =>
      let file ← outputFile w
      noted
      return .print "\x00" file
    | "-printf" | "-fprintf" =>
      let file ← outputFile w
      return .printf (← format w) file
    | "-ls" | "-fls" =>
      let file ← outputFile w
      noted
      return .list file
    | "-delete" =>
      act
      noted
      alter fun q => { q with late := true }
      return .delete
    | "-exec" | "-execdir" | "-ok" | "-okdir" => command w
    | _ =>
      match ← simple? s w with
      | some t => return t
      | none =>
        if w.startsWith "-newer" && w.length = 8 then throw ("invalid predicate \x60" ++ w ++ "'")
        if w.startsWith "-" then throw ("unknown predicate \x60" ++ w ++ "'")
        let hint :=
          if before != "" && s.files.exists? s.folder (readable w) then
            "\nfind: possible unquoted pattern after predicate \x60" ++ before ++ "'?"
          else ""
        throw ("paths must precede expression: \x60" ++ w ++ "'" ++ hint)

end

structure Hit where
  path : String
  start : String
  depth : Nat
  place : Place
  node : Inode

structure Batch where
  index : Nat
  words : List String
  folder : Option String
  paths : List String

structure Walk where
  pruned : Bool
  ended : Bool
  status : Nat
  collected : List Batch

abbrev Searching := StateT Walk Sh

def fail : Searching Unit := modify fun w => { w with status := 1 }

def baseName (path : String) : String :=
  if lastName path = "" then (if path = "" then "" else "/") else lastName path

def folderName (path : String) : String :=
  match (withoutSlashes path).toList.reverse.span (· != '/') with
  | (_, []) => "."
  | (_, _ :: above) => String.ofList above.reverse

def kindOf : Entry → Char
  | .folder => 'd'
  | .link _ => 'l'
  | .device _ => 'c'
  | .pipe => 'p'
  | _ => 'f'

def fact (s : Session) (h : Hit) (c : Char) : String :=
  match c with
  | 'p' => h.path
  | 'f' => baseName h.path
  | 'h' => folderName h.path
  | 'H' => h.start
  | 'P' =>
    let rest := (h.path.drop h.start.length).toString
    if h.depth = 0 then "" else if rest.startsWith "/" then (rest.drop 1).toString else rest
  | 'd' => toString h.depth
  | 's' => toString (entrySize h.node.entry)
  | 'k' => toString (entryBlocks h.node.entry / 2)
  | 'b' => toString (entryBlocks h.node.entry)
  | 'm' => String.ofList (Nat.toDigits 8 h.node.mode)
  | 'M' => Rights.kindLetter h.node.entry ++ Rights.text h.node.mode
  | 'n' => toString (linksOf s h.node h.place)
  | 'y' => String.singleton (kindOf h.node.entry)
  | 'Y' =>
    match s.files.nodeAt true s.folder (readable h.path) with
    | .ok n => String.singleton (kindOf n.entry)
    | .error e => if e = .system .tooManyLinks then "L" else "N"
  | 'l' =>
    match h.node.entry with
    | .link target => octets target
    | _ => ""
  | 'u' | 'g' => "root"
  | 'U' | 'G' => "0"
  | 'i' => toString (1000000 + (s.files.number? h.place).getD 0)
  | 't' | 'a' | 'c' => (Moment.ofTime h.node.time).shown "%a %b %e %H:%M:%S.%N0 %Y"
  | 'D' => "64"
  | 'F' => "overlay"
  | 'S' =>
    let size := entrySize h.node.entry
    if size = 0 then "1" else shownRatio (entryBlocks h.node.entry * 512) size
  | 'Z' => ""
  | _ => "%" ++ String.singleton c
where
  shownRatio (a b : Nat) : String :=
    let whole := a / b
    let places := 6 - (toString whole).length
    let unit := Nat.pow 10 places
    let scaled := (2 * a * unit + b) / (2 * b)
    let tail := toString (scaled % unit)
    let digits := List.replicate (places - tail.length) '0' ++ tail.toList
    let kept := (digits.reverse.dropWhile (· == '0')).reverse
    toString (scaled / unit) ++ if kept.isEmpty then "" else "." ++ String.ofList kept

def timeFact (h : Hit) (c : Char) : String :=
  let m := Moment.ofTime h.node.time
  match c with
  | '@' => m.shown "%s.%N0"
  | '+' => m.shown "%Y-%m-%d+%H:%M:%S.%N0"
  | 'S' => m.shown "%S.%N0"
  | 'T' => m.shown "%H:%M:%S.%N0"
  | 'X' => m.shown "%H:%M:%S.%N0"
  | _ => m.shown ("%" ++ String.singleton c)

def filledTo (marks : List Char) (width : Nat) (text : String) : String :=
  let missing := width - text.length
  if marks.contains '-' then text ++ String.ofList (List.replicate missing ' ')
  else if marks.contains '0' then String.ofList (List.replicate missing '0') ++ text
  else String.ofList (List.replicate missing ' ') ++ text

def filled (s : Session) (h : Hit) : Nat → List Char → String
  | 0, _ => ""
  | _, [] => ""
  | fuel + 1, '\\' :: c :: cs =>
    match c with
    | 'n' => "\n" ++ filled s h fuel cs
    | 't' => "\t" ++ filled s h fuel cs
    | '\\' => "\\" ++ filled s h fuel cs
    | 'a' => "\x07" ++ filled s h fuel cs
    | 'b' => "\x08" ++ filled s h fuel cs
    | 'f' => "\x0c" ++ filled s h fuel cs
    | 'r' => "\x0d" ++ filled s h fuel cs
    | 'v' => "\x0b" ++ filled s h fuel cs
    | 'c' => ""
    | _ =>
      if Shell.isOctal c then
        let (code, rest) := Shell.octalChar 3 (c :: cs)
        String.singleton code ++ filled s h fuel rest
      else "\\" ++ String.singleton c ++ filled s h fuel cs
  | fuel + 1, '%' :: '%' :: cs => "%" ++ filled s h fuel cs
  | fuel + 1, '%' :: cs =>
    let (marks, rest) := cs.span fun c => "-0+# ".toList.contains c
    let (digits, rest) := rest.span Char.isDigit
    let (point, rest) := match rest with
      | '.' :: more => let (ds, rest) := more.span Char.isDigit
        ((String.ofList ds).toNat?, rest)
      | _ => (none, rest)
    let width := ((String.ofList digits).toNat?).getD 0
    let put := fun (text : String) =>
      let text := match point with
        | some n => (text.take n).toString
        | none => text
      filledTo marks width text
    match rest with
    | 'T' :: c :: rest | 'A' :: c :: rest | 'C' :: c :: rest =>
      put (timeFact h c) ++ filled s h fuel rest
    | c :: rest => put (fact s h c) ++ filled s h fuel rest
    | [] => "%"
  | fuel + 1, c :: cs => String.singleton c ++ filled s h fuel cs

def runCommand (run : Runner) (folder : Option String) (words : List String) : Searching Bool := do
  let before := (← get : Walk)
  let s ← getThe Session
  let place := match folder with
    | some f => (s.files.resolve s.folder (readable f)).toOption.getD s.folder
    | none => s.folder
  modifyThe Session fun s => { s with folder := place }
  let result ← match words with
    | name :: arguments => liftM (start run name arguments)
    | [] => pure (.ok (.ofExitCode 0))
  modifyThe Session fun t => { t with folder := s.folder }
  set before
  match result with
  | .ok w => return w.isSuccess
  | .error u =>
    blame "find" (quotedText (words.headD "") ++ ": " ++
      u.said)
    return false

def listed (s : Session) (h : Hit) : String :=
  let m := Moment.ofTime h.node.time
  let pad := fun (n : Nat) (text : String) => padLeft n text
  pad 9 (fact s h 'i') ++ " " ++ pad 6 (fact s h 'k') ++ " " ++ fact s h 'M' ++ " " ++
    pad 3 (fact s h 'n') ++ " root     root     " ++ pad 8 (fact s h 's') ++ " " ++
    m.shown "%b %e %H:%M" ++ " " ++ h.path ++
    (match h.node.entry with
      | .link target => " -> " ++ octets target
      | _ => "") ++ "\n"

def writeTo (file : Option String) (text : String) : Searching Unit := do
  match file with
  | none | some "/dev/stdout" => let _ ← liftM (emit "find" text)
  | some "/dev/stderr" => liftM (Shell.note text)
  | some path =>
    let s ← getThe Session
    match s.files.obtain s.making s.folder (readable path) with
    | .ok (files, number) =>
      set ((s.withFiles files).rewrite number fun content => content ++ Shell.bytesOf text.toList)
    | .error _ => fail

def runBatch (run : Runner) (b : Batch) : Searching Unit := do
  if !(← runCommand run b.folder (b.words ++ b.paths.reverse)) then fail

def eval (run : Runner) (h : Hit) : Test → Searching Bool
  | .name pattern ignoreCase =>
    return Shell.PatternItem.matchesAll pattern
      (folded ignoreCase (baseName h.path)).toList
  | .path pattern ignoreCase =>
    return Shell.PatternItem.matchesAll pattern (folded ignoreCase h.path).toList
  | .target pattern ignoreCase =>
    match h.node.entry with
    | .link target =>
      return Shell.PatternItem.matchesAll pattern (folded ignoreCase (octets target)).toList
    | _ => return false
  | .regex r => return r.matchesWhole h.path
  | .kind letters beyond => do
    if beyond then
      let s ← getThe Session
      match s.files.nodeAt true s.folder (readable h.path) with
      | .ok n => return letters.contains (kindOf n.entry)
      | .error _ => return letters.contains 'l'
    else return letters.contains (kindOf h.node.entry)
  | .isEmpty => do
    let s ← getThe Session
    match h.node.entry with
    | .folder => return (s.files.childNames h.place).isEmpty
    | .file content => return content.isEmpty
    | _ => return false
  | .size c n unit =>
    return c.holds ((entrySize h.node.entry + unit - 1) / unit) n
  | .changed c time span =>
    let t := h.node.time
    match c with
    | .less => return decide (time < t)
    | .greater => return decide (t < time)
    | .equal => return decide (time < t ∧ t ≤ time + span)
  | .newer time => return decide (time < h.node.time)
  | .rights w mode =>
    let found := h.node.mode
    match w with
    | .exactly => return found == mode
    | .every => return found &&& mode == mode
    | .any => return mode == 0 || found &&& mode != 0
  | .links c n => do return c.holds (linksOf (← getThe Session) h.node h.place) n
  | .sameNode n => do return (← getThe Session).files.number? h.place == some n
  | .number c n => do
    return c.holds (1000000 + ((← getThe Session).files.number? h.place).getD 0) n
  | .runs => return h.node.entry.isFolder || h.node.isExecutable
  | .always b => return b
  | .negation t => do return !(← eval run h t)
  | .both a b => do
    if ← eval run h a then if (← get).ended then return true else eval run h b else return false
  | .either a b => do
    if ← eval run h a then return true
    if (← get).ended then return true else eval run h b
  | .after a b => do
    let _ ← eval run h a
    if (← get).ended then return true else eval run h b
  | .print stop file => do
    writeTo file (h.path ++ stop)
    return true
  | .printf format file => do
    let s ← getThe Session
    writeTo file (filled s h (format.length + 1) format.toList)
    return true
  | .list file => do
    let s ← getThe Session
    writeTo file (listed s h)
    return true
  | .delete => do
    if baseName h.path = "." then return true
    let s ← getThe Session
    let cannot := fun (e : SystemError) => do
      blame "find" ("cannot delete " ++ quotedText h.path ++ ": " ++ e.text)
      fail
      return false
    if h.node.entry.isFolder && !(s.files.childNames h.place).isEmpty then cannot .notEmpty
    else
      set (s.withFiles (s.files.remove h.place))
      return true
  | .prune => do
    modify fun w => { w with pruned := true }
    return true
  | .quit => do
    modify fun w => { w with ended := true }
    return true
  | .exec words inFolder asks => do
    let shown := if inFolder then below "." (baseName h.path) else h.path
    let words := words.map (Launch.fill "\x7b\x7d" shown)
    if asks then
      if !(← liftM (confirm ("< " ++ words.headD "" ++ " ... " ++ h.path ++ " > ? "))) then
        return false
    runCommand run (if inFolder then some (folderName h.path) else none) words
  | .collect words inFolder index => do
    let shown := if inFolder then below "." (baseName h.path) else h.path
    let folder := if inFolder then some (folderName h.path) else none
    let (mine, others) := (← get).collected.partition fun b => b.index == index
    match mine with
    | b :: _ =>
      if b.folder = folder then
        modify fun w => { w with collected := others ++ [{ b with paths := shown :: b.paths }] }
      else
        runBatch run b
        modify fun w => { w with collected := others ++ [⟨index, words, folder, [shown]⟩] }
    | [] => modify fun w => { w with collected := others ++ [⟨index, words, folder, [shown]⟩] }
    return true
where
  folded (ignoreCase : Bool) (text : String) : String :=
    if ignoreCase then text.toLower else text

/-- Goes through what is below a path, with fuel for each level. Folders that it is below of
come with their places, the nearest first. -/
def visit (run : Runner) (q : Query) (test : Test) (start : String) :
    Nat → List (Place × String) → String → Searching Unit
  | 0, _, _ => return
  | fuel + 1, above, path => do
    if (← get).ended then return
    let level := above.length
    let s ← getThe Session
    let follows := q.follows || (level = 0 && q.followsOperands)
    let direct := do
      return ((← s.files.nodeAt false s.folder (readable path)),
        (← s.files.entrance s.folder (readable path)))
    let beyond := do
      return ((← s.files.nodeAt true s.folder (readable path)),
        (← s.files.resolve s.folder (readable path)))
    let found : Except FileError (Inode × Place) :=
      match follows, beyond with
      | true, .ok found => .ok found
      | _, _ => direct
    let complain := fun (text : String) => do
      blame "find" text
      fail
    match found with
    | .error e => complain (quotedText path ++ ": " ++ reason e)
    | .ok (node, place) =>
      if let some (_, same) := above.find? fun a => a.1 == place then
        return ← complain ("File system loop detected; " ++ quotedText path ++
          " is part of the same file system loop as " ++ quotedText same ++ ".")
      let h : Hit := ⟨path, start, level, place, node⟩
      let examine : Searching Unit := do
        modify fun w => { w with pruned := false }
        if q.least ≤ level then
          let holds ← eval run h test
          if holds && !q.acts && !(← get).ended then writeTo none (path ++ "\n")
      let descend : Searching Unit := do
        if node.entry.isFolder && level < q.most then
          let files := (← getThe Session).files
          if !(files.at? place).any Entry.isFolder then
            complain (quotedText path ++ ": " ++ SystemError.notFound.text)
          for n in files.childNames place do
            visit run q test start fuel ((place, path) :: above) (below path (octets n))
      if q.late then
        descend
        if !(← get).ended then examine
      else
        examine
        if !(← get).pruned && !(← get).ended then descend

/-- The paths that a file holds, each with a zero behind it, or why there are none. -/
def startsFrom (source : String) : Searching (List String) := do
  let name := if source = "-" then "(standard input)" else source
  match ← liftM (content source) with
  | .error u =>
    blame "find" ("cannot open " ++ quotedText name ++ " for reading: " ++ u.text)
    fail
    return []
  | .ok cs =>
    let parts := (partsBy '\x00' cs).map String.ofList
    for (part, k) in parts.zipIdx do
      if part = "" then
        blame "find" (quotedText name ++ ":" ++ toString (k + 1) ++
          ": invalid zero-length file name")
        fail
    return parts.filter (· != "")

end Find

open Find in
def find : Tool := fun run arguments => do
  let (options, rest) := leading arguments
  let isPath := fun (a : String) =>
    !(a.startsWith "-" && a != "-") && a != "!" && a != "("
  let (paths, tests) := rest.span isPath
  let kind := (options.filter fun o => !o.startsWith "-O").getLast?
  let s ← get
  let query : Query :=
    { least := 0, most := 1000, late := false, acts := false, follows := kind == some "-L"
      followsOperands := kind == some "-H", flavour := "findutils-default", collectors := 0
      dayStart := s.now - daySeconds * billion, notes := [], files := [], source := none }
  if options.contains "-O" then
    blame "find" "The -O option must be immediately followed by a decimal integer"
    return 1
  let parsed := if tests.isEmpty then .ok (.always true, ⟨[], query, ""⟩)
    else (rows s (8 * tests.length + 8)).run ⟨tests, query, ""⟩
  match parsed with
  | .error text =>
    blame "find" text
    return 1
  | .ok (test, r) =>
    for note in r.query.notes.reverse do blame "find" note
    if let extra :: _ := r.words then
      blame "find" (if extra = ")" then "you have too many ')'"
        else "paths must precede expression: \x60" ++ extra ++ "'")
      return 1
    if let (some _, extra :: _) := (r.query.source, paths) then
      blame "find" ("extra operand " ++ quotedText extra)
      blame "find" "file operands cannot be combined with -files0-from"
      return 1
    for file in r.query.files.reverse do
      if !file.startsWith "/dev/std" then
        let s ← get
        match s.files.writeFile s.making s.folder (readable file) [] with
        | .ok files => set (s.withFiles files)
        | .error e =>
          blame "find" (quotedText file ++ ": " ++ reason e)
          return 1
    let go : Searching Unit := do
      let starts ← match r.query.source with
        | some source => startsFrom source
        | none => pure (if paths.isEmpty then ["."] else paths)
      for path in starts do
        visit run r.query test path 64 [] path
      for b in (← get).collected do runBatch run b
    let (_, w) ← go.run ⟨false, false, 0, []⟩
    return w.status
where
  leading : List String → List String × List String
    | "-D" :: _ :: rest => leading rest
    | a :: rest =>
      if ["-H", "-L", "-P", "-O"].contains a ||
          a.startsWith "-O" && ((a.drop 2).toString.toList.all Char.isDigit) then
        let (more, left) := leading rest
        (a :: more, left)
      else ([], a :: rest)
    | [] => ([], [])

end Assay.Utility
