import Assay.Shell.Builtin.Input
import Assay.Utility.Basic

/-!
# Plain utilities

Texts and numbers are written, and parts of paths are taken.
-/

set_option autoImplicit false

namespace Assay.Utility

open Shell (Sh octets readable)

/-- Options at the front of the words that the echo utility prints. -/
structure EchoOptions where
  newline : Bool
  escapes : Bool
deriving DecidableEq, Repr

def takeEchoOption? (o : EchoOptions) (word : String) : Option EchoOptions :=
  match word.toList with
  | '-' :: c :: cs =>
    if (c :: cs).all fun c => c == 'n' || c == 'e' || c == 'E' then
      some ((c :: cs).foldl (fun o c =>
        if c = 'n' then { o with newline := false } else { o with escapes := c == 'e' }) o)
    else none
  | _ => none

def takeEchoOptions (o : EchoOptions) : List String → EchoOptions × List String
  | [] => (o, [])
  | word :: rest =>
    match takeEchoOption? o word with
    | some o => takeEchoOptions o rest
    | none => (o, word :: rest)

def resolveHex : Nat → List Char → List Char
  | 0, cs => cs
  | _, [] => []
  | fuel + 1, '\\' :: 'x' :: cs =>
    let digits := (cs.take 2).takeWhile fun c => (Shell.digitValue? c).isSome
    if digits.isEmpty then '\\' :: 'x' :: resolveHex fuel cs
    else
      let c := Char.ofNat (Shell.readDigits 16 digits).1
      (if c = '\\' then ['\\', '\\'] else [c]) ++ resolveHex fuel (cs.drop digits.length)
  | fuel + 1, '\\' :: c :: cs => '\\' :: c :: resolveHex fuel cs
  | fuel + 1, c :: cs => c :: resolveHex fuel cs

def echo : Tool := fun _ arguments => do
  let (o, words) := takeEchoOptions ⟨true, false⟩ arguments
  let cs := (String.intercalate " " words).toList
  let (cs, ended) :=
    if o.escapes then Shell.withoutEscapes (resolveHex (cs.length + 1) cs) else (cs, false)
  emit "echo" (String.ofList cs ++ if o.newline && !ended then "\n" else "")

def blameAll (name : String) : List String → Sh Unit
  | [] => return
  | text :: rest => do
    blame name text
    blameAll name rest

def duration? (text : String) : Option Nat :=
  let cs := text.toList
  let (scale, body) := match cs.getLast? with
    | some 's' => (1, cs.dropLast)
    | some 'm' => (60, cs.dropLast)
    | some 'h' => (3600, cs.dropLast)
    | some 'd' => (86400, cs.dropLast)
    | _ => (1, cs)
  if String.ofList body = "infinity" || String.ofList body = "inf" then some Shell.forever
  else
    (Decimal.ofText? body).map fun d =>
      d.coefficient * Nat.pow 10 (min d.exponent 12).toNat * 1000 * scale /
        Nat.pow 10 (min (-d.exponent) 400).toNat

def sleep : Tool := fun _ arguments =>
  withOptions "sleep" 1 ⟨"", [], false⟩ arguments fun g => do
    let wrong := g.operands.filter fun a => (duration? a).isNone
    if g.operands.isEmpty then refuse "sleep" 1 "missing operand"
    else if !wrong.isEmpty then
      blameAll "sleep" (wrong.dropLast.map fun a => "invalid time interval " ++ quotedText a)
      refuse "sleep" 1 ("invalid time interval " ++ quotedText (wrong.getLastD ""))
    else
      Shell.pass ((g.operands.filterMap duration?).foldr (fun d n => d + n) 0)
      return 0

def pwd : Tool := fun _ arguments =>
  withOptions "pwd" 1 ⟨"LP", [("logical", 'L'), ("physical", 'P')], false⟩ arguments fun g => do
    let s ← get
    if !g.operands.isEmpty then blame "pwd" "ignoring non-option arguments"
    let named := ((s.environment.find? fun b => b.1 == "PWD").map Prod.snd).filter fun path =>
      path.startsWith "/" && !((path.splitOn "/").any fun part => part == "." || part == "..") &&
        (s.files.resolve s.folder (readable path)).toOption == some s.folder
    let physical := octets s.folder.toPath
    let path := if g.last? "LP" == some 'L' then named.getD physical else physical
    emit "pwd" (path ++ "\n")

def yesCount : Nat := 20000

def yes : Tool := fun _ arguments =>
  withOptions "yes" 1 ⟨"", [], true⟩ arguments fun g => do
    let line := (if g.operands.isEmpty then "y" else String.intercalate " " g.operands) ++ "\n"
    let status ← emit "yes" (String.join (List.replicate yesCount line))
    if status ≠ 0 then return status
    throw .never

def dropSlashes (path : String) : String :=
  let kept := path.toList.reverse.dropWhile (· == '/')
  if kept.isEmpty && path != "" then "/" else String.ofList kept.reverse

def lastPart (ending path : String) : String :=
  let name := String.ofList ((dropSlashes path).toList.reverse.takeWhile (· != '/')).reverse
  let name := if name = "" && path != "" then "/" else name
  if ending != "" && name != ending && name.endsWith ending then
    (name.take (name.length - ending.length)).toString
  else name

def endEach (g : Given) (texts : List String) : String :=
  String.join (texts.map fun t => t ++ if g.has 'z' then "\x00" else "\n")

def basename : Tool := fun _ arguments =>
  withOptions "basename" 1 ⟨"as:z", [("multiple", 'a'), ("suffix", 's'), ("zero", 'z')], true⟩
    arguments fun g => do
    let deliver := fun (texts : List String) => emit "basename" (endEach g texts)
    if g.operands.isEmpty then refuse "basename" 1 "missing operand"
    else if g.has 'a' || g.has 's' then
      deliver (g.operands.map (lastPart ((g.text? 's').getD "")))
    else
      match g.operands with
      | _ :: _ :: extra :: _ =>
        refuse "basename" 1 ("extra operand " ++ quotedText extra)
      | path :: rest => deliver [lastPart (rest.headD "") path]
      | [] => return 1

def folderPart (path : String) : String :=
  let path := dropSlashes path
  let rest := path.toList.reverse.dropWhile (· != '/')
  if rest.isEmpty then "." else dropSlashes (String.ofList rest.reverse)

def dirname : Tool := fun _ arguments =>
  withOptions "dirname" 1 ⟨"z", [("zero", 'z')], false⟩ arguments fun g => do
    if g.operands.isEmpty then refuse "dirname" 1 "missing operand"
    else emit "dirname" (endEach g (g.operands.map folderPart))

def conditionFault (words : List String) (text : String) : String :=
  match words, text.splitOn "Illegal number: " with
  | _, ["", number] => "invalid integer " ++ quotedText number
  | [op, last], _ =>
    if op.startsWith "-" && op.length = 2 then quotedText op ++ ": unary operator expected"
    else "missing argument after " ++ quotedText last
  | [_, op, _], _ => quotedText op ++ ": binary operator expected"
  | words, _ =>
    if text.endsWith "argument expected" then
      "missing argument after " ++ quotedText (words.getLastD "")
    else text

def testAs (name : String) (words : List String) : Sh Nat := do
  match Shell.Condition.eval (← get) false words with
  | .ok b => return Shell.Session.flag b
  | .error text =>
    blame name (conditionFault words text)
    return 2

def test : Tool := fun _ arguments => testAs "test" arguments

def bracketTest : Tool := fun _ arguments => do
  if arguments.getLast? = some "]" then testAs "[" arguments.dropLast
  else
    blame "[" ("missing " ++ quotedText "]")
    return 2

/-- What `uname` tells, by letters in the order in which it is told. -/
def systemParts : List (Char × String) := [
  ('s', "Linux"), ('n', "localhost"), ('r', "6.1.0"), ('v', "#1 SMP"), ('m', "x86_64"),
  ('p', "x86_64"), ('i', "x86_64"), ('o', "GNU/Linux")]

def uname : Tool := fun _ arguments =>
  withOptions "uname" 1 ⟨"asnrvmpio", [("all", 'a'), ("kernel-name", 's'), ("sysname", 's'),
    ("nodename", 'n'), ("kernel-release", 'r'), ("release", 'r'), ("kernel-version", 'v'),
    ("machine", 'm'), ("processor", 'p'), ("hardware-platform", 'i'), ("operating-system", 'o')],
    false⟩ arguments fun g => do
    match g.operands with
    | extra :: _ => refuse "uname" 1 ("extra operand " ++ quotedText extra)
    | [] =>
      let parts := systemParts.filter fun p =>
        g.has p.1 || g.has 'a' || (g.options.isEmpty && p.1 == 's')
      emit "uname" (String.intercalate " " (parts.map Prod.snd) ++ "\n")

def tty : Tool := fun _ arguments =>
  withOptions "tty" 2 ⟨"s", [("silent", 's'), ("quiet", 's')], false⟩ arguments fun g => do
    match g.operands with
    | extra :: _ => refuse "tty" 2 ("extra operand " ++ quotedText extra)
    | [] => if g.has 's' then return 1 else emitWith "tty" 1 "not a tty\n"

def printenv : Tool := fun _ arguments =>
  withOptions "printenv" 2 ⟨"0", [("null", '0')], true⟩ arguments fun g => do
    let s ← get
    let stop := if g.has '0' then "\x00" else "\n"
    let endAll := fun (texts : List String) => String.join (texts.map fun t => t ++ stop)
    if g.operands.isEmpty then
      emit "printenv" (endAll (s.environment.map fun b => b.1 ++ "=" ++ b.2))
    else
      let found := g.operands.filterMap fun n =>
        (s.environment.find? fun b => b.1 == n).map Prod.snd
      let status ← emit "printenv" (endAll found)
      return if found.length = g.operands.length then status else 1

end Assay.Utility
