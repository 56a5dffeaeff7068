import Assay.Binary64.Decimal
import Assay.Utility.Numbers

/-!
# The starts and ends of files

A number of lines or bytes at the start or at the end of each file is shown, or
all but those.
-/

set_option autoImplicit false

namespace Assay.Utility

open Shell (Sh)

structure Amount where
  count : Nat
  bytes : Bool
  fromOther : Bool
deriving DecidableEq, Repr

def takeLines (stop : Char) : Nat → List Char → List Char
  | 0, _ => []
  | _, [] => []
  | n + 1, c :: cs => c :: takeLines stop (if c = stop then n else n + 1) cs

def dropLines (stop : Char) : Nat → List Char → List Char
  | 0, cs => cs
  | _, [] => []
  | n + 1, c :: cs => dropLines stop (if c = stop then n else n + 1) cs

def lineCount (stop : Char) (cs : List Char) : Nat :=
  let ends := cs.foldl (fun n c => if c = stop then n + 1 else n) 0
  if cs.isEmpty || cs.getLast? == some stop then ends else ends + 1

def Amount.head (a : Amount) (stop : Char) (cs : List Char) : List Char :=
  match a.bytes, a.fromOther with
  | true, false => cs.take a.count
  | true, true => cs.take (cs.length - a.count)
  | false, false => takeLines stop a.count cs
  | false, true => takeLines stop (lineCount stop cs - a.count) cs

def Amount.tail (a : Amount) (stop : Char) (cs : List Char) : List Char :=
  match a.bytes, a.fromOther with
  | true, false => cs.drop (cs.length - a.count)
  | true, true => cs.drop (a.count - 1)
  | false, false => dropLines stop (lineCount stop cs - a.count) cs
  | false, true => dropLines stop (a.count - 1) cs

namespace Amount

def noun (bytes : Bool) : String := if bytes then "bytes" else "lines"

/-- Reads a count behind the sign that `other` marks a count from the other end with. -/
def read (bytes : Bool) (other : Char) (text : String) : Except String Amount :=
  let (body, fromOther) := match text.toList with
    | c :: cs =>
      if c = other then ((if c = '-' then String.ofList cs else text), true)
      else if c = '-' then (String.ofList cs, false)
      else (text, false)
    | [] => (text, false)
  (Numeral.natural Numeral.amountUnits 0 ("invalid number of " ++ noun bytes) body).map
    fun n => ⟨n, bytes, fromOther⟩

def ofOptions (other : Char) (a : Amount) : List (Char × String) → Except String Amount
  | [] => .ok a
  | (c, text) :: rest =>
    if c = 'n' || c = 'c' then do ofOptions other (← read (c == 'c') other text) rest
    else ofOptions other a rest

end Amount

def heading (first : Bool) (name : String) : String :=
  (if first then "" else "\n") ++ "==> " ++
    (if name = "-" then "standard input" else name) ++ " <==\n"

def headOptions : Options :=
  ⟨"n:c:qvz", [("lines", 'n'), ("bytes", 'c'), ("quiet", 'q'), ("silent", 'q'),
    ("verbose", 'v'), ("zero-terminated", 'z')], false⟩

/-- What stands behind the digits of an old form: how the count is taken, its unit, and the
options in it. -/
def oldLetters (options : List (Char × String)) (bytes : Bool) (unit : String) :
    List Char → Except String (List (Char × String) × Bool × String)
  | [] => .ok (options, bytes, unit)
  | c :: cs =>
    if c = 'c' then oldLetters options true "" cs
    else if "bkm".contains c then oldLetters options true (String.singleton c) cs
    else if c = 'l' then oldLetters options false unit cs
    else if "qvz".contains c then oldLetters (options ++ [(c, "")]) bytes unit cs
    else .error ("invalid trailing option -- " ++ String.singleton c)

def oldHead (arguments : List String) :
    Except String (List (Char × String) × List String) :=
  match arguments with
  | first :: rest =>
    match first.toList with
    | '-' :: d :: ds =>
      if d.isDigit then do
        let (digits, letters) := (d :: ds).span Char.isDigit
        let (options, bytes, unit) ← oldLetters [] false "" letters
        return (((if bytes then 'c' else 'n'), String.ofList digits ++ unit) :: options, rest)
      else return ([], arguments)
    | _ => return ([], arguments)
  | [] => return ([], [])

def strayDigit? (text : String) : Option Char :=
  match text.splitOn "invalid option -- '" with
  | ["", rest] => rest.toList.head?.filter Char.isDigit
  | _ => none

def withDigits (name : String) (o : Options) (text : String) (hint : Bool)
    (arguments : List String) (body : Given → Sh Nat) : Sh Nat := do
  match o.parseAll arguments with
  | .ok (options, operands) => body ⟨options, operands⟩
  | .error problem =>
    match strayDigit? problem with
    | some d =>
      let problem := text ++ String.singleton d
      if hint then refuse name 1 problem
      else
        blame name problem
        return 1
    | none => refuse name 1 problem

def showsHeadings (g : Given) : Bool :=
  match g.last? "qv" with
  | some 'v' => true
  | some _ => false
  | none => decide (1 < g.operands.length)

def headAll (a : Amount) (stop : Char) (headings : Bool) :
    Bool → List String → Sh (String × Nat)
  | _, [] => return ("", 0)
  | first, operand :: rest => do
    let title := if headings then heading first operand else ""
    let nothing := a.count = 0 && !a.fromOther
    if operand = "-" then
      let sink ← Shell.standardInput
      match ← if nothing && sink.isSome then pure none else Shell.readFault? sink with
      | some e =>
        blameUnread "head" "-" ⟨e.text, true⟩
        let (more, _) ← headAll a stop headings false rest
        return (title ++ more, 1)
      | none =>
        let cs ← if nothing then pure [] else Shell.remainingInput
        let taken := a.head stop cs
        if !nothing then leaveBehind 8192 taken.length cs
        let (more, status) ← headAll a stop headings false rest
        return (title ++ String.ofList taken ++ more, status)
    else
      match ← content operand with
      | .ok cs =>
        let (more, status) ← headAll a stop headings false rest
        return (title ++ String.ofList (a.head stop cs) ++ more, status)
      | .error u =>
        let isFine := u.isFound && nothing
        if !isFine then blameUnread "head" operand u
        let (more, status) ← headAll a stop headings (first && !u.isFound) rest
        return ((if u.isFound then title else "") ++ more, if isFine then status else 1)

def head : Tool := fun _ arguments => do
  match oldHead arguments with
  | .error text => refuse "head" 1 text
  | .ok (old, arguments) =>
    withDigits "head" headOptions "invalid trailing option -- " true arguments fun g => do
      let g : Given := ⟨old ++ g.options, g.operands⟩
      settle "head" 1 (Amount.ofOptions '-' ⟨10, false, false⟩ g.options) fun a => do
        let operands := if g.operands.isEmpty then ["-"] else g.operands
        let stop := if g.has 'z' then '\x00' else '\n'
        let (text, status) ← headAll a stop (showsHeadings g) true operands
        emitWith "head" status text

/-- What an old form such as `-5c` or `+3` asks of `tail`: the amount, and whether the end is
waited for. -/
def oldTail? (word : String) : Option (Except String (Amount × Bool)) :=
  let read := fun (fromStart : Bool) (cs : List Char) =>
    let (digits, rest) := cs.span Char.isDigit
    let (bytes, scale, rest) := match rest with
      | 'b' :: rest => (true, 512, rest)
      | 'c' :: rest => (true, 1, rest)
      | 'l' :: rest => (false, 1, rest)
      | _ => (false, 1, rest)
    let (forever, rest) := match rest with
      | 'f' :: rest => (true, rest)
      | _ => (false, rest)
    if !rest.isEmpty then none
    else if digits.isEmpty then some (.ok (⟨10 * scale, bytes, fromStart⟩, forever))
    else
      match Numeral.read "b" false (String.ofList digits) with
      | .ok n => some (.ok (⟨n.toNat * scale, bytes, fromStart⟩, forever))
      | .error _ => some (.error ("invalid number: " ++ quotedText word ++
          ": Numerical result out of range"))
  match word.toList with
  | '+' :: cs => read true cs
  | '-' :: cs => if cs.isEmpty || cs == ['c'] then none else read false cs
  | _ => none

def admitsOldTail : List String → Bool
  | [_] => true
  | [_, file] => !(file.startsWith "-" && file != "-") || file == "--"
  | [_, dashes, _] => dashes == "--"
  | _ => false

def tailOptions : Options :=
  ⟨"n:c:fFqs:vzα::β:γ", [("lines", 'n'), ("bytes", 'c'), ("quiet", 'q'), ("silent", 'q'),
    ("verbose", 'v'), ("zero-terminated", 'z'), ("sleep-interval", 's'), ("follow", 'α'),
    ("pid", 'β'), ("retry", 'γ')], false⟩

def tailAll (a : Amount) (stop : Char) (headings : Bool) :
    Bool → List String → Sh (String × Nat)
  | _, [] => return ("", 0)
  | first, operand :: rest => do
    let title := if headings then heading first operand else ""
    match ← content operand with
    | .ok cs =>
      let (more, status) ← tailAll a stop headings false rest
      return (title ++ String.ofList (a.tail stop cs) ++ more, status)
    | .error u =>
      blameUnread "tail" operand u
      let isShut := operand == "-" && (← Shell.standardInput).isNone
      let titled := u.isFound && !isShut
      let (more, _) ← tailAll a stop headings (first && !titled) rest
      return ((if titled then title else "") ++ more, 1)

def tailOperands (a : Amount) (forever : Bool) (g : Given) : Sh Nat := do
  let operands := if g.operands.isEmpty then ["-"] else g.operands
  let stop := if g.has 'z' then '\x00' else '\n'
  if a.count = 0 && !a.fromOther && !forever then return 0
  let (text, status) ← tailAll a stop (showsHeadings g) true operands
  let s ← get
  let isPipe := operands == ["-"] && !Shell.Sink.isSeekable (s.sink? 0)
  let status ← emitWith "tail" status text
  if forever && status = 0 && !isPipe then throw .never
  return status

def tail : Tool := fun _ arguments => do
  let old := match arguments with
    | first :: _ => if admitsOldTail arguments then oldTail? first else none
    | [] => none
  match old with
  | some (.error text) =>
    blame "tail" text
    return 1
  | some (.ok (a, forever)) =>
    let operands := arguments.tail.filter (· != "--")
    tailOperands a forever ⟨[], operands⟩
  | none =>
    withDigits "tail" tailOptions "option used in invalid context -- " false arguments
      fun g => do
      let checks := do
        let _ ← g.read 's' () fun t =>
          if (Binary64.ofText? t.toList).isSome then .ok ()
          else .error ("invalid number of seconds: " ++ quotedText t)
        let _ ← g.read 'β' () fun t =>
          (Numeral.bounded "" false 0 2147483647 "invalid PID" t).map fun _ => ()
        Amount.ofOptions '+' ⟨10, false, false⟩ g.options
      settle "tail" 1 checks fun a =>
        tailOperands a (g.has 'f' || g.has 'F' || g.has 'α') g

end Assay.Utility
