import Assay.Shell.Process
import Assay.Shell.Redirect
import Assay.Utility.Quoted

/-!
# What utilities share

The options and operands of a utility, its diagnostics, and the programs that
it may start in its turn.
-/

set_option autoImplicit false

namespace Assay.Utility

/-!
## Utilities

A utility is a program of the system that is no shell. It takes options and
operands, reads and writes, and yields a status. Its diagnostics start with its
own name.
-/

open Shell (Sh Sink Runner octets readable octetsOf bytesOf note Session)

/-- A utility is handed a runner for the programs that it may start. -/
abbrev Tool := Runner → List String → Sh Nat

def briefNames : List String := ["grep", "rev", "setsid", "which"]

def ownName (name : String) : Sh String := do
  let s ← get
  return if s.name.endsWith ("/" ++ name) && !briefNames.contains name then s.name else name

def noteQuoted (text : String) : Sh Unit := do note (settleQuotes (← isWide) text)

def blame (name text : String) : Sh Unit := do
  noteQuoted ((← ownName name) ++ ": " ++ text ++ "\n")

def blameWithHint (name text : String) : Sh Unit := do
  let own ← ownName name
  noteQuoted (own ++ ": " ++ text ++ "\nTry '" ++ own ++ " --help' for more information.\n")

def refuse (name : String) (status : Nat) (text : String) : Sh Nat := do
  blameWithHint name text
  return status

def writeStatuses : List (String × Nat) := [
  ("diff", 2), ("env", 125), ("expr", 3), ("grep", 2), ("ls", 2), ("printenv", 2), ("sed", 4),
  ("sort", 2), ("tty", 3)]

def writeFailure (name : String) (e : SystemError) : List String :=
  let isClosed := e == .badDescriptor
  match name with
  | "diff" => ["standard output: " ++ e.text]
  | "find" =>
    ["'standard output': " ++ e.text, "write error" ++ if isClosed then ": " ++ e.text else ""]
  | "rev" => if isClosed then [] else ["write error: " ++ e.text]
  | "sed" => ["couldn't " ++ (if isClosed then "close" else "flush") ++ " stdout: " ++ e.text]
  | "sort" => ["fflush failed: 'standard output': " ++ e.text, "write error"]
  | "tee" => ["'standard output': " ++ e.text]
  | "wc" => ["write error" ++ if isClosed then ": " ++ e.text else ""]
  | "yes" => ["standard output: " ++ e.text]
  | _ => ["write error: " ++ e.text]

def emit (name text : String) : Sh Nat := do
  let s ← get
  match s.write (bytesOf text.toList) (s.sink? 1) with
  | .ok s =>
    set s
    return 0
  | .error e =>
    let texts := writeFailure name e
    for text in texts do blame name text
    return if texts.isEmpty then 0
      else ((writeStatuses.find? fun w => w.1 == name).map Prod.snd).getD 1

def emitWith (name : String) (status : Nat) (text : String) : Sh Nat := do
  return max status (← emit name text)

def joinLines (lines : List String) : String := String.join (lines.map fun l => l ++ "\n")

/-- The options that a utility knows: letters, of which those that a colon follows take a
text, those that two colons follow only where it is attached, and longer names for letters. -/
structure Options where
  letters : String
  names : List (String × Char)
  strict : Bool

namespace Options

inductive Taking where
  | nothing
  | text
  | perhaps

def taking? (o : Options) (c : Char) : Option Taking :=
  match o.letters.toList.dropWhile (· != c) with
  | _ :: ':' :: ':' :: _ => some .perhaps
  | _ :: ':' :: _ => some .text
  | _ :: _ => some .nothing
  | [] => none

/-- The longer name that only the start may be given of, with its letter. Several names
for one letter do not get into each other's way. -/
def nameOf? (o : Options) (name : String) : Except String (String × Char) :=
  match o.names.find? fun n => n.1 == name with
  | some n => .ok n
  | none =>
    match o.names.filter fun n => n.1.startsWith name with
    | [] => .error ("unrecognized option '--" ++ name ++ "'")
    | n :: more =>
      if more.all fun m => m.2 == n.2 then .ok n
      else .error ("option '--" ++ name ++ "' is ambiguous; possibilities:" ++
        String.join ((n :: more).map fun m => " '--" ++ m.1 ++ "'"))

abbrev Parsed := List (Char × String) × List String

def parse (o : Options) : Nat → List String → Except String Parsed
  | 0, arguments => .ok ([], arguments)
  | _, [] => .ok ([], [])
  | fuel + 1, argument :: rest =>
    match argument.toList with
    | ['-', '-'] => .ok ([], rest)
    | '-' :: '-' :: cs => do
      let (name, value) := match cs.span (· != '=') with
        | (name, _ :: value) => (String.ofList name, some (String.ofList value))
        | (name, []) => (String.ofList name, none)
      let (name, c) ← o.nameOf? name
      match o.taking? c, value, rest with
      | some .text, some value, _ | some .perhaps, some value, _ | some .text, none, value :: rest =>
        let (found, operands) ← o.parse fuel rest
        return ((c, value) :: found, operands)
      | some .text, none, [] => throw ("option '--" ++ name ++ "' requires an argument")
      | some .nothing, some _, _ => throw ("option '--" ++ name ++ "' doesn't allow an argument")
      | _, _, _ =>
        let (found, operands) ← o.parse fuel rest
        return ((c, "") :: found, operands)
    | '-' :: c :: cs => do
      match o.taking? c, cs, rest with
      | none, _, _ => throw ("invalid option -- '" ++ String.singleton c ++ "'")
      | some .nothing, [], _ | some .perhaps, [], _ =>
        let (found, operands) ← o.parse fuel rest
        return ((c, "") :: found, operands)
      | some .nothing, _, _ =>
        let (found, operands) ← o.parse fuel (String.ofList ('-' :: cs) :: rest)
        return ((c, "") :: found, operands)
      | some .text, [], value :: rest =>
        let (found, operands) ← o.parse fuel rest
        return ((c, value) :: found, operands)
      | some .text, [], [] => throw ("option requires an argument -- '" ++ String.singleton c ++ "'")
      | _, _, _ =>
        let (found, operands) ← o.parse fuel rest
        return ((c, String.ofList cs) :: found, operands)
    | _ =>
      if o.strict then .ok ([], argument :: rest)
      else do
        let (found, operands) ← o.parse fuel rest
        return (found, argument :: operands)

def parseAll (o : Options) (arguments : List String) : Except String Parsed :=
  let length := arguments.foldr (fun a n => a.length + n + 1) 1
  o.parse length arguments

end Options

structure Given where
  options : List (Char × String)
  operands : List String

namespace Given

def has (g : Given) (c : Char) : Bool := g.options.any fun o => o.1 == c

def text? (g : Given) (c : Char) : Option String :=
  (g.options.reverse.find? fun o => o.1 == c).map Prod.snd

def last? (g : Given) (letters : String) : Option Char :=
  (g.options.reverse.find? fun o => letters.contains o.1).map Prod.fst

end Given

def withOptions (name : String) (status : Nat) (o : Options) (arguments : List String)
    (body : Given → Sh Nat) : Sh Nat := do
  match o.parseAll arguments with
  | .error text => refuse name status text
  | .ok (options, operands) => body ⟨options, operands⟩

def reason : FileError → String
  | .system e => e.text
  | _ => SystemError.notFound.text

structure Unread where
  text : String
  isFound : Bool

/-- What is left of what a descriptor leads to, or why it cannot be read. -/
def contentOf (sink : Option Sink) : Sh (Except Unread (List Char)) := do
  match ← Shell.readFault? sink with
  | some e => return .error ⟨e.text, true⟩
  | none => return .ok (← Shell.take sink)

def content (operand : String) : Sh (Except Unread (List Char)) := do
  let s ← get
  if operand = "-" then return ← contentOf (s.sink? 0)
  match s.files.stat s.folder (readable operand) with
  | .error e => return .error ⟨reason e, false⟩
  | .ok (.device (.descriptor _)) =>
    match ← Shell.openForReading operand with
    | .error e => return .error ⟨reason e, false⟩
    | .ok sink =>
      let read ← contentOf (some sink)
      Shell.dropInputs s.nextNumber
      return read
  | .ok (.device .terminal) => return .error ⟨SystemError.noDevice.text, false⟩
  | .ok (.device .zeros) | .ok (.device .full) => return .ok Shell.manyZeros
  | .ok e =>
    match e.content? with
    | some bytes => return .ok (octetsOf bytes)
    | none => return .error ⟨SystemError.isADirectory.text, true⟩

def unfound (name operand text : String) : String :=
  match name with
  | "head" | "tail" => "cannot open " ++ quotedName operand ++ " for reading: " ++ text
  | "tac" => "failed to open " ++ quotedName operand ++ " for reading: " ++ text
  | "sort" => "cannot read: " ++ shownName operand ++ ": " ++ text
  | "sed" => "can't read " ++ operand ++ ": " ++ text
  | "rev" => "cannot open " ++ operand ++ ": " ++ text
  | "grep" | "diff" | "cmp" => operand ++ ": " ++ text
  | "wc" =>
    if operand = "" then "invalid zero-length file name" else shownName operand ++ ": " ++ text
  | _ => shownName operand ++ ": " ++ text

/-- What a utility says of an operand that it has found and cannot read; `isShut` tells that
it is standard input, and that there is none. -/
def unreadable (name operand text : String) (isShut : Bool) : List String :=
  let isInput := operand = "-"
  let source := if isInput then "standard input" else operand
  let closing := fun (what : String) => if isShut then [what ++ ": " ++ text] else []
  match name with
  | "cat" => (shownName operand ++ ": " ++ text) :: closing "closing standard input"
  | "head" => ("error reading " ++ quotedName source ++ ": " ++ text) :: closing "-"
  | "tail" =>
    ((if isShut then "cannot fstat " else "error reading ") ++ quotedName source ++ ": " ++ text) ::
      closing "-"
  | "od" => (shownName source ++ ": " ++ text) :: closing "standard input"
  | "tac" =>
    let text := if text = SystemError.isADirectory.text then SystemError.invalidArgument.text
      else text
    (shownName source ++ ": read error: " ++ text) :: closing "-"
  | "sort" => [(if isShut then "stat" else "read") ++ " failed: " ++ shownName operand ++ ": " ++ text]
  | "sed" => ["read error on " ++ (if isInput then "stdin" else operand) ++ ": " ++ text]
  | "grep" => [(if isInput then "(standard input)" else operand) ++ ": " ++ text]
  | "base64" | "tr" => ["read error: " ++ text]
  | "tee" => ("read error: " ++ text) :: closing "standard input"
  | "xargs" => ["error closing file" ++ if isShut then ": " ++ text else ""]
  | "factor" => ["error reading input: " ++ text]
  | "uniq" => ["error reading " ++ quotedName operand ++ ": " ++ text]
  | "diff" | "cmp" => [operand ++ ": " ++ text]
  | "comm" => [shownName operand ++ ": " ++ text]
  | _ => (shownName operand ++ ": " ++ text) :: closing "-"

def blameUnread (name operand : String) (u : Unread) : Sh Unit := do
  if u.isFound then
    let isShut := operand == "-" && (← Shell.standardInput).isNone
    for line in unreadable name operand u.text isShut do blame name line
  else blame name (unfound name operand u.text)

/-- Standard input, if it can be read; otherwise it is said why not. -/
def input? (name : String) : Sh (Option (List Char)) := do
  match ← content "-" with
  | .ok cs => return some cs
  | .error u =>
    blameUnread name "-" u
    return none

def nodeBehind? (s : Session) (descriptor : Nat) : Option Nat := do
  let .file n ← s.sink? descriptor | none
  let f ← s.opened? n
  return f.node

def isOutput (operand : String) : Sh Bool := do
  let s ← get
  let node? := if operand = "-" then nodeBehind? s 0
    else s.files.numberAt? s.folder (readable operand)
  return node?.isSome && node? == nodeBehind? s 1

/-- The contents of operands one after the other, standard input if there are none, and
the status that those leave which cannot be read. What has been found counts as empty, if
this is asked for. -/
def contentsWith (keep : Bool) (name : String) (operands : List String) :
    Sh (List (String × List Char) × Nat) :=
  readAll (if operands.isEmpty then ["-"] else operands)
where
  readAll : List String → Sh (List (String × List Char) × Nat)
    | [] => return ([], 0)
    | operand :: rest => do
      match ← content operand with
      | .ok cs =>
        let (more, status) ← readAll rest
        return ((operand, cs) :: more, status)
      | .error u =>
        blameUnread name operand u
        let (more, _) ← readAll rest
        return (if keep && u.isFound then (operand, []) :: more else more, 1)

def contents (name : String) (operands : List String) : Sh (List (String × List Char) × Nat) :=
  contentsWith false name operands

def isEndless (operand : String) : Sh Bool := do
  let s ← get
  if operand = "-" then return Shell.Sink.isEndless (s.sink? 0)
  else
    match s.files.stat s.folder (readable operand) with
    | .ok (.device d) => return Shell.Sink.isEndless (some (.device d))
    | _ => return false

/-- Leaves what follows some characters of standard input. A pipe has been read in blocks,
a file no further than needed. -/
def leaveBehind (block taken : Nat) (cs : List Char) : Sh Unit := do
  let sink ← Shell.standardInput
  let read := if Shell.Sink.isSeekable sink then taken else (taken + block - 1) / block * block
  Shell.leave sink (cs.drop read)

def together (read : List (String × List Char)) : List Char := read.flatMap Prod.snd

def linesOf (cs : List Char) : List String :=
  match ((String.ofList cs).splitOn "\n").reverse with
  | "" :: rest => rest.reverse
  | all => all.reverse

def natural? (text : String) : Option Nat :=
  if text.isEmpty || !text.all Char.isDigit then none else text.toNat?

def padLeft (width : Nat) (text : String) : String :=
  String.ofList (List.replicate (width - text.length) ' ') ++ text

end Assay.Utility

namespace Assay.Utility

/-!
## Starting programs

A utility may start a program and wait for its end.
-/

open Shell (Sh Runner)

def start (run : Runner) (name : String) (arguments : List String) :
    Sh (Except Shell.Unstartable WaitStatus) := do
  match (← get).findProgram name with
  | .ok p => return .ok (← Shell.asProcess run (run (.program p name arguments)))
  | .error u => return .error u

namespace Launch

def fill (mark text template : String) : String :=
  if mark = "" then template else String.intercalate text (template.splitOn mark)

end Launch

end Assay.Utility
