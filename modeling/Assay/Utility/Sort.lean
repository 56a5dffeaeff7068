import Assay.Utility.Numbers
import Assay.Utility.Sort.Key

/-!
# The sort utility

Lines are compared by keys, of which each may have an order of its own, and by
all their octets where the keys are equal. They are brought into order, merged,
or only checked.
-/

set_option autoImplicit false

namespace Assay.Utility

open Shell (Sh)

namespace Sorting

structure Request where
  order : Order
  keys : List Key
  separator : Option Char
  check : Option Char
  merge : Bool
  unique : Bool
  stable : Bool
  stop : Char
  output : Option String
  names : Option String
  program : Option String
  source : Option String

def Request.fresh : Request :=
  { order := .plain, keys := [], separator := none, check := none, merge := false, unique := false
    stable := false, stop := '\n', output := none, names := none, program := none, source := none }

inductive Refusal where
  | plain (lines : List String)
  | hinted (text : String)

def refuseWith {α : Type} (text : String) : Except Refusal α := .error (.plain [text])

def incompatible {α : Type} (letters : String) : Except Refusal α :=
  refuseWith ("options '-" ++ letters ++ "' are incompatible")

def readAmount (units : List Char) (single : List Char → Option Nat) (option text : String) :
    Except Refusal Nat :=
  let argument := option ++ " argument '" ++ text ++ "'"
  let finish := fun (n : Nat) =>
    if n ≤ 18446744073709551615 then .ok n else refuseWith (argument ++ " too large")
  match Key.count? text.toList with
  | none =>
    if text.toList.any units.contains && text.length = 1 then .ok 0
    else refuseWith ("invalid " ++ argument)
  | some (n, rest) =>
    match single rest, rest with
    | some scale, _ => finish (n * scale)
    | none, [c] =>
      if units.contains c then finish (n * Nat.pow 1024 (((Numeral.power? c).getD 0)))
      else refuseWith ("invalid suffix in " ++ argument)
    | none, _ => refuseWith ("invalid suffix in " ++ argument)

def readSize (option text : String) : Except Refusal Nat :=
  readAmount "EgGkKmMPQRtTYZ".toList (fun rest => match rest with
    | [] => some 1024
    | ['b'] | ['%'] => some 1
    | _ => none) option text

def readCount (option text : String) : Except Refusal Nat :=
  readAmount [] (fun rest => if rest.isEmpty then some 1 else none) option text

def orderWords : List (String × Char) := [
  ("general-numeric", 'g'), ("human-numeric", 'h'), ("month", 'M'), ("numeric", 'n'),
  ("random", 'R'), ("version", 'V')]

def readSeparator (text : String) : Except Refusal Char :=
  match text.toList with
  | [] => refuseWith "empty tab"
  | [c] => .ok c
  | ['\\', '0'] => .ok '\x00'
  | _ => refuseWith ("multi-character tab " ++ quotedText text)

def settleOnce {α : Type} [BEq α] (before : Option α) (value : α) (text : String) :
    Except Refusal (Option α) :=
  if before.all (· == value) then .ok (some value) else refuseWith text

namespace Request

def settleCheck (r : Request) (c : Char) : Except Refusal Request :=
  if r.check.all (· == c) then .ok { r with check := some c } else incompatible "cC"

def take (r : Request) (option : Char × String) : Except Refusal Request := do
  let (c, text) := option
  let plain := fun (read : Except String Key) => read.mapError fun e => Refusal.plain [e]
  match c with
  | 'k' =>
    let key ← plain (Key.read text)
    return { r with keys := r.keys ++ [key] }
  | 'π' =>
    let words := text.splitOn " "
    match Key.readOldStart? ((words.headD "").toList.drop 1), words.tail with
    | some (place, order), [stop] =>
      let key ← plain (Key.readOldStop place order stop)
      return { r with keys := r.keys ++ [key] }
    | some (place, order), _ => return { r with keys := r.keys ++ [⟨place, none, order⟩] }
    | none, _ => return r
  | 'c' | 'C' => r.settleCheck c
  | 'α' =>
    if text = "" then r.settleCheck 'c'
    else
      match chooseRow "--check" [["quiet", "silent"], ["diagnose-first"]] text with
      | .ok n => r.settleCheck (if n = 0 then 'C' else 'c')
      | .error e => throw (.hinted e)
  | 'ζ' =>
    match chooseRow "--sort" (orderWords.map fun w => [w.1]) text with
    | .ok n => return { r with order := r.order.take .both ((orderWords.map Prod.snd).getD n 'n') }
    | .error e => throw (.hinted e)
  | 'β' =>
    let program ← settleOnce r.program text "multiple compress programs specified"
    return { r with program := program }
  | 'ε' =>
    let source ← settleOnce r.source text "multiple random sources specified"
    return { r with source := source }
  | 'o' =>
    let output ← settleOnce r.output text "multiple output files specified"
    return { r with output := output }
  | 't' =>
    let separator ← settleOnce r.separator (← readSeparator text) "incompatible tabs"
    return { r with separator := separator }
  | 'S' | 'σ' =>
    let _ ← readSize (if c = 'S' then "-S" else "--buffer-size") text
    return r
  | 'η' =>
    let n ← readCount "--batch-size" text
    if n < 2 then
      throw (.plain ["invalid --batch-size argument " ++ quotedText text,
        "minimum --batch-size argument is " ++ quotedText "2"])
    return r
  | 'θ' =>
    let n ← readCount "--parallel" text
    if n = 0 then refuseWith "number in parallel must be nonzero" else return r
  | 'δ' => return { r with names := some text }
  | 'm' => return { r with merge := true }
  | 's' => return { r with stable := true }
  | 'u' => return { r with unique := true }
  | 'z' => return { r with stop := '\x00' }
  | c => return if orderLetters.contains c then { r with order := r.order.take .both c } else r

def criteria (r : Request) : Except Refusal Criteria := do
  let keys := r.keys.map fun k =>
    if k.order.comparesAsIs && !k.order.has 'r' then { k with order := r.order } else k
  let keys := if keys.isEmpty && !r.order.comparesAsIs then [Key.wholeLine r.order] else keys
  match keys.findSome? fun k => k.order.conflict? with
  | some letters => incompatible letters
  | none => return ⟨r.separator, keys, r.order.has 'r', r.stable || r.unique⟩

end Request

def startsOldKey (text : String) : Bool :=
  text.startsWith "+" && (Key.readOldStart? (text.toList.drop 1)).isSome

def endsOldKey (text : String) : Bool :=
  match text.toList with
  | '-' :: d :: _ => d.isDigit
  | _ => false

def oldStart (waiting : Option String) : List String :=
  waiting.toList.map fun start => "--\x01=" ++ start

/-- Puts keys in their old form, some of which take two arguments, into that of an option; the
start of a key may be waiting for its end. -/
def joinOldKeys : Option String → List String → List String
  | waiting, [] => oldStart waiting
  | waiting, text :: rest =>
    let before := oldStart waiting
    match waiting, endsOldKey text with
    | some start, true => ("--\x01=" ++ start ++ " " ++ text) :: joinOldKeys none rest
    | _, _ =>
      if text = "--" then before ++ text :: rest
      else if startsOldKey text then before ++ joinOldKeys (some text) rest
      else before ++ text :: joinOldKeys none rest

def options : Options :=
  ⟨"bcCdfghik:mMno:rRsS:t:T:uVy::zα::β:γδ:ε:ζ:η:θ:σ:π:", [
    ("ignore-leading-blanks", 'b'), ("check", 'α'), ("compress-program", 'β'), ("debug", 'γ'),
    ("dictionary-order", 'd'), ("ignore-case", 'f'), ("files0-from", 'δ'),
    ("general-numeric-sort", 'g'), ("ignore-nonprinting", 'i'), ("key", 'k'), ("merge", 'm'),
    ("month-sort", 'M'), ("numeric-sort", 'n'), ("human-numeric-sort", 'h'),
    ("version-sort", 'V'), ("random-sort", 'R'), ("random-source", 'ε'), ("sort", 'ζ'),
    ("output", 'o'), ("reverse", 'r'), ("stable", 's'), ("batch-size", 'η'),
    ("buffer-size", 'σ'), ("field-separator", 't'), ("temporary-directory", 'T'),
    ("unique", 'u'), ("zero-terminated", 'z'), ("parallel", 'θ'), ("\x01", 'π')], false⟩

def fail (text : String) : Sh Nat := do
  blame "sort" text
  return 2

def accept {α : Type} (read : Except Refusal α) (body : α → Sh Nat) : Sh Nat := do
  match read with
  | .ok value => body value
  | .error (.hinted text) => refuse "sort" 1 text
  | .error (.plain lines) =>
    for line in lines do blame "sort" line
    return 2

def withNames (path : String) (operands : List String) (body : List String → Sh Nat) :
    Sh Nat := do
  match operands with
  | operand :: _ =>
    refuse "sort" 2 ("extra operand " ++ quotedName operand ++
      "\nfile operands cannot be combined with --files0-from")
  | [] =>
    match ← content path with
    | .error u =>
      if u.isFound then fail ("cannot read file names from " ++ quotedName path)
      else fail ("open failed: " ++ shownName path ++ ": " ++ u.text)
    | .ok cs =>
      let names := (partsBy '\x00' cs).map String.ofList
      match names.findIdx? fun name => name = "-" || name = "" with
      | some n =>
        if names[n]? = some "-" then
          fail ("when reading file names from stdin, no file name of '-' allowed")
        else fail (shownName path ++ ":" ++ toString (n + 1) ++ ": invalid zero-length file name")
      | none =>
        if names.isEmpty then fail ("no input from " ++ quotedName path) else body names

def readAll (s : Criteria) (stop : Char) : List String → Sh (Option (List (List Ranked)))
  | [] => return some []
  | operand :: rest => do
    match ← content operand with
    | .error u =>
      blameUnread "sort" operand u
      return none
    | .ok cs => return (← readAll s stop rest).map fun files => (partsBy stop cs).map s.rank :: files

def checkOrder (r : Request) (s : Criteria) (c : Char) (operands : List String) : Sh Nat := do
  match operands, r.output with
  | _ :: extra :: _, _ =>
    fail ("extra operand " ++ quotedName extra ++ " not allowed with -" ++ String.singleton c)
  | _, some _ => fail ("options '-" ++ String.singleton c ++ "o' are incompatible")
  | operands, none =>
    let operand := operands.headD "-"
    match ← content operand with
    | .error u =>
      if u.isFound then blameUnread "sort" operand u
      else blame "sort" ("open failed: " ++ shownName operand ++ ": " ++ u.text)
      return 2
    | .ok cs =>
      match s.firstDisorder r.unique 1 ((partsBy r.stop cs).map s.rank) with
      | none => return 0
      | some (n, line) =>
        if c = 'c' then
          Shell.note ((← ownName "sort") ++ ": " ++ operand ++ ":" ++ toString n ++
            ": disorder: " ++ line.line ++ String.singleton r.stop)
        return 1

def writeOutput (path text : String) : Sh Nat := do
  let number := (← get).nextNumber
  match ← Shell.openForWriting .fresh path with
  | .error e => fail ("open failed: " ++ shownName path ++ ": " ++ reason e)
  | .ok sink =>
    let t ← get
    let status ← match t.write (Shell.bytesOf text.toList) (some sink) with
      | .ok t => do
        set t
        pure 0
      | .error e => do
        blame "sort" ("fflush failed: " ++ shownName path ++ ": " ++ e.text)
        fail "write error"
    Shell.dropInputs number
    return status

def findMissing? (operands : List String) : Sh (Option (String × String)) := do
  let t ← get
  return operands.findSome? fun operand =>
    if operand = "-" then none
    else
      match t.files.stat t.folder (Shell.readable operand) with
      | .error e => some (operand, reason e)
      | .ok _ => none

def outputFault? (path : String) : Sh (Option String) := do
  let number := (← get).nextNumber
  match ← Shell.openForWriting .adding path with
  | .error e => return some (reason e)
  | .ok _ =>
    Shell.dropInputs number
    return none

def sortFiles (r : Request) (s : Criteria) (operands : List String) : Sh Nat := do
  match ← findMissing? operands with
  | some (operand, text) => fail (unfound "sort" operand text)
  | none =>
    let fault? ← match r.output with
      | some path => outputFault? path
      | none => pure none
    match fault? with
    | some text => fail ("open failed: " ++ shownName (r.output.getD "") ++ ": " ++ text)
    | none =>
      match ← readAll s r.stop operands with
      | none => return 2
      | some files =>
        let lines := files.flatten
        let sorted := if r.merge then s.mergeAll lines.length files else lines.mergeSort s.before
        let sorted := if r.unique then s.dropEqual sorted else sorted
        let text := String.join (sorted.map fun line => line.line ++ String.singleton r.stop)
        match r.output with
        | some path => writeOutput path text
        | none => emit "sort" text

end Sorting

open Sorting in
def sort : Tool := fun _ arguments =>
  withOptions "sort" 2 Sorting.options (joinOldKeys none arguments) fun g =>
    accept (g.options.foldlM Request.take Request.fresh) fun r => do
      let body := fun (operands : List String) =>
        accept r.criteria fun s =>
          match r.check with
          | some c => checkOrder r s c operands
          | none => sortFiles r s (if operands.isEmpty then ["-"] else operands)
      match r.names with
      | some path => withNames path g.operands body
      | none => body g.operands

end Assay.Utility
