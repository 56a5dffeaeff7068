import Assay.Utility.Copying
import Assay.Utility.Facts
import Assay.Utility.Listing

/-!
# Files and their sizes

Files are touched, listed and copied by name, and cut or filled up to a size.
-/

set_option autoImplicit false

namespace Assay.Utility

/-!
## Sizes of files

A file is given a size, which may depend on the one that it or another file has.
-/

open Shell (Sh octets readable Session)

inductive SizeChange where
  | exactly
  | by_
  | atMost
  | atLeast
  | downTo
  | upTo
deriving DecidableEq

namespace SizeChange

def read (text : String) : Except String (SizeChange × Int) := do
  let isBlank := fun (c : Char) => c == ' ' || decide ('\t' ≤ c ∧ c ≤ '\x0d')
  let (change, cs) : SizeChange × List Char := match text.toList.dropWhile isBlank with
    | '<' :: cs => (.atMost, cs)
    | '>' :: cs => (.atLeast, cs)
    | '/' :: cs => (.downTo, cs)
    | '%' :: cs => (.upTo, cs)
    | cs => (.exactly, cs)
  let cs := cs.dropWhile isBlank
  let isSigned := cs.head? == some '+' || cs.head? == some '-'
  if isSigned && change != .exactly then
    throw "multiple relative modifiers specified\n"
  let n ← Numeral.bounded "EgGkKmMPQRtTYZ0" true (Numeral.lowest true) (Numeral.highest true)
    "Invalid number" (String.ofList cs)
  if (change == .downTo || change == .upTo) && n = 0 then throw "division by zero"
  return (if isSigned then .by_ else change, n)

def apply (change : SizeChange) (n : Int) (old : Nat) : Nat :=
  match change with
  | .exactly => n.toNat
  | .by_ => (old + n).toNat
  | .atMost => min old n.toNat
  | .atLeast => max old n.toNat
  | .downTo => old / n.toNat * n.toNat
  | .upTo => (old + n.toNat - 1) / n.toNat * n.toNat

end SizeChange

def largestFile : Nat := 17592186040320

def truncatePath (g : Given) (sizeFor : Nat → Nat) (path : String) : Sh Nat := do
  let s ← get
  let found ← entryAt path
  if g.has 'c' && found matches .error .notFound then return 0
  match s.files.obtain s.making s.folder (readable path) with
  | .error e =>
    blame "truncate" ("cannot open " ++ quotedName path ++ " for writing: " ++ reason e)
    return 1
  | .ok (files, node) =>
    let size := sizeFor ((files.contentOf? node).getD []).length
    if largestFile < size then
      set (s.withFiles files)
      blame "truncate" ("failed to truncate " ++ quotedName path ++ " at " ++ toString size ++
        " bytes: File too large")
      return 1
    set ((s.withFiles files).rewrite node fun content =>
      content.take size ++ List.replicate (size - content.length) 0)
    return 0

def truncate : Tool := fun _ arguments =>
  withOptions "truncate" 1 ⟨"cor:s:", [("no-create", 'c'), ("io-blocks", 'o'), ("reference", 'r'),
    ("size", 's')], false⟩ arguments fun g => do
    let read := ((g.options.filter fun o => o.1 == 's').map Prod.snd).mapM SizeChange.read
    match read with
    | .error text =>
      if text.endsWith "\n" then refuse "truncate" 1 (text.dropEnd 1).toString
      else
        blame "truncate" text
        return 1
    | .ok sizes =>
      let asked := sizes.getLast?.map Prod.snd
      let change := ((sizes.map Prod.fst).filter (· != .exactly)).getLastD .exactly
      match asked, g.text? 'r' with
      | none, none => refuse "truncate" 1 "you must specify either ‘--size’ or ‘--reference’"
      | none, some model =>
        if g.has 'o' then
          refuse "truncate" 1 "‘--io-blocks’ was specified but ‘--size’ was not"
        else modelled g model fun base _ => base
      | some n, some model =>
        if change = .exactly then
          refuse "truncate" 1 "you must specify a relative ‘--size’ with ‘--reference’"
        else modelled g model fun base _ => change.apply (scaled g n) base
      | some n, none => all g (change.apply (scaled g n))
where
  scaled (g : Given) (n : Int) : Int := if g.has 'o' then n * 4096 else n
  all (g : Given) (sizeFor : Nat → Nat) : Sh Nat :=
    if g.operands.isEmpty then refuse "truncate" 1 "missing file operand"
    else forEach (truncatePath g sizeFor) 0 g.operands
  modelled (g : Given) (model : String) (sizeFor : Nat → Nat → Nat) : Sh Nat := do
    if g.operands.isEmpty then return ← refuse "truncate" 1 "missing file operand"
    match ← nodeAt true model with
    | .error e =>
      blame "truncate" ("cannot stat " ++ quotedName model ++ ": " ++ reason e)
      return 1
    | .ok n => all g (sizeFor (entrySize n.entry))

end Assay.Utility

namespace Assay.Utility

/-!
## Utilities on files

What is read is written to several files, and programs are found.
-/

open Shell (Sh octets readable Session)

/-- Opens files to be written. Those that cannot be opened are said, and leave a status. -/
def openAllFor (name : String) (m : Shell.WritingMode) :
    List String → Sh (List (String × Shell.Sink) × Nat)
  | [] => return ([], 0)
  | path :: rest => do
    match ← Shell.openForWriting m path with
    | .ok sink =>
      let (more, status) ← openAllFor name m rest
      return ((path, sink) :: more, status)
    | .error e =>
      blame name (shownName path ++ ": " ++ reason e)
      let (more, _) ← openAllFor name m rest
      return (more, 1)

/-- Writes to a file that has been opened, or says why that is impossible. -/
def writeTo (name : String) (bytes : Bytes) (opened : String × Shell.Sink) : Sh Nat := do
  match (← get).write bytes (some opened.2) with
  | .ok s =>
    set s
    return 0
  | .error e =>
    blame name (shownName opened.1 ++ ": " ++ e.text)
    return 1

def tee : Tool := fun _ arguments =>
  withOptions "tee" 1 ⟨"aip", [("append", 'a')], false⟩ arguments fun g => do
    let number := (← get).nextNumber
    let mode : Shell.WritingMode := if g.has 'a' then .adding else .fresh
    let (opened, status) ← openAllFor "tee" mode g.operands
    let given ← input? "tee"
    let cs := given.getD []
    let status ← emitWith "tee" (if given.isNone then 1 else status) (String.ofList cs)
    let status ← opened.foldlM
      (fun status o => return max status (← writeTo "tee" (Shell.bytesOf cs) o)) status
    Shell.dropInputs number
    return status

def frontLetters : List String → List Char × List String
  | [] => ([], [])
  | word :: rest =>
    match word.toList with
    | ['-', '-'] => ([], rest)
    | '-' :: c :: cs =>
      let (more, words) := frontLetters rest
      (c :: cs ++ more, words)
    | _ => ([], word :: rest)

def which : Tool := fun _ arguments => do
  let s ← get
  let (letters, names) := frontLetters arguments
  match letters.find? fun c => c != 'a' && c != 's' with
  | some c =>
    Shell.note ("Illegal option -" ++ String.singleton c ++ "\n")
    let _ ← emit "which" ("Usage: " ++ (s.searchPaths "which").headD "which" ++ " [-as] args\n")
    return 2
  | none =>
    let found := names.map fun name =>
      let paths := (if name.contains '/' then [name] else s.searchPaths name).filter fun path =>
        (s.programAt path).toBool
      if letters.contains 'a' then paths else paths.take 1
    let status ← if letters.contains 's' then pure 0
      else emit "which" (joinLines found.flatten)
    return if !found.isEmpty && found.all fun paths => !paths.isEmpty then status else 1

end Assay.Utility
