import Assay.Host.Entry

/-!
# Rights

The rights to a node are bits: three each for its owner, its group and the
others, and three special ones. They are given as octal digits, or as changes
to the bits that there are.
-/

set_option autoImplicit false

namespace Assay

namespace Rights

def every : Nat := 0o7777

def people (letters : List Char) : Nat :=
  letters.foldl (fun bits c => bits ||| match c with
    | 'u' => 0o4700
    | 'g' => 0o2070
    | 'o' => 0o1007
    | _ => every) 0

/-- What a change of rights does with its bits. -/
inductive Operation where
  | give
  | take
  | set
deriving DecidableEq

inductive Source where
  | bits (n : Nat) (runsWhereRun : Bool)
  | ofPeople (c : Char)

structure Change where
  affected : Nat
  operation : Operation
  source : Source
  mentioned : Nat

def operation? : Char → Option Operation
  | '+' => some .give
  | '-' => some .take
  | '=' => some .set
  | _ => none

def letterBits : Char → Nat
  | 'r' => 0o444
  | 'w' => 0o222
  | 'x' => 0o111
  | 's' => 0o6000
  | 't' => 0o1000
  | _ => 0

def isOctal (c : Char) : Bool := decide ('0' ≤ c ∧ c ≤ '7')

def ofOctal? (digits : List Char) : Option Nat :=
  let n := digits.foldl (fun n c => n * 8 + (c.toNat - '0'.toNat)) 0
  if n ≤ every then some n else none

def readOperations : Nat → Nat → List Char → Option (List Change × List Char)
  | 0, _, _ => none
  | fuel + 1, affected, cs =>
    match cs with
    | [] => some ([], [])
    | ',' :: _ => some ([], cs)
    | sign :: cs =>
      match operation? sign with
      | none => none
      | some operation =>
        if cs.head?.any isOctal then
          let (digits, rest) := cs.span isOctal
          if affected ≠ 0 || !(rest.head?.all (· == ',')) then none
          else (ofOctal? digits).map fun n => ([⟨every, operation, .bits n false, every⟩], rest)
        else
          let (source, mentioned, rest) := match cs with
            | c :: more =>
              if c = 'u' || c = 'g' || c = 'o' then (Source.ofPeople c, 0, more)
              else
                let (letters, rest) := cs.span fun c => "rwxXst".toList.contains c
                let bits := letters.foldl (fun bits c => bits ||| letterBits c) 0
                (Source.bits bits (letters.contains 'X'), bits, rest)
            | [] => (Source.bits 0 false, 0, [])
          let mentioned := if affected = 0 then mentioned else mentioned &&& affected
          (readOperations fuel affected rest).map fun (more, tail) =>
            (⟨affected, operation, source, mentioned⟩ :: more, tail)

def readChanges : Nat → List Char → Option (List Change)
  | 0, _ => none
  | fuel + 1, cs => do
    let (letters, rest) := cs.span fun c => "ugoa".toList.contains c
    if (rest.head?.bind operation?).isNone then none
    else
      let (changes, tail) ← readOperations (rest.length + 1) (people letters) rest
      match tail with
      | [] => return changes
      | _ :: more => return changes ++ (← readChanges fuel more)

def read? (text : String) : Option (List Change) :=
  let cs := text.toList
  if cs.head?.any isOctal then
    if cs.all isOctal then
      (ofOctal? cs).map fun n =>
        [⟨every, .set, .bits n false, if 4 < cs.length then every else n &&& every⟩]
    else none
  else readChanges (cs.length + 1) cs

def spread (mode : Nat) (c : Char) : Nat :=
  let three := match c with
    | 'u' => mode / 64 % 8
    | 'g' => mode / 8 % 8
    | _ => mode % 8
  three * 0o111

def Change.apply (c : Change) (mask : Nat) (isFolder : Bool) (mode : Nat) : Nat :=
  let kept := if isFolder then 0o6000 &&& (every - c.mentioned) else 0
  let bits := match c.source with
    | .ofPeople p => spread mode p
    | .bits n runsWhereRun =>
      n ||| if runsWhereRun && (isFolder || mode &&& 0o111 != 0) then 0o111 else 0
  let allowed := (if c.affected = 0 then every - mask else c.affected) &&& (every - kept)
  let bits := bits &&& allowed
  match c.operation with
  | .give => mode ||| bits
  | .take => mode &&& (every - bits)
  | .set =>
    (mode &&& ((if c.affected = 0 then 0 else every - c.affected) ||| kept)) ||| bits

def applyAll (changes : List Change) (mask : Nat) (isFolder : Bool) (mode : Nat) : Nat :=
  changes.foldl (fun mode c => c.apply mask isFolder mode) mode

def letters (three : Nat) (marked : Bool) (lower upper : String) : String :=
  (if 4 ≤ three then "r" else "-") ++ (if 2 ≤ three % 4 then "w" else "-") ++
    if marked then (if three % 2 = 1 then lower else upper)
    else if three % 2 = 1 then "x" else "-"

def text (mode : Nat) : String :=
  letters (mode / 64 % 8) (mode &&& 0o4000 != 0) "s" "S" ++
    letters (mode / 8 % 8) (mode &&& 0o2000 != 0) "s" "S" ++
    letters (mode % 8) (mode &&& 0o1000 != 0) "t" "T"

def kindLetter : Entry → String
  | .folder => "d"
  | .link _ => "l"
  | .device _ => "c"
  | .pipe => "p"
  | _ => "-"

def digits (mode : Nat) : String :=
  let ds := Nat.toDigits 8 mode
  String.ofList (List.replicate (4 - ds.length) '0' ++ ds)

end Rights

end Assay
