import Assay.Utility.Sed.Round

/-!
# The sed utility

Lines are edited as a script says, and written, or put in the place of those in
the files that they come from.
-/

set_option autoImplicit false

namespace Assay.Utility

open Shell (Sh Runner)

namespace Sed

def leadingNumber (text : String) : Nat :=
  (text.toList.takeWhile Char.isDigit).foldl (fun n c => n * 10 + (c.toNat - '0'.toNat)) 0

def Scan.begin (s : Scan) (origin : Origin) (text : List Char) : Scan :=
  { s with rest := text, place := 0, line := 1, origin := origin }

/-- Reads the parts of a script that options give, of which so many have been arguments. -/
def parts (number : Nat) : List (Char × String) → Scan → Sh (Except Nat Scan)
  | [], s => return .ok s
  | (c, text) :: rest, s => do
    match c with
    | 'E' | 'r' => parts number rest { s with extended := true }
    | 'e' =>
      match part.run (s.begin (.argument (number + 1)) text.toList) with
      | (.ok _, s) => parts (number + 1) rest { s with isFirst := false }
      | (.error e, s) => refuseScript s e
    | 'f' =>
      match ← content text with
      | .error u =>
        if u.isFound then parts number rest { s with origin := .file text, isFirst := false }
        else
          blame "sed" ("couldn't open file " ++ text ++ ": " ++ u.text)
          return .error 4
      | .ok cs =>
        match part.run (s.begin (.file text) cs) with
        | (.ok _, s) => parts number rest { s with isFirst := false }
        | (.error e, s) => refuseScript s e
    | _ => parts number rest s
where
  refuseScript (s : Scan) (text : String) : Sh (Except Nat Scan) := do
    for name in s.files.reverse do
      match ← Shell.openForWriting .fresh name with
      | .ok _ => pure ()
      | .error e =>
        blame "sed" ("couldn't open file " ++ name ++ ": " ++ reason e)
        return .error 4
    blame "sed" text
    return .error 1

def outlets : List String → Sh (Except Nat (List Outlet))
  | [] => return .ok []
  | name :: rest => do
    match ← Shell.openForWriting .fresh name with
    | .error e =>
      blame "sed" ("couldn't open file " ++ name ++ ": " ++ reason e)
      return .error 4
    | .ok sink =>
      match ← outlets rest with
      | .ok more => return .ok (⟨name, sink, []⟩ :: more)
      | .error status => return .error status

def edit (setup : Setup) (os : List Outlet) (operands : List String) : Sh Nat := do
  let start : State :=
    { line := .empty
      hold := .empty
      number := 0
      replaced := false
      ranges := startRanges setup.program
      lastPattern := none
      appended := []
      name := "-"
      current := none
      whole := []
      lines := []
      operands := operands
      output := []
      edited := []
      unended := []
      outlets := os
      supplies := []
      status := 0 }
  let work : Editing Unit := do
    rounds roundLength
    closeCurrent
    flushOutlets
  let (result, s) ← (work.run setup).run.run start
  let status := match result with
    | .ok _ => s.status
    | .error status => status
  if operands.getLast? == some "-" && s.operands.isEmpty then
    let sizes := s.lines.map fun l => (if setup.wide then narrow l.text else l.text).length + 1
    let left := sizes.foldl (· + ·) 0
    leaveBehind (if setup.unbuffered then 1 else 4096) (s.whole.length - left) s.whole
  emitWith "sed" status (String.join s.output.reverse)

end Sed

def sedOptions : Options :=
  ⟨"nEre:f:i::szubl:αβγδ", [("quiet", 'n'), ("silent", 'n'), ("regexp-extended", 'E'),
    ("expression", 'e'), ("file", 'f'), ("in-place", 'i'), ("separate", 's'), ("null-data", 'z'),
    ("zero-terminated", 'z'), ("unbuffered", 'u'), ("binary", 'b'), ("line-length", 'l'),
    ("posix", 'α'), ("debug", 'β'), ("follow-symlinks", 'γ'), ("version", 'δ')], false⟩

def sedUsage : String :=
  "Usage: sed [OPTION]... \x7bscript-only-if-no-other-script\x7d [input-file]...\n\n"

open Sed in
def sed : Tool := fun run arguments => do
  match sedOptions.parseAll arguments with
  | .error text =>
    blame "sed" text
    Shell.note sedUsage
    return 1
  | .ok (options, operands) =>
    let g : Given := ⟨options, operands⟩
    if g.has 'δ' then return ← emit "sed" "sed (GNU sed) 4.9\n"
    let isWritten := g.has 'e' || g.has 'f'
    if !isWritten && operands.isEmpty then
      Shell.note sedUsage
      return 1
    let (script, operands) :=
      if isWritten then ([], operands) else ([('e', operands.headD "")], operands.drop 1)
    let wide ← isWide
    let blank : Scan := ⟨[], 0, 1, .argument 1, true, false, wide, none, [], [], false, []⟩
    match ← parts 0 (options ++ script) blank with
    | .error status => return status
    | .ok scanned =>
      let (concluded, scanned) := conclude.run scanned
      let number := (← get).nextNumber
      match ← outlets scanned.files.reverse with
      | .error status => return status
      | .ok os =>
        let commands := scanned.commands.reverse
        if let .error text := concluded then
          blame "sed" text
          return 1
        if let some name := missingLabel? commands then
          blame "sed" ("can't find label for jump to \x60" ++ name ++ "'")
          return 4
        let suffix := g.text? 'i'
        if suffix.isSome && operands.isEmpty then
          blame "sed" "no input files"
          return 4
        let setup : Setup :=
          { program := commands.zipIdx.map fun (c, i) => (i, c)
            quiet := g.has 'n' || scanned.quiet
            separate := g.has 's' || suffix.isSome
            suffix := suffix
            stop := if g.has 'z' then '\x00' else '\n'
            unbuffered := g.has 'u'
            strict := g.has 'α'
            wide := wide
            width := ((g.text? 'l').map leadingNumber).getD 70
            place := shownPlace scanned.origin scanned.line 0
            run := run }
        let status ← edit setup os (if operands.isEmpty then ["-"] else operands)
        Shell.dropInputs number
        return status

end Assay.Utility
