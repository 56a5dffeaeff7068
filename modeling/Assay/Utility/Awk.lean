import Assay.Utility.Awk.Evaluator

/-!
# The awk utility

A program is carried out for the records of files: once at the start, for every
record that its rules select, and once at the end.
-/

set_option autoImplicit false

namespace Assay.Utility

open Shell (Sh Runner)

namespace Awk

structure Request where
  separator : Option String
  assignments : List (String × String)
  files : List String
  operands : List String
  version : Bool
  help : Bool

def Request.blank : Request := ⟨none, [], [], [], false, false⟩

def Request.takeOption (r : Request) (c : Char) (text : String) : Except String Request :=
  match c with
  | 'F' => .ok { r with separator := some text }
  | 'f' => .ok { r with files := r.files ++ [text] }
  | 'v' =>
    match assignment? text with
    | some a => .ok { r with assignments := r.assignments ++ [a] }
    | none => .error ("improper assignment: -v " ++ text)
  | _ =>
    let starts := fun (word : String) => text != "" && word.startsWith text
    let isNamed := fun (word : String) => (word ++ "=").isPrefixOf text
    if starts "version" then .ok { r with version := true }
    else if starts "help" || starts "usage" then .ok { r with help := true }
    else if starts "posix" || starts "interactive" || starts "compat" || starts "dump" ||
        starts "posix_space" || isNamed "random" || isNamed "sprintf" then .ok r
    else .error ("vacuous option: -W \"" ++ text ++ "\"")

def Request.take : Nat → Request → List String → Except String Request
  | 0, r, words => .ok { r with operands := words }
  | _, r, [] => .ok r
  | fuel + 1, r, word :: rest =>
    match word.toList with
    | ['-', '-'] => .ok { r with operands := rest }
    | ['-'] => .ok { r with operands := word :: rest }
    | '-' :: '-' :: cs =>
      match r.takeOption 'W' (String.ofList cs) with
      | .ok r => r.take fuel rest
      | .error _ => .error ("not an option: " ++ word)
    | '-' :: c :: cs =>
      if !"FfvW".toList.contains c then .error ("not an option: " ++ word)
      else if cs.isEmpty then
        match rest with
        | text :: rest => do (← r.takeOption c text).take fuel rest
        | [] => .error ("option -" ++ String.singleton c ++ " lacks argument")
      else do (← r.takeOption c (String.ofList cs)).take fuel rest
    | _ => .ok { r with operands := word :: rest }

def State.initial (environment : List (String × String)) (arguments : List String) : State :=
  let named := environment.foldl (fun (t : Table) (name, value) =>
    ((t.get (.text name)).2).set (.text name) (.input value)) Table.empty
  let numbered := arguments.zipIdx.foldl (fun (t : Table) (word, i) =>
    let k := Key.number (i : Nat)
    ((t.get k).2).set k (.input word)) Table.empty
  { values := Std.HashMap.ofList [
      ("NR", .ofNat 0), ("FNR", .ofNat 0), ("FS", .text " "), ("OFS", .text " "),
      ("RS", .text "\n"), ("ORS", .text "\n"), ("FILENAME", .text ""), ("SUBSEP", .text "\x1c"),
      ("CONVFMT", .text "%.6g"), ("OFMT", .text "%.6g"), ("RSTART", .ofNat 0),
      ("RLENGTH", .number (.ofInt (-1))), ("ARGC", .ofNat arguments.length)]
    tableNumbers := Std.HashMap.ofList [("ENVIRON", 0), ("ARGV", 1)]
    tables := #[named, numbered]
    locals := []
    record := ""
    isJoined := true
    fields := #[]
    isSplit := true
    separator := .blanks
    parting := .char '\n'
    ranges := []
    patterns := ∅
    written := []
    outputs := []
    sources := []
    current := none
    nextArgument := 1
    anyFile := false
    seed := .ofNat 0
    random := 20240123
    ticks := 0 }

/-- Carries something out, and tells the status that it ends the program with, if it does. -/
def endingOf (body : Work Unit) : Work (Option Nat) :=
  tryCatch (do
    body
    return none) fun ending =>
      match ending with
      | .exit status => return some status
      | .failed status => throw (.failed status)
      | _ => return none

def finish : Work Unit := do
  for o in (← getThe State).outputs do
    if o.isCommand then
      let _ ← closeOutput o
  flushAll true

def settled (before status : Nat) : Nat := if status = 256 then before else status

def performProgram (r : Request) : Work Nat := do
  let setup ← read
  if let some text := r.separator then
    let text := String.ofList (Lexer.resolve text.length text.toList)
    match Separator.read text with
    | .ok _ => setVariable "FS" (.text text)
    | .error e => panic ("line 0: " ++ e)
  for (name, value) in r.assignments do setVariable name (.input value)
  let rules := setup.program.rules
  let isStart := fun (r : Rule) => match r.selection with
    | .start => true
    | _ => false
  let isFinish := fun (r : Rule) => match r.selection with
    | .finish => true
    | _ => false
  let ended ← endingOf do
    for r in rules do
      if isStart r then performAll depthLimit r.body
  let main := (rules.zipIdx.map fun (r, i) => (i, r)).filter fun (_, r) =>
    !isStart r && !isFinish r
  let finishing := rules.filter isFinish
  let ended ← match ended with
    | some status => pure (some status)
    | none =>
      if main.isEmpty && finishing.isEmpty then pure none
      else endingOf (performRecords main depthLimit)
  let status := settled 0 (ended.getD 256)
  let last ← endingOf do
    for r in finishing do performAll depthLimit r.body
  return settled status (last.getD 256)

def leaveInput (s : State) : Sh Unit := do
  match (s.current.toList ++ s.sources).find? fun x => !x.isCommand && isInput x.name with
  | some x =>
    let read := (x.place + 4095) / 4096 * 4096
    Shell.leave (← Shell.standardInput) (x.text.toList.drop read)
  | none => return

def programIn : List String → Sh (Except (String × String) String)
  | [] => return .ok ""
  | path :: rest => do
    match ← content (if isInput path then "-" else path) with
    | .error u => return .error (path, u.text)
    | .ok cs =>
      match ← programIn rest with
      | .ok more =>
        return .ok (String.ofList cs ++ if rest.isEmpty then "" else "\n" ++ more)
      | .error e => return .error e

def serve (run : Runner) (own : String) (r : Request) (text : String) (operands : List String) :
    Sh Nat := do
  match readProgram r.files.head? text with
  | .error faults =>
    for text in faults do Shell.note (own ++ ": " ++ text ++ "\n")
    return 2
  | .ok program =>
    let start := (← get).nextNumber
    let environment := (← get).environment
    let state := State.initial environment (own :: operands)
    let work : Work Nat := do
      let status ← tryCatch (performProgram r) fun ending => do
        finish
        throw ending
      finish
      return status
    let (result, s) ← (work.run ⟨program, own, run⟩).run.run state
    leaveInput s
    Shell.dropInputs start
    match result with
    | .ok status => return status
    | .error (.failed status) => return status
    | .error _ => return 2

end Awk

def awkUsage : String := joinLines [
  "Usage: mawk [Options] [Program] [file ...]", "",
  "Program:",
  "    The -f option value is the name of a file containing program text.",
  "    If no -f option is given, a \"--\" ends option processing; the following",
  "    parameters are the program text.", "",
  "Options:",
  "    -f program-file  Program  text is read from file instead of from the",
  "                     command-line.  Multiple -f options are accepted.",
  "    -F value         sets the field separator, FS, to value.",
  "    -v var=value     assigns value to program variable var.",
  "    --               unambiguous end of options.", "",
  "    Implementation-specific options are prefixed with \"-W\".  They can be",
  "    abbreviated:", "",
  "    -W version       show version information and exit.",
  "    -W compat        pre-POSIX 2001.",
  "    -W dump          show assembler-like listing of program and exit.",
  "    -W help          show this message and exit.",
  "    -W interactive   set unbuffered output, line-buffered input.",
  "    -W exec file     use file as program as well as last option.",
  "    -W posix         stricter POSIX checking.",
  "    -W random=number set initial random seed.",
  "    -W sprintf=number adjust size of sprintf buffer.",
  "    -W usage         show this message and exit."]

open Awk in
def awk : Tool := fun run arguments => do
  let own := ((← get).name.splitOn "/").getLast?.getD "awk"
  match Request.blank.take (2 * arguments.length + 1) arguments with
  | .error text =>
    Shell.note (own ++ ": " ++ text ++ "\n")
    return 2
  | .ok r =>
    if r.version then return ← emit own "mawk 1.3.4 20240123\n"
    if r.help then
      Shell.note awkUsage
      return 0
    if !r.files.isEmpty then
      match ← programIn r.files with
      | .ok text => serve run own r text r.operands
      | .error (path, reason) =>
        Shell.note (own ++ ": cannot open \"" ++ path ++ "\" (" ++ reason ++ ")\n")
        return 2
    else
      match r.operands with
      | [] =>
        Shell.note awkUsage
        return 0
      | text :: operands => serve run own r text operands

end Assay.Utility
