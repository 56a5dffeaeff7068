import Assay.Shell.Call

/-!
# Carrying out commands

A command is carried out by handing what it consists of to a runner, with what
its place says about how that is done.
-/

set_option autoImplicit false

namespace Assay.Shell

/-- How something in a loop was left. -/
inductive Passed where
  | through
  | again
  | over
deriving DecidableEq, Repr

/-- Carries something out within a loop. Jumps that concern more loops go on. -/
def passing (body : Sh Unit) : Sh Passed := do
  try
    body
    return .through
  catch
    | .leave n => if 1 < n then throw (.leave (n - 1)) else return .over
    | .again n => if 1 < n then throw (.again (n - 1)) else return .again
    | h => throw h

def withinLoop (body : Sh Unit) : Sh Unit := do
  modify fun s => { s with loops := s.loops + 1 }
  let leave : Sh Unit := modify fun s => { s with loops := s.loops - 1 }
  try
    body
    leave
  catch h =>
    leave
    throw h

def roundLimit : Nat := 1000000000

def conditionRounds (run : Runner) (mode : Mode) (whileTrue : Bool) (condition body : Command) :
    Nat → Nat → Sh Unit
  | 0, _ => throw .never
  | n + 1, status => do
    match ← passing (run (.command ⟨true, false⟩ condition)) with
    | .over => setStatus status
    | .again => conditionRounds run mode whileTrue condition body n status
    | .through =>
      if ((← get).status == 0) != whileTrue then setStatus status
      else
        match ← passing (run (.command mode body)) with
        | .over => return
        | _ => conditionRounds run mode whileTrue condition body n (← get).status

def valueRounds (run : Runner) (mode : Mode) (name : String) (body : Command) :
    List String → Sh Unit
  | [] => return
  | value :: rest => do
    setVariable name value
    match ← passing (run (.command mode body)) with
    | .over => return
    | _ => valueRounds run mode name body rest

def matchesAny (run : Runner) (text : List Char) : List Word → Sh Bool
  | [] => return false
  | w :: rest => do
    if PatternItem.matchesAll (← patternOf run w) text then return true
    matchesAny run text rest

def chooseArm (run : Runner) (text : List Char) : List (List Word × Command) → Sh Command
  | [] => return .nothing
  | (patterns, body) :: rest => do
    if ← matchesAny run text patterns then return body
    chooseArm run text rest

def runBranch (run : Runner) (mode : Mode) : Command → Sh Unit
  | .nothing => setStatus 0
  | c => run (.command mode c)

def detachRedirections : Command → List Redirection × Command
  | .simple line assignments words rs => (rs, .simple line assignments words [])
  | .redirected _ body rs => (rs, body)
  | .subshell line body rs => (rs, .subshell line body [])
  | c => ([], c)

def performOrFail (run : Runner) (openings : List Opening) : Sh Unit := do
  match ← performAll run openings with
  | none => return
  | some text => abort text

def atLine (line : Nat) : Sh Unit := modify fun s => { s with line := line }

def pipeCount : Command → Nat
  | .pipe source target => pipeCount source + pipeCount target + 1
  | _ => 0

def lookUpAll : Command → Sh Unit
  | .simple _ _ (w :: _) _ =>
    match Word.plain? w with
    | some name => if isName name then keepProgram name else pure ()
    | none => return
  | .pipe source target => do
    lookUpAll source
    lookUpAll target
  | _ => return

def evalOne (run : Runner) (mode : Mode) : Command → Sh Unit
  | .nothing => return
  | .simple line assignments words redirections => do
    callSimple run mode line assignments words redirections
    checkFailure mode
  | .sequence first second => do
    run (.command { mode with last := false } first)
    run (.command mode second)
  | .conjunction first second => do
    run (.command ⟨true, false⟩ first)
    if (← get).status = 0 then run (.command mode second)
  | .disjunction first second => do
    run (.command ⟨true, false⟩ first)
    if (← get).status ≠ 0 then run (.command mode second)
  | .negation body => do
    run (.command ⟨true, false⟩ body)
    modify fun s => { s with status := if s.status = 0 then 1 else 0 }
  | .pipe source target => do
    let mode := { mode with last := true }
    lookUpAll source
    let ended ← runPipe run (run (.command mode source)) do
      lookUpAll target
      run (.command mode target)
    lookUpAll target
    setStatus (← report ended)
    checkFailure mode
  | .background body => do
    let (redirections, body) := detachRedirections body
    runBackground run (pipeCount body) (do performOrFail run (← openAll run redirections))
      (run (.command .final body))
  | .branch condition success failure => do
    run (.command ⟨true, false⟩ condition)
    if (← get).status = 0 then runBranch run mode success else runBranch run mode failure
  | .loop whileTrue condition body =>
    withinLoop
      (conditionRounds run { mode with last := false } whileTrue condition body roundLimit 0)
  | .each line name words body => do
    atLine line
    let values ← allFields run words
    if values.isEmpty then setStatus 0
    else withinLoop (valueRounds run { mode with last := false } name body values)
  | .choice line subject arms => do
    atLine line
    let text ← textOf run subject
    runBranch run mode (← chooseArm run text.toList arms)
  | .redirected line body redirections => do
    atLine line
    redirected run (checkFailure mode) redirections
      (run (.command { mode with last := false } body))
  | .subshell line body redirections => do
    atLine line
    let openings ← openAll run redirections
    let inner : Sh Unit := do
      performOrFail run openings
      run (.command { mode with last := true } body)
    if mode.last && (← get).traps.isEmpty then inner
    else setStatus (← report (← asProcess run inner))
    checkFailure mode
  | .define name _ body =>
    modify fun s => { s with
      functions := (name, body) :: s.functions.filter fun f => f.1 != name
      status := 0 }

def evalCommand (run : Runner) (mode : Mode) (c : Command) : Sh Unit := do
  if !(← get).has 'n' then evalOne run mode c

/-- Carries out the lines of a script. Only the last one may put a program in the place
of the shell. -/
def runLines (run : Runner) (mode : Mode) : Nat → Source → Sh Unit
  | 0, _ => throw .never
  | n + 1, source => do
    let s ← get
    let source := { source with
      aliases := s.aliases
      documents := s.documents
      nextDocument := s.nextNumber }
    match source.nextLine with
    | .error f =>
      modify fun s => { s with line := f.line, reached := f.line }
      abort f.text
    | .ok (none, _) => return
    | .ok (some c, rest) =>
      if s.has 'v' then
        note (String.ofList (source.rest.take (source.rest.length - rest.rest.length)))
      modify fun s => { s with
        documents := rest.documents
        nextNumber := rest.nextDocument
        reached := rest.line }
      let isLast := rest.pushed.any fun t => match t with
        | .finish => true
        | _ => false
      run (.command { mode with last := mode.last && isLast } c)
      runLines run mode n rest

end Assay.Shell
