import Assay.Shell.Builtin.Flow
import Assay.Shell.Builtin.Input
import Assay.Shell.Builtin.Names
import Assay.Shell.Builtin.Place
import Assay.Shell.Grammar

/-!
# Calls

The commands of the shell by their names, and what the first word of a simple
command calls.
-/

set_option autoImplicit false

namespace Assay.Shell

/-! ## The commands of the shell by their names -/

def builtins : List Builtin :=
  outputBuiltins ++ inputBuiltins ++ flowBuiltins ++ nameBuiltins ++ placeBuiltins

def builtin? (name : String) : Option Builtin := builtins.find? fun b => b.name == name

/-- Runs a command of the shell. The faults of one that is not special only concern it. -/
def Builtin.perform (b : Builtin) (run : Runner) (mode : Mode) (firm : Bool)
    (arguments : List String) : Sh Unit :=
  underName b.name do
    try setStatus (← b.body run mode arguments)
    catch
      | .fail => if firm then throw .fail
      | h => throw h

/-!
## Simple commands

The words of a simple command are expanded, its redirections and assignments
are made, and what its first word stands for is called: a function, a command
of the shell, or a program.
-/

def callLimit : Nat := 1000

def checkFailure (mode : Mode) : Sh Unit := do
  let s ← get
  if s.has 'e' && !mode.tested && s.status != 0 then throw .exit

def callFunction (run : Runner) (mode : Mode) (body : Command) (arguments : List String) :
    Sh Unit := do
  let s ← get
  if callLimit ≤ s.frames.length then
    abort ("Maximum function recursion depth (" ++ toString callLimit ++ ") reached")
  set { s with
    arguments := arguments
    frames := [] :: s.frames
    loops := 0
    cursor := ⟨1, none⟩ }
  let finish : Sh Unit := modify fun t => { t.restore (t.frames.headD []) with
    arguments := s.arguments
    frames := s.frames
    loops := s.loops
    cursor := s.cursor }
  try
    run (.command { mode with last := false } body)
    finish
  catch
    | .back => finish
    | h => do
      finish
      throw h

def refuseProgram (name : String) (u : Unstartable) : Sh Unit := do
  complain (name ++ ": " ++ u.reason)
  setStatus u.status

def callProgram (run : Runner) (mode : Mode) (name : String) (arguments : List String) :
    Sh Unit := do
  let s ← get
  match s.findProgram name with
  | .error u => refuseProgram name u
  | .ok p =>
    modify fun s => s.keepFound name
    let work := Work.program p name arguments
    if mode.last && s.traps.isEmpty then run work
    else setStatus (← report (← asProcess run (run work)))

def exec (run : Runner) : List String → Sh Unit
  | [] => setStatus 0
  | name :: arguments => do
    match (← get).findProgram name with
    | .error u => refuseProgram name u
    | .ok p =>
      modify fun s => { s with traps := s.traps.filter fun t => t.2 == "" }
      run (.program p name arguments)
    throw .exit

/-- What a command is prepared with: its words, and how faults are taken. -/
structure Call where
  name : String
  arguments : List String
  functions : Bool
  firm : Bool

def throughCommand (arguments : List String) : Sh (List Char × List String) := do
  let (options, words) ← optionsOf "pvV" arguments
  return (options.map Prod.fst, words)

def callNamed (run : Runner) (mode : Mode) : Nat → Call → Sh Unit
  | 0, _ => throw .never
  | fuel + 1, c => do
    let s ← get
    match if c.functions then s.functions.find? fun f => f.1 == c.name else none with
    | some (_, body) => callFunction run mode body c.arguments
    | none =>
      if c.name = "command" then
        let parsed ← underName c.name do
          try return some (← throughCommand c.arguments)
          catch
            | .fail => return none
            | h => throw h
        match parsed with
        | none => return
        | some (options, words) =>
          match options.getLast?, words with
          | some 'v', words => setStatus (← underName c.name (describeOne false words))
          | some 'V', words => setStatus (← underName c.name (describeOne true words))
          | _, [] => setStatus 0
          | _, name :: arguments => callNamed run mode fuel ⟨name, arguments, false, false⟩
      else if c.name = "exec" then
        underName c.name (exec run c.arguments)
      else
        match builtin? c.name with
        | some b => b.perform run mode (c.firm && b.isSpecial) c.arguments
        | none => callProgram run mode c.name c.arguments

def assignmentsLast (s : Session) (name : String) : Bool :=
  isSpecialCommand name && !s.functions.any fun f => f.1 == name

/-- Fields of the words behind the first one. Assignments are not split where a command
takes them. -/
def restFields (run : Runner) (assigning : Bool) : List Word → Sh (List String)
  | [] => return []
  | w :: rest => do
    let fields ← match if assigning then Reading.assignment? w else none with
      | some (name, value) => do
        let text ← valueOf run value
        pure [name ++ "=" ++ text]
      | none => fieldsOf run w
    return fields ++ (← restFields run assigning rest)

def commandFields (run : Runner) : List Word → Sh (List String)
  | [] => return []
  | w :: rest => do
    match ← fieldsOf run w with
    | [] => commandFields run rest
    | name :: more =>
      let assigning := (builtin? name).any Builtin.isAssigning
      return name :: more ++ (← restFields run assigning rest)

/-- Makes assignments, of which each sees those before it. Yields them as they are shown. -/
def assignAll (run : Runner) : List (String × Word) → Sh (List String)
  | [] => return []
  | (name, word) :: rest => do
    let text ← valueOf run word
    setVariable name text
    return (name ++ "=" ++ text) :: (← assignAll run rest)

/-- How long assignments in front of a command last, and whether they are passed on to
programs. -/
structure Scope where
  lasting : Bool
  passedOn : Bool

/-- Carries something out under assignments, which it is shown with. Those that do not last
are taken back. -/
def assigning (run : Runner) (scope : Scope) (shown : List String)
    (body : List String → Sh Unit) : List (String × Word) → Sh Unit
  | [] => body shown.reverse
  | (name, word) :: rest => do
    let text ← valueOf run word
    let before := Saved.binding name ((← get).binding? name)
    setVariable name text
    if scope.passedOn then modify fun s => s.passOn name
    let inner := assigning run scope ((name ++ "=" ++ text) :: shown) body rest
    if scope.lasting then inner
    else
      try
        inner
        modify fun s => s.restoreOne before
      catch h =>
        modify fun s => s.restoreOne before
        throw h

/-- Shows a command before it is carried out, where that has been asked for. It is shown
where diagnostics went before the redirections of the command. -/
def traceCommand (run : Runner) (errors : Option Sink) (shown : List String) : Sh Unit := do
  let s ← get
  if s.has 'x' then
    let n := s.getD "PS4"
    let mark ← if n.contains '$' || n.contains '\x60' then expandPrompt run n else pure n
    noteTo errors (mark ++ String.intercalate " " shown ++ "\n")
where
  expandPrompt (run : Runner) (text : String) : Sh String := do
    let s ← get
    let source := { s.source text.toList with line := s.line }
    match (Reading.pieces (fun _ => return .nothing) false (2 * text.length + 2) .document
      .empty).run source with
    | .ok (word, _) => documentText run word
    | .error _ => return text

def callSimple (run : Runner) (mode : Mode) (line : Nat) (assignments : List (String × Word))
    (words : List Word) (redirections : List Redirection) : Sh Unit := do
  spend 1
  modify fun s => { s with line := line, substituted := 0 }
  let errors := (← get).sink? 2
  match ← commandFields run words with
  | [] =>
    redirected run (pure ()) redirections do
      let shown ← assignAll run assignments
      traceCommand run errors shown
      modify fun s => { s with status := s.substituted }
  | name :: arguments =>
    let lasting := assignmentsLast (← get) name
    let scope : Scope := ⟨lasting, !lasting || name == "exec"⟩
    let call : Sh Unit := assigning run scope [] (fun shown => do
      traceCommand run errors (shown ++ name :: arguments)
      callNamed run mode (arguments.length + 2) ⟨name, arguments, true, true⟩) assignments
    if redirections.isEmpty then call
    else if name = "exec" then
      if ← redirect run redirections then call
      else
        setStatus 2
        throw .fail
    else redirected run (if lasting then throw .fail else pure ()) redirections call

end Assay.Shell
