import Assay.Shell.Evaluator
import Assay.Utility.Table

/-!
# Starting shells and programs

A program is started in the place of a process. A shell takes its options, and
then carries out a text that it is given, a file, or its standard input.
-/

set_option autoImplicit false

namespace Assay.Shell

/-- Lets a shell take the place of the running process. Of what the process was, what
is exported and what is ignored stay. -/
def becomeShell (name : String) : Sh Unit := do
  let s ← get
  let imported := s.environment.map fun b => (b.1, (⟨some b.2, true, false⟩ : Binding))
  let path := Session.startPath s.files imported s.folder
  set { s with
    folderPath := path
    name := name
    arguments := []
    bindings := Session.startBindings imported path (s.above.headD 1)
    functions := []
    found := []
    aliases := []
    options := []
    traps := s.traps.filter fun t => t.2 == ""
    frames := []
    loops := 0
    cursor := ⟨1, none⟩
    status := 0
    substituted := 0
    line := 0
    reached := 0
    command := none
    children := []
    jobs := []
    leader := s.process }

structure Startup where
  isText : Bool
  arguments : List String

def takeStartup : Nat → Startup → Sh Startup
  | 0, u => return u
  | fuel + 1, u => do
    match u.arguments with
    | [] => return u
    | word :: rest =>
      match word.toList with
      | ['-'] => return { u with arguments := rest }
      | ['-', '-'] => return { u with arguments := rest }
      | '-' :: cs => takeStartup fuel (← letters u true cs rest)
      | '+' :: cs => takeStartup fuel (← letters u false cs rest)
      | _ => return u
where
  letters (u : Startup) (on : Bool) (cs : List Char) (rest : List String) : Sh Startup := do
    let rest ← setLetters on (cs.filter fun c => c != 'c' && c != 'l') rest
    return ⟨u.isText || cs.contains 'c', rest⟩

def runShell (run : Runner) (name : String) (arguments : List String) : Sh Unit := do
  becomeShell name
  let u ← takeStartup (arguments.length + 1) ⟨false, arguments⟩
  let fromInput := (← get).has 's'
  match u.isText, u.arguments with
  | true, [] => abort "-c requires an argument"
  | true, text :: words =>
    modify fun s => { s with name := words.headD name, arguments := words.tail }
    runText run ⟨false, !fromInput⟩ text
    if fromInput then runInput
  | false, [] =>
    modify fun s => { s with options := 's' :: s.options.erase 's' }
    runInput
  | false, path :: words =>
    if fromInput then
      modify fun s => { s with arguments := path :: words }
      runInput
    else
      let s ← get
      match s.files.stat s.folder (readable path) with
      | .error e => abort (cannotOpen path e)
      | .ok e =>
        modify fun s => { s with name := path, arguments := words }
        runText run .usual (String.ofList (octetsOf ((e.content?).getD [])))
where
  runInput : Sh Unit := do runText run .usual (String.ofList (← takeInput))

/-- The interpreter that the first line of a file names, and a text to hand to it. -/
def interpreterOf? (content : List Char) : Option (String × List String) :=
  match content with
  | '#' :: '!' :: cs =>
    let isBlank := fun (c : Char) => c == ' ' || c == '\t'
    let line := (cs.takeWhile (· != '\n')).dropWhile isBlank
    let (path, rest) := line.span fun c => !isBlank c
    let argument := ((rest.dropWhile isBlank).reverse.dropWhile isBlank).reverse
    some (String.ofList path, if argument.isEmpty then [] else [String.ofList argument])
  | _ => none

def runProgram (run : Runner) (p : Program) (name : String) (arguments : List String) :
    Sh Unit := do
  match p with
  | .shell => runShell run name arguments
  | .utility u =>
    match Utility.utility? u with
    | some f =>
      modify fun s => { s with name := name, command := none, options := [] }
      setStatus (← f run arguments)
    | none => setStatus 0
  | .script content =>
    let s ← get
    let path := (s.locate? name).getD name
    match interpreterOf? (octetsOf content) with
    | none => runShell run "/bin/sh" (path :: arguments)
    | some (interpreter, more) =>
      match s.programAt interpreter with
      | .ok p =>
        spend 1
        run (.program p interpreter (more ++ path :: arguments))
      | .error u =>
        complain (name ++ ": " ++ u.reason)
        setStatus u.status

def step (run : Runner) : Work → Sh Unit
  | .command mode c => do
    evalCommand run mode c
    runTraps run
  | .script mode source => runLines run mode (source.rest.length + 2) source
  | .program p name arguments => runProgram run p name arguments

/-- Carries out work that is nested as deep as the fuel allows. -/
def perform : Nat → Runner
  | 0 => fun _ => throw .never
  | fuel + 1 => fun w => step (perform fuel) w

def depthLimit : Nat := 200000

end Assay.Shell
