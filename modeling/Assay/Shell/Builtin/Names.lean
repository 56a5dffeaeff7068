import Assay.Shell.Builtin.Basic

/-!
# Commands on names

Variables are marked, dropped and made local; arguments and options are set;
and words are made to stand for other text.
-/

set_option autoImplicit false

namespace Assay.Shell

def shownBinding (before : String) (b : String × Binding) : String :=
  before ++ b.1 ++ match b.2.value with
    | some value => "=" ++ singleQuoted value
    | none => ""

def showBindings (before : String) (p : Binding → Bool) : Sh Nat := do
  let s ← get
  let shown := (s.bindings.filter fun b => p b.2).mergeSort fun a b => decide (a.1 ≤ b.1)
  putLines (shown.map (shownBinding before))

def markAll (mark : Binding → Binding) : List String → Sh Unit
  | [] => return
  | argument :: rest => do
    let (name, value) := splitEquals argument
    match value with
    | some value => setVariable name value
    | none => if !isName name then abort (name ++ ": bad variable name")
    modify fun s => s.bind name (mark ((s.binding? name).getD ⟨none, false, false⟩))
    markAll mark rest

def markCommand (before : String) (isMarked : Binding → Bool) (mark : Binding → Binding)
    (arguments : List String) : Sh Nat := do
  let (options, names) ← optionsOf "p" arguments
  if names.isEmpty || !options.isEmpty then showBindings before isMarked
  else
    markAll mark names
    return 0

def exportCommand : List String → Sh Nat :=
  markCommand "export " Binding.exported fun b => { b with exported := true }

def readonlyCommand : List String → Sh Nat :=
  markCommand "readonly " Binding.fixed fun b => { b with fixed := true }

def unsetVariables : List String → Sh Unit
  | [] => return
  | name :: rest => do
    let s ← get
    if !isName name then abort (name ++ ": bad variable name")
    if (s.binding? name).any Binding.fixed then abort (name ++ ": is read only")
    if name = "OPTIND" then abort "Illegal number: "
    set (s.drop name)
    unsetVariables rest

def unsetCommand (arguments : List String) : Sh Nat := do
  let (options, names) ← optionsOf "vf" arguments
  if (options.getLast?.map Prod.fst) == some 'f' then
    modify fun s => { s with functions := s.functions.filter fun f => !names.contains f.1 }
  else unsetVariables names
  return 0

/-- Remembers what a name stands for, until the function comes back. -/
def Session.remember (s : Session) (name : String) : Session :=
  let saved := if name = "-" then Saved.options s.options
    else .binding name (s.binding? name)
  { s with frames := (saved :: s.frames.headD []) :: s.frames.tail }

def makeLocal : List String → Sh Unit
  | [] => return
  | argument :: rest => do
    let (name, value) := splitEquals argument
    modify fun s => s.remember name
    match value with
    | some value => setVariable name value
    | none => if name ≠ "-" && !isName name then abort (name ++ ": bad variable name")
    makeLocal rest

def localCommand (arguments : List String) : Sh Nat := do
  if (← get).frames.isEmpty then abort "not in a function"
  makeLocal arguments
  return 0

def optionNames : List (String × Option Char) := [
  ("errexit", some 'e'), ("noglob", some 'f'), ("ignoreeof", some 'I'),
  ("interactive", some 'i'), ("monitor", some 'm'), ("noexec", some 'n'), ("stdin", some 's'),
  ("xtrace", some 'x'), ("verbose", some 'v'), ("vi", some 'V'), ("emacs", some 'E'),
  ("noclobber", some 'C'), ("allexport", some 'a'), ("notify", some 'b'), ("nounset", some 'u'),
  ("privileged", some 'p'), ("nolog", none), ("debug", none)]

def isOptionLetter (c : Char) : Bool := optionNames.any fun o => o.2 == some c

def setOption (c : Char) (on : Bool) : Sh Unit := do
  if !isOptionLetter c then abort ("Illegal option -" ++ String.singleton c)
  if on && c = 'm' then complain "can't access tty; job control turned off"
  else
    modify fun s => { s with
      options := if on then c :: s.options.erase c else s.options.erase c }

def showOptions (asCommands : Bool) : Sh Nat := do
  let s ← get
  let isOn := fun (o : String × Option Char) => o.2.any s.has
  if asCommands then
    putLines (optionNames.map fun o => "set " ++ (if isOn o then "-o " else "+o ") ++ o.1)
  else
    let pad := fun (name : String) => name ++ String.ofList (List.replicate (16 - name.length) ' ')
    putLines ("Current option settings" :: optionNames.map fun o =>
      pad o.1 ++ if isOn o then "on" else "off")

def setNamedOption (name : String) (on : Bool) : Sh Unit := do
  match optionNames.find? fun o => o.1 == name with
  | some (_, some c) => setOption c on
  | some (_, none) => return
  | none => abort ("Illegal option -o " ++ name)

/-- Letters of a word of options. Those that take a name leave the rest of the words. -/
def setLetters (on : Bool) : List Char → List String → Sh (List String)
  | [], rest => return rest
  | 'o' :: cs, rest => do
    match rest with
    | [] =>
      let _ ← showOptions (!on)
      setLetters on cs []
    | name :: rest =>
      setNamedOption name on
      setLetters on cs rest
  | c :: cs, rest => do
    setOption c on
    setLetters on cs rest

def setArguments (arguments : List String) : Sh Unit :=
  modify fun s => { s with arguments := arguments, cursor := ⟨1, none⟩ }

def setWords : Nat → List String → Sh Unit
  | 0, _ => return
  | fuel + 1, words => do
    match words with
    | [] => return
    | word :: rest =>
      match word.toList with
      | ['-'] =>
        modify fun s => { s with options := (s.options.erase 'x').erase 'v' }
        if !rest.isEmpty then setArguments rest
      | ['-', '-'] => setArguments rest
      | '-' :: cs => setWords fuel (← setLetters true cs rest)
      | '+' :: cs => setWords fuel (← setLetters false cs rest)
      | _ => setArguments words

def setCommand (arguments : List String) : Sh Nat := do
  if arguments.isEmpty then showBindings "" fun b => b.value.isSome
  else
    setWords (arguments.length + 1) arguments
    return 0

def shift (arguments : List String) : Sh Nat := do
  let n ← match arguments with
    | [] => pure 1
    | a :: _ => requireNumber a
  let s ← get
  if s.arguments.length < n then abort "can't shift that many"
  set { s with arguments := s.arguments.drop n, cursor := ⟨1, none⟩ }
  return 0

def shownAlias (a : String × String) : String := a.1 ++ "=" ++ singleQuoted a.2

def aliasAll (status : Nat) : List String → Sh Nat
  | [] => return status
  | argument :: rest => do
    let s ← get
    match splitEquals argument with
    | (name, some text) =>
      let others := s.aliases.filter fun a => a.1 != name
      set { s with aliases := others ++ [(name, text)] }
      aliasAll status rest
    | (name, none) =>
      match s.aliases.find? fun a => a.1 == name with
      | some a =>
        let _ ← putLines [shownAlias a]
        aliasAll status rest
      | none =>
        note ("alias: " ++ name ++ " not found\n")
        aliasAll 1 rest

def aliasCommand (arguments : List String) : Sh Nat := do
  if arguments.isEmpty then
    let shown := (← get).aliases.mergeSort fun a b => decide (bucket a.1 ≤ bucket b.1)
    putLines (shown.map shownAlias)
  else aliasAll 0 arguments

def unaliasAll (status : Nat) : List String → Sh Nat
  | [] => return status
  | name :: rest => do
    let s ← get
    if s.aliases.any fun a => a.1 == name then
      set { s with aliases := s.aliases.filter fun a => a.1 != name }
      unaliasAll status rest
    else
      note ("unalias: " ++ name ++ " not found\n")
      unaliasAll 1 rest

def unaliasCommand (arguments : List String) : Sh Nat := do
  let (options, names) ← optionsOf "a" arguments
  if options.isEmpty then unaliasAll 0 names
  else
    modify fun s => { s with aliases := [] }
    return 0

def nameBuiltins : List Builtin := [
  ⟨"export", true, true, fun _ _ => exportCommand⟩,
  ⟨"readonly", true, true, fun _ _ => readonlyCommand⟩,
  ⟨"local", true, true, fun _ _ => localCommand⟩,
  .special "unset" unsetCommand,
  .special "set" setCommand,
  .special "shift" shift,
  .plain "alias" aliasCommand,
  .plain "unalias" unaliasCommand]

end Assay.Shell
