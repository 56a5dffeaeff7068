import Assay.Shell.Builtin.Basic
import Assay.Utility.Basic

/-!
# The env utility

A program is started with another environment, in another folder. Options may
stand in one text, which is split into words.
-/

set_option autoImplicit false

namespace Assay.Utility

open Shell (Sh Runner Session octets readable)

namespace Environ

structure Splitting where
  words : List (List Char)
  apart : Bool
  quoted : Option Char

namespace Splitting

def enter (s : Splitting) : Splitting :=
  if s.apart then { s with words := [] :: s.words, apart := false } else s

def add (s : Splitting) (cs : List Char) : Splitting :=
  let s := s.enter
  match s.words with
  | word :: rest => { s with words := (cs.reverse ++ word) :: rest }
  | [] => s

def result (s : Splitting) : List String := (s.words.map fun w => String.ofList w.reverse).reverse

end Splitting

def isBlank (c : Char) : Bool := c == ' ' || decide ('\t' ≤ c ∧ c ≤ '\x0d')

/-- What a letter behind a backslash stands for in every place. -/
def letters : List (Char × Char) := [
  ('"', '"'), ('#', '#'), ('$', '$'), ('\'', '\''), ('\\', '\\'), ('f', '\x0c'), ('n', '\n'),
  ('r', '\x0d'), ('t', '\t'), ('v', '\x0b')]

def bracedName? : List Char → Option (String × List Char)
  | '\x7b' :: cs =>
    let (name, rest) := cs.span fun c => c.isAlphanum || c == '_'
    if name.isEmpty || name.head?.any Char.isDigit then none
    else
      match rest with
      | '\x7d' :: rest => some (String.ofList name, rest)
      | _ => none
  | _ => none

def split (value? : String → Option String) : Nat → List Char → Splitting →
    Except String (List String)
  | 0, _, s => .ok s.result
  | _, [], s => if s.quoted.isSome then .error "no terminating quote in -S string" else .ok s.result
  | fuel + 1, c :: cs, s =>
    let single := s.quoted == some '\''
    let double := s.quoted == some '"'
    if (c = '\'' && !double) || (c = '"' && !single) then
      let s := s.enter
      split value? fuel cs { s with quoted := if s.quoted.isSome then none else some c }
    else if isBlank c && s.quoted.isNone then
      split value? fuel (cs.dropWhile isBlank) { s with apart := true }
    else if c = '#' && s.apart then split value? fuel [] s
    else if c = '\\' && (!single || cs.head? == some '\\' || cs.head? == some '\'') then
      match cs with
      | [] => .error "invalid backslash at end of string in -S"
      | '_' :: rest =>
        if double then split value? fuel rest (s.add [' '])
        else split value? fuel rest { s with apart := true }
      | 'c' :: _ =>
        if double then .error "'\\c' must not appear in double-quoted -S string"
        else .ok s.result
      | d :: rest =>
        match letters.find? fun l => l.1 == d with
        | some (_, found) => split value? fuel rest (s.add [found])
        | none => .error ("invalid sequence '\\" ++ String.singleton d ++ "' in -S")
    else if c = '$' && !single then
      match bracedName? cs with
      | some (name, rest) =>
        split value? fuel rest (match value? name with
          | some text => s.add text.toList
          | none => s)
      | none =>
        .error ("only $\x7bVARNAME\x7d expansion is supported, error at: " ++ String.ofList (c :: cs))
    else split value? fuel cs (s.add [c])

def expand (value? : String → Option String) : Nat → List String → Except String (List String)
  | 0, words => .ok words
  | _, [] => .ok []
  | fuel + 1, word :: rest =>
    let splitBehind := fun (before : List String) (text : String) (rest : List String) => do
      let words ← split value? (text.length + 1) text.toList ⟨[], true, none⟩
      return before ++ (← expand value? fuel (words ++ rest))
    if word.startsWith "--split-string=" then
      splitBehind [] (word.drop "--split-string=".length).toString rest
    else if word = "--split-string" then
      match rest with
      | text :: rest => splitBehind [] text rest
      | [] => .ok [word]
    else
      match word.toList with
      | '-' :: '-' :: _ :: _ => do return word :: (← expand value? fuel rest)
      | '-' :: letter :: letters =>
        let plain := (letter :: letters).takeWhile fun c => "iv0".toList.contains c
        let before := if plain.isEmpty then [] else [String.ofList ('-' :: plain)]
        match (letter :: letters).drop plain.length, rest with
        | ['S'], text :: rest => splitBehind before text rest
        | 'S' :: text, rest => splitBehind before (String.ofList text) rest
        | ['u'], value :: rest | ['C'], value :: rest => do
          return word :: value :: (← expand value? fuel rest)
        | _, rest => if letter = '-' then .ok (word :: rest)
          else do return word :: (← expand value? fuel rest)
      | _ => .ok (word :: rest)

def clear : Sh Unit :=
  modify fun s => { s with
    bindings := s.bindings.map fun b => (b.1, { b.2 with exported := false }) }

def trace (verbose : Bool) (text : String) : Sh Unit := do
  if verbose then noteQuoted (text ++ "\n")

/-- Takes names out of the environment. Tells the first that cannot be one. -/
def dropNames (verbose : Bool) : List String → Sh (Option String)
  | [] => return none
  | name :: rest => do
    trace verbose ("unset:    " ++ name)
    if name = "" || name.contains '=' then return some name
    modify fun s => s.drop name
    dropNames verbose rest

def putPair (pairs : List (String × String)) (name value : String) : List (String × String) :=
  if pairs.any fun p => p.1 == name then
    pairs.map fun p => if p.1 == name then (name, value) else p
  else pairs ++ [(name, value)]

def goTo (path : String) : Sh (Option String) := do
  let s ← get
  match s.files.stat s.folder (readable path), s.files.resolve s.folder (readable path) with
  | .ok .folder, .ok place =>
    set { s with folder := place }
    return none
  | .ok _, _ => return some SystemError.notADirectory.text
  | .error e, _ => return some (reason e)

/-- Puts a program in the place of the utility, or says why that is impossible. -/
def become (wide : Bool) (run : Runner) (name : String) (arguments : List String) : Sh Nat := do
  match (← get).findProgram name with
  | .ok p =>
    run (.program p name arguments)
    return (← get).status
  | .error u =>
    let own ← ownName "env"
    Shell.note (settleQuotes wide (own ++ ": " ++ quotedText name ++ ": " ++ u.said ++ "\n"))
    if u.status = 127 && name.toList.any isBlank then
      Shell.note (own ++ ": use -[v]S to pass options in shebang lines\n")
    return u.status

end Environ

open Environ in
def env : Tool := fun run arguments => do
  let before ← get
  let value? := fun (name : String) =>
    (before.environment.find? fun b => b.1 == name).map Prod.snd
  let size := arguments.foldr (fun a n => a.length + n + 1) 1
  match expand value? size arguments with
  | .error text =>
    blame "env" text
    return 125
  | .ok arguments =>
    withOptions "env" 125 ⟨"iu:0C:v", [("ignore-environment", 'i'), ("null", '0'),
      ("unset", 'u'), ("chdir", 'C'), ("debug", 'v')], true⟩ arguments fun g => do
      let wide ← isWide
      let verbose := g.has 'v'
      let clears := g.has 'i' || g.operands.head? == some "-"
      let words := if g.operands.head? == some "-" then g.operands.tail else g.operands
      let (assigned, command) := words.span fun w => w.contains '='
      let wrong? ← if clears then do
          trace verbose "cleaning environ"
          clear
          pure none
        else dropNames verbose ((g.options.filter fun o => o.1 == 'u').map Prod.snd)
      if let some name := wrong? then
        blame "env" ("cannot unset " ++ quotedText name ++ ": " ++
          SystemError.invalidArgument.text)
        return 125
      let kept := (← get).environment
      for word in assigned do
        let (name, value) := Shell.splitEquals word
        trace verbose ("setenv:   " ++ word)
        modify fun s => s.bind name ⟨value, true, false⟩
      match command with
      | [] =>
        if g.has 'C' then refuse "env" 125 "must specify command with --chdir (-C)"
        else
          let pairs := assigned.foldl (fun pairs word =>
            let (name, value) := Shell.splitEquals word
            putPair pairs name (value.getD "")) kept
          let stop := if g.has '0' then "\x00" else "\n"
          emit "env" (String.join (pairs.map fun b => b.1 ++ "=" ++ b.2 ++ stop))
      | name :: rest =>
        if g.has '0' then refuse "env" 125 "cannot specify --null (-0) with command"
        else
          let fault? ← match g.text? 'C' with
            | some path => do
              trace verbose ("chdir:    " ++ quotedName path)
              goTo path
            | none => pure none
          if let some text := fault? then
            blame "env" ("cannot change directory to " ++ quotedName ((g.text? 'C').getD "") ++
              ": " ++ text)
            return 125
          trace verbose ("executing: " ++ name)
          for (word, i) in command.zipIdx do
            trace verbose ("   arg[" ++ toString i ++ "]= " ++ quotedText word)
          become wide run name rest

end Assay.Utility
