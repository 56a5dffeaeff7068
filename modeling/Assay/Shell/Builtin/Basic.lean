import Assay.Shell.Condition
import Assay.Shell.Process

/-!
# Commands of the shell

A shell carries some commands out itself. Each yields a status, which is zero
for success. Those that are special end the shell with their faults, and what
is assigned in front of them lasts.
-/

set_option autoImplicit false

namespace Assay.Shell

structure Builtin where
  name : String
  isSpecial : Bool
  isAssigning : Bool
  body : Runner → Mode → List String → Sh Nat

namespace Builtin

def plain (name : String) (body : List String → Sh Nat) : Builtin :=
  ⟨name, false, false, fun _ _ => body⟩

def special (name : String) (body : List String → Sh Nat) : Builtin :=
  ⟨name, true, false, fun _ _ => body⟩

end Builtin

/-- Writes to standard output. A failure is said, and is the status. -/
def put (text : String) : Sh Nat := do
  let s ← get
  match s.write (bytesOf text.toList) (s.sink? 1) with
  | .ok s =>
    set s
    return 0
  | .error _ =>
    complain (s.command.getD "" ++ ": I/O error")
    return 1

def putLines (lines : List String) : Sh Nat :=
  put (String.join (lines.map fun l => l ++ "\n"))

def badNumber {α : Type} (text : String) : Sh α := abort ("Illegal number: " ++ text)

def requireNumber (text : String) : Sh Nat := do
  match readDecimal? text with
  | some (.ofNat n) => if n ≤ Int32.maxValue.toInt then return n else badNumber text
  | _ => badNumber text

/-- Takes options off some arguments. A letter that a colon follows takes a text with it. -/
def takeOptions (letters : String) :
    Nat → List String → Sh (List (Char × String) × List String)
  | 0, arguments => return ([], arguments)
  | fuel + 1, arguments => do
    match arguments with
    | "--" :: rest => return ([], rest)
    | option :: rest =>
      match option.toList with
      | '-' :: c :: cs => do
        let (found, rest) ← takeLetters (c :: cs) rest
        let (more, rest) ← takeOptions letters fuel rest
        return (found ++ more, rest)
      | _ => return ([], arguments)
    | [] => return ([], [])
where
  takeLetters : List Char → List String → Sh (List (Char × String) × List String)
    | [], rest => return ([], rest)
    | c :: cs, rest => do
      match letters.toList.dropWhile (· != c) with
      | _ :: ':' :: _ =>
        if !cs.isEmpty then return ([(c, String.ofList cs)], rest)
        match rest with
        | text :: rest => return ([(c, text)], rest)
        | [] => abort ("No arg for -" ++ String.singleton c ++ " option")
      | _ :: _ =>
        if c = ':' then abort "Illegal option -:"
        let (found, rest) ← takeLetters cs rest
        return ((c, "") :: found, rest)
      | [] => abort ("Illegal option -" ++ String.singleton c)

def optionsOf (letters : String) (arguments : List String) :
    Sh (List (Char × String) × List String) :=
  takeOptions letters (arguments.length + 1) arguments

/-- Arguments behind the mark that ends options, of which none is known. -/
def withoutOptions (arguments : List String) : Sh (List String) := do
  return (← optionsOf "" arguments).2

def singleQuoted (text : String) : String :=
  String.join (parts (text.length + 1) text.toList)
where
  parts : Nat → List Char → List String
    | 0, _ => []
    | fuel + 1, cs =>
      let (body, rest) := cs.span (· != '\'')
      let (quotes, rest) := rest.span (· == '\'')
      let quoted := "'" ++ String.ofList body ++ "'"
      if quotes.isEmpty then [quoted]
      else
        let marked := "\"" ++ String.ofList quotes ++ "\""
        quoted :: marked :: if rest.isEmpty then [] else parts fuel rest

def splitEquals (text : String) : String × Option String :=
  match text.toList.span (· != '=') with
  | (name, _ :: value) => (String.ofList name, some (String.ofList value))
  | (name, []) => (String.ofList name, none)

end Assay.Shell
