import Assay.Shell.Builtin.Basic
import Assay.Shell.FileNames
import Assay.Shell.Format

/-!
# Commands on texts

Commands of the shell that write, test and read.
-/

set_option autoImplicit false

namespace Assay.Shell

/-! ## Commands that write and test -/

def echo (arguments : List String) : Sh Nat := do
  let (words, newline) := match arguments with
    | "-n" :: rest => (rest, false)
    | words => (words, true)
  let (cs, ended) := withoutEscapes (String.intercalate " " words).toList
  put (String.ofList cs ++ if newline && !ended then "\n" else "")

def complainAll : List String → Sh Unit
  | [] => return
  | text :: rest => do
    complain text
    complainAll rest

def printf (arguments : List String) : Sh Nat := do
  match ← withoutOptions arguments with
  | [] => abort "usage: printf format [arg ...]"
  | format :: arguments =>
    let f := formatted format arguments
    complainAll f.complaints.reverse
    match f.fault with
    | some text =>
      complain text
      let _ ← put f.text
      setStatus 2
      throw .fail
    | none =>
      let status ← put f.text
      return if f.complaints.isEmpty then status else 1

def test (arguments : List String) : Sh Nat := do
  match Condition.eval (← get) false arguments with
  | .ok b => return Session.flag b
  | .error text => abort text

def bracketTest (arguments : List String) : Sh Nat := do
  if arguments.getLast? = some "]" then test arguments.dropLast else abort "missing ]"

def outputBuiltins : List Builtin := [
  .plain "echo" echo,
  .plain "printf" printf,
  .plain "test" test,
  .plain "[" bracketTest,
  .plain "true" fun _ => pure 0,
  .plain "false" fun _ => pure 1,
  .special ":" fun _ => pure 0]

/-!
## Commands that read

A line of the input is read into variables, and the options of a script are
taken off its arguments one by one.
-/

/-- Marks of a line of the input, what is left behind it, and whether it was ended. What
follows a backslash is not split, and a line end behind one does not count. -/
def lineMarks (raw : Bool) : List Char → List Mark × List Char × Bool
  | [] => ([], [], false)
  | '\n' :: cs => ([], cs, true)
  | '\x00' :: cs => lineMarks raw cs
  | '\\' :: c :: cs =>
    if raw then
      let (ms, rest, ended) := lineMarks raw (c :: cs)
      (.glyph ⟨false, '\\'⟩ true :: ms, rest, ended)
    else
      let (ms, rest, ended) := lineMarks raw cs
      ((if c = '\n' then [.border] else [.glyph ⟨false, c⟩ false, .border]) ++ ms, rest, ended)
  | c :: cs =>
    if c = '\\' && !raw then ([], [], false)
    else
      let (ms, rest, ended) := lineMarks raw cs
      (.glyph ⟨false, c⟩ true :: ms, rest, ended)

/-- Gives names the fields of a line; those that get none are emptied. -/
def setFields : List String → List String → Sh Unit
  | [], _ => return
  | name :: names, fields => do
    setVariable name (fields.headD "")
    setFields names fields.tail

def readCommand (arguments : List String) : Sh Nat := do
  let (options, names) ← optionsOf "rp:" arguments
  if names.isEmpty then abort "arg count"
  let (marks, rest, ended) := lineMarks (options.any fun o => o.1 == 'r') (← remainingInput)
  leaveInput rest
  let s ← get
  let fields := Splitting.fields s.splitters (some names.length) marks
  setFields names (fields.map glyphText)
  return Session.flag ended

/-- An option that has been found: its letter, the text that goes with it, what is to be
said, and where the next one is looked for. -/
structure FoundOption where
  letter : Char
  text : Option String
  remark : Option String
  cursor : OptionCursor

def listed? (letters : List Char) (c : Char) : Option Bool :=
  match letters with
  | [] => none
  | d :: ':' :: rest => if c = d then some true else listed? rest c
  | d :: rest => if c = d then some false else listed? rest c

/-- What is left of the argument that options are being taken off, and the place behind it. -/
def optionRest? (arguments : List String) (c : OptionCursor) : Option (List Char × Nat) :=
  let begun := match c.offset with
    | some n => if 1 < c.next then (((arguments[c.next - 2]?).getD "").toList.drop n) else []
    | none => []
  if begun ≠ [] then some (begun, c.next)
  else
    match (arguments[c.next - 1]?).map String.toList with
    | some ['-', '-'] => none
    | some ('-' :: d :: ds) => some (d :: ds, c.next + 1)
    | _ => none

def optionsEnd (arguments : List String) (c : OptionCursor) : OptionCursor :=
  if arguments[c.next - 1]? == some "--" then ⟨c.next + 1, none⟩ else ⟨c.next, none⟩

def findOption? (letters : List Char) (arguments : List String) (c : OptionCursor) :
    Option FoundOption :=
  let quiet := letters.head? == some ':'
  let letters := if quiet then letters.tail else letters
  match optionRest? arguments c with
  | some (d :: ds, next) =>
    let length := ((arguments[next - 2]?).getD "").length
    let onward : OptionCursor := ⟨next, some (length - ds.length)⟩
    let problem := fun (code : Char) (remark : String) (cursor : OptionCursor) =>
      if quiet then FoundOption.mk code (some (String.singleton d)) none cursor
      else ⟨'?', none, some (remark ++ "\n"), cursor⟩
    match listed? letters d with
    | none => some (problem '?' ("Illegal option -" ++ String.singleton d) onward)
    | some false => some ⟨d, some "", none, onward⟩
    | some true =>
      if ds ≠ [] then some ⟨d, some (String.ofList ds), none, ⟨next, none⟩⟩
      else
        match arguments[next - 1]? with
        | some text => some ⟨d, some text, none, ⟨next + 1, none⟩⟩
        | none =>
          some (problem ':' ("No arg for -" ++ String.singleton d ++ " option") ⟨next, none⟩)
  | _ => none

def setCursor (c : OptionCursor) : Sh Unit :=
  modify fun s => { s.bind "OPTIND" ⟨some (toString c.next), false, false⟩ with cursor := c }

def getopts (arguments : List String) : Sh Nat := do
  match ← withoutOptions arguments with
  | letters :: name :: words =>
    let s ← get
    let arguments := if words.isEmpty then s.arguments else words
    let c := if arguments.length + 1 < s.cursor.next then ⟨1, none⟩ else s.cursor
    match findOption? letters.toList arguments c with
    | some found =>
      match found.text with
      | some text => setVariable "OPTARG" text
      | none => modify fun s => s.drop "OPTARG"
      note (found.remark.getD "")
      setCursor found.cursor
      setVariable name (String.singleton found.letter)
      return 0
    | none =>
      setCursor (optionsEnd arguments c)
      setVariable name "?"
      return 1
  | _ => abort "Usage: getopts optstring var [arg...]"

def inputBuiltins : List Builtin := [
  .plain "read" readCommand,
  .plain "getopts" getopts]

end Assay.Shell
