/-!
# Scripts

The commands that a script consists of, and the source that it is read from.
-/

set_option autoImplicit false

namespace Assay.Shell

/-!
## Shell commands

A script is a sequence of commands. Their words are kept in pieces, so that
what a word stands for can be found when the command is carried out.
-/

/-- What is done with the value of a parameter. A flag tells whether an empty value
counts as none, or whether the longest match is cut. -/
inductive Use where
  | plain
  | length
  | default (orEmpty : Bool)
  | assign (orEmpty : Bool)
  | replace (orEmpty : Bool)
  | require (orEmpty : Bool)
  | cutHead (longest : Bool)
  | cutTail (longest : Bool)
  | bad
deriving DecidableEq, Repr

inductive RedirectionKind where
  | write
  | overwrite
  | append
  | read
  | readWrite
  | duplicate
deriving DecidableEq, Repr

mutual

/-- A part of a word. What is quoted is neither split nor taken for a pattern; a quoted
text without characters still makes a field. -/
inductive Piece where
  | text (quoted : Bool) (cs : List Char)
  | parameter (quoted : Bool) (name : String) (use : Use) (argument : List Piece)
  | arithmetic (quoted : Bool) (body : List Piece)
  | substitution (quoted : Bool) (body : Command)

inductive Redirection where
  | toWord (descriptor : Nat) (kind : RedirectionKind) (target : List Piece)
  | document (descriptor : Nat) (number : Nat)

inductive Command where
  | nothing
  | simple (line : Nat) (assignments : List (String × List Piece)) (words : List (List Piece))
      (redirections : List Redirection)
  | sequence (first second : Command)
  | conjunction (first second : Command)
  | disjunction (first second : Command)
  | negation (body : Command)
  | pipe (source target : Command)
  | background (body : Command)
  | branch (condition success failure : Command)
  | loop (whileTrue : Bool) (condition body : Command)
  | each (line : Nat) (name : String) (words : List (List Piece)) (body : Command)
  | choice (line : Nat) (subject : List Piece) (arms : List (List (List Piece) × Command))
  | redirected (line : Nat) (body : Command) (redirections : List Redirection)
  | subshell (line : Nat) (body : Command) (redirections : List Redirection)
  | define (name : String) (line : Nat) (body : Command)

end

abbrev Word := List Piece

instance : Inhabited Command := ⟨.nothing⟩

instance : Inhabited Piece := ⟨.text false []⟩

structure Fault where
  line : Nat
  text : String
deriving DecidableEq, Repr

def isNameStart (c : Char) : Bool := c.isAlpha || c == '_'

def isNamePart (c : Char) : Bool := c.isAlphanum || c == '_'

def isName (s : String) : Bool :=
  match s.toList with
  | c :: cs => isNameStart c && cs.all isNamePart
  | [] => false

def splitAssignment? (text : String) : Option (String × String) :=
  match text.toList.span isNamePart with
  | (c :: name, '=' :: value) =>
    if isNameStart c then some (String.ofList (c :: name), String.ofList value) else none
  | _ => none

/-!
## Sources

A script is read from a source: the text that is left, the line that has been
reached, a token that was put back, and the documents that the commands on the
line have announced. Names that stand for other text are put in its place
while the source is read.
-/

inductive Operator where
  | semicolon
  | background
  | conjunction
  | disjunction
  | pipe
  | opening
  | closing
  | endArm
deriving DecidableEq, Repr

namespace Operator

def text : Operator → String
  | semicolon => ";"
  | background => "&"
  | conjunction => "&&"
  | disjunction => "||"
  | pipe => "|"
  | opening => "("
  | closing => ")"
  | endArm => ";;"

end Operator

/-- How a redirection starts, before its target has been read. -/
inductive Arrow where
  | toWord (kind : RedirectionKind)
  | document (dropTabs : Bool)
deriving DecidableEq, Repr

inductive Token where
  | word (pieces : Word) (plain : Option String)
  | redirection (descriptor : Nat) (arrow : Arrow)
  | operator (o : Operator)
  | keyword (text : String)
  | newline
  | finish
deriving Inhabited

def specialCommands : List String :=
  [":", ".", "break", "continue", "eval", "exec", "exit", "export", "local", "readonly", "return",
    "set", "shift", "times", "trap", "unset"]

/-- Commands whose assignments last, and whose faults end the shell. -/
def isSpecialCommand (command : String) : Bool := specialCommands.contains command

def keywords : List String :=
  ["!", "case", "do", "done", "elif", "else", "esac", "fi", "for", "if", "in", "then", "until",
    "while", "\x7b", "\x7d"]

namespace Token

def describe : Token → String
  | word _ _ => "word"
  | redirection _ _ => "redirection"
  | operator o => "\"" ++ o.text ++ "\""
  | keyword text => "\"" ++ text ++ "\""
  | newline => "newline"
  | finish => "end of file"

def isKeyword (t : Token) (text : String) : Bool :=
  match t with
  | keyword k => k == text
  | _ => false

def isOperator (t : Token) (o : Operator) : Bool :=
  match t with
  | operator p => p == o
  | _ => false

def endsList : Token → Bool
  | operator .closing => true
  | operator .endArm => true
  | keyword k => ["do", "done", "elif", "else", "esac", "fi", "then", "\x7d"].contains k
  | finish => true
  | _ => false

end Token

structure Announced where
  number : Nat
  mark : List Char
  quoted : Bool
  dropTabs : Bool

/-- A name whose text has been put in its place: the length of the source behind that
text, and whether the text ends with a blank, so that the next word is replaced as well. -/
structure Replaced where
  name : String
  left : Nat
  blank : Bool

structure Source where
  rest : List Char
  line : Nat
  pushed : Option Token
  pending : List Announced
  documents : List (Nat × Word)
  nextDocument : Nat
  aliases : List (String × String)
  replacing : List Replaced

def Source.start (text : List Char) (line : Nat) (documents : List (Nat × Word))
    (nextDocument : Nat) (aliases : List (String × String)) : Source :=
  ⟨text, line, none, [], documents, nextDocument, aliases, []⟩

abbrev Reading := StateT Source (Except Fault)

namespace Reading

def refuse {α : Type} (text : String) : Reading α := do
  throw ⟨(← get).line, "Syntax error: " ++ text⟩

def unexpected {α : Type} (t : Token) (expecting : Option Token) : Reading α :=
  refuse (t.describe ++ " unexpected" ++
    match expecting with
    | some e => " (expecting " ++ e.describe ++ ")"
    | none => "")

/-- Takes the next character, with line ends counted. -/
def next? : Reading (Option Char) := do
  let s ← get
  match s.rest with
  | [] => return none
  | c :: cs =>
    set { s with rest := cs, line := if c = '\n' then s.line + 1 else s.line }
    return some c

/-- Passes over line ends that a backslash hides, given as many characters as there are. -/
def joinLines : Nat → Reading Unit
  | 0 => return
  | n + 1 => do
    let s ← get
    match s.rest with
    | '\\' :: '\n' :: cs =>
      set { s with rest := cs, line := s.line + 1 }
      joinLines n
    | _ => return

/-- The next character, which is left, where hidden line ends do not count. -/
def peek? : Reading (Option Char) := do
  match (← get).rest with
  | '\\' :: '\n' :: cs =>
    joinLines (cs.length + 1)
    return (← get).rest.head?
  | cs => return cs.head?

def skip : Reading Unit := do
  let _ ← next?

def accept (c : Char) : Reading Bool := do
  if (← peek?) = some c then
    skip
    return true
  else return false

def takeWhile (p : Char → Bool) : Nat → Reading (List Char)
  | 0 => return []
  | n + 1 => do
    match ← peek? with
    | some c =>
      if p c then
        skip
        return c :: (← takeWhile p n)
      else return []
    | none => return []

end Reading

end Assay.Shell
