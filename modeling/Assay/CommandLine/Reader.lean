import Assay.Locale.Message

/-!
# Reading command lines

A command line consists of a command and its options, which are known from a
table, and is read token by token.
-/

set_option autoImplicit false

namespace Assay.CommandLine

/-!
## Options

The command line consists of a command and options. Each command has a table of
its options; what an option is called, whether it takes a value and of what kind
is said there and nowhere else.
-/

inductive OptionId where
  | help
  | version
  | language
  | category
  | verbose
  | json
  | interpreter
  | projectRoot
  | settings
  | testsDir
  | jobs
  | timeout
  | page
  | nonInteractive
  | force
deriving DecidableEq, Repr

inductive OptionKind where
  | flag
  | text
  | path
  | number (least : Nat)
deriving DecidableEq, Repr

structure OptionSpec where
  id : OptionId
  short : Option Char
  long : String
  aliases : List String
  kind : OptionKind
  fallback : Option String
  about : Message
deriving DecidableEq, Repr

namespace OptionSpec

def takesValue (o : OptionSpec) : Bool := o.kind != .flag

def answersTo (o : OptionSpec) (name : String) : Bool := o.long == name || o.aliases.contains name

end OptionSpec

def flag (id : OptionId) (short : Option Char) (long : String) (about : Message) : OptionSpec :=
  ⟨id, short, long, [], .flag, none, about⟩

def valued (id : OptionId) (long : String) (kind : OptionKind) (about : Message) : OptionSpec :=
  ⟨id, none, long, [], kind, none, about⟩

inductive Command where
  | run
  | init
deriving DecidableEq, Repr

def languageOption : OptionSpec := valued .language "lang" .text .helpLanguage

def helpOption : OptionSpec := flag .help (some 'h') "help" .helpHelp

def versionOption : OptionSpec := flag .version (some 'V') "version" .helpVersion

def projectRootOption : OptionSpec :=
  { valued .projectRoot "project-root" .path .helpProjectRoot with fallback := some "." }

def outerOptions : List OptionSpec := [languageOption, helpOption, versionOption]

namespace Command

def all : List Command := [run, init]

def name : Command → String
  | run => "run"
  | init => "init"

def ofName? (name : String) : Option Command := all.find? fun c => c.name == name

def about : Command → Message
  | run => .runAbout
  | init => .initAbout

def ownOptions : Command → List OptionSpec
  | run => [
    { valued .category "category" .text .helpCategory with short := some 'c' },
    flag .verbose (some 'v') "verbose" .helpVerbose,
    flag .json (some 'j') "json" .helpJson,
    { valued .interpreter "binary" .text .helpBinary with aliases := ["goth"] },
    projectRootOption,
    valued .settings "config" .path .helpConfig,
    valued .testsDir "tests-dir" .path .helpTestsDir,
    valued .jobs "jobs" (.number 0) .helpJobs,
    valued .timeout "timeout" (.number 1) .helpTimeout,
    valued .page "html" .path .helpHtml]
  | init => [
    projectRootOption,
    flag .nonInteractive none "non-interactive" .helpNonInteractive,
    flag .force none "force" .helpForce]

def options (c : Command) : List OptionSpec := c.ownOptions ++ [languageOption, helpOption]

end Command

/-!
## Tokens

A command line is read token by token. An option that waits for its value is
settled only when the next option is met or the tokens end, so that of two
faults the one that is met first is not always the one that is named.
-/

/-- Why the reading of a command line stops without a command to carry out. -/
inductive Stop where
  | unknownArgument (text : String)
  | unknownCommand (name : String)
  | commandMissing
  | valueMissing (option : String)
  | badValue (option value : String)
  | repeated (option : String)
  | surplusValue (option value : String)
  | helpWanted (command : Option Command)
  | versionWanted
  | nothingGiven
deriving DecidableEq, Repr

/-- Reads digits, perhaps after a plus sign, as a number of 64 bits. -/
def readWord? (text : String) : Option UInt64 :=
  let digits := match text.toList with
    | '+' :: rest => rest
    | cs => cs
  if digits = [] ∨ !digits.all Char.isDigit then none
  else
    let n := digits.foldl (fun n c => n * 10 + (c.toNat - '0'.toNat)) 0
    if n < UInt64.size then some (UInt64.ofNat n) else none

def OptionSpec.check (o : OptionSpec) (value : String) : Except Stop Unit :=
  match o.kind with
  | .flag => .ok ()
  | .text => .ok ()
  | .path => if value = "" then .error (.valueMissing o.long) else .ok ()
  | .number least =>
    match readWord? value with
    | some n => if least ≤ n.toNat then .ok () else .error (.badValue o.long value)
    | none => .error (.badValue o.long value)

/-- An option that has been named and not settled, with its value if it is known. -/
structure Pending where
  option : OptionSpec
  value : Option String
deriving DecidableEq, Repr

structure Progress where
  settled : List (OptionId × String)
  pending : Option Pending
deriving DecidableEq, Repr

namespace Progress

def empty : Progress := ⟨[], none⟩

def awaitsValue (p : Progress) : Bool := p.pending.any fun q => q.value.isNone

def isSettled (p : Progress) (id : OptionId) : Bool := p.settled.any fun e => e.1 == id

def settle (p : Progress) (o : OptionSpec) (value : String) : Except Stop Progress := do
  if p.isSettled o.id then throw (.repeated o.long)
  o.check value
  return { p with settled := p.settled ++ [(o.id, value)] }

def resolve (p : Progress) : Except Stop Progress :=
  match p.pending with
  | none => .ok p
  | some ⟨o, none⟩ => .error (.valueMissing o.long)
  | some ⟨o, some v⟩ => { p with pending := none }.settle o v

def meetFlag (p : Progress) (o : OptionSpec) (command : Option Command) :
    Except Stop Progress := do
  let p ← p.resolve
  match o.id with
  | .help => throw (.helpWanted command)
  | .version => throw .versionWanted
  | _ => p.settle o "true"

def meetValued (p : Progress) (o : OptionSpec) (value : Option String) :
    Except Stop Progress := do
  let p ← p.resolve
  match value with
  | some v => p.settle o v
  | none => return { p with pending := some ⟨o, none⟩ }

end Progress

/-- Table of the options that a reader knows, with the command they follow. -/
structure Table where
  command : Option Command
  options : List OptionSpec
deriving DecidableEq, Repr

namespace Table

def outer : Table := ⟨none, outerOptions⟩

def ofCommand (c : Command) : Table := ⟨some c, c.options⟩

def isCommandWord (t : Table) (word : String) : Bool :=
  t.command.isNone && (word == "help" || (Command.ofName? word).isSome)

def stray (t : Table) (word : String) : Stop :=
  if t.command.isNone then .unknownCommand word else .unknownArgument word

def strayAfterMark (t : Table) (word : String) : Stop :=
  if t.isCommandWord word then .unknownArgument word else t.stray word

def readLong (t : Table) (p : Progress) (name : String) (value : Option String) :
    Except Stop Progress :=
  match t.options.find? fun o => o.answersTo name with
  | none => .error (.unknownArgument ("--" ++ name))
  | some o =>
    if o.takesValue then p.meetValued o value
    else
      match value with
      | some v => .error (.surplusValue o.long v)
      | none => p.meetFlag o t.command

/-- Reads options of one letter that share a dash. What follows one that takes a value
is its value, perhaps behind an equals sign. -/
def readShort (t : Table) : Progress → List Char → Except Stop Progress
  | p, [] => .ok p
  | p, c :: rest =>
    match t.options.find? fun o => o.short == some c with
    | none => .error (.unknownArgument (String.ofList ['-', c]))
    | some o =>
      if o.takesValue then
        match rest with
        | [] => p.meetValued o none
        | '=' :: value => p.meetValued o (some (String.ofList value))
        | value => p.meetValued o (some (String.ofList value))
      else do readShort t (← p.meetFlag o t.command) rest

def splitLong (cs : List Char) : String × Option String :=
  match cs.span (· != '=') with
  | (name, _ :: value) => (String.ofList name, some (String.ofList value))
  | (name, []) => (String.ofList name, none)

def readToken (t : Table) (p : Progress) (token : String) : Except Stop Progress :=
  match token.toList with
  | '-' :: '-' :: c :: cs => let (name, value) := splitLong (c :: cs); t.readLong p name value
  | '-' :: c :: cs => t.readShort p (c :: cs)
  | _ =>
    match p.pending with
    | some ⟨o, none⟩ => .ok { p with pending := some ⟨o, some token⟩ }
    | _ => .error (t.stray token)

def read (t : Table) : Progress → List String → Except Stop (Progress × List String)
  | p, [] => .ok (p, [])
  | p, token :: rest =>
    if !p.awaitsValue && t.isCommandWord token then .ok (p, token :: rest)
    else if token = "--" then
      match rest with
      | [] => .ok (p, [])
      | word :: _ => .error (t.strayAfterMark word)
    else do read t (← t.readToken p token) rest

end Table

structure Parsed where
  command : Command
  given : List (OptionId × String)
deriving DecidableEq, Repr

namespace Parsed

def value? (p : Parsed) (id : OptionId) : Option String :=
  (p.given.find? fun e => e.1 == id).map Prod.snd

end Parsed

def readHelp : List String → Stop
  | [] => .helpWanted none
  | ["help"] => .helpWanted none
  | [name] => (Command.ofName? name).elim (.unknownCommand name) fun c => .helpWanted (some c)
  | name :: next :: _ =>
    if name = "help" ∨ (Command.ofName? name).isSome then .unknownCommand next
    else .unknownCommand name

/-- Options of a command, after those that stand before it. An option that stands on
both sides counts by its later value. -/
def finish (outer : Progress) (c : Command) (rest : List String) : Except Stop Parsed := do
  let (inner, _) ← (Table.ofCommand c).read .empty rest
  let inner ← inner.resolve
  let outer ← outer.resolve
  return ⟨c, inner.settled ++ outer.settled⟩

def parse (argv : List String) : Except Stop Parsed := do
  match ← Table.outer.read .empty argv with
  | (outer, name :: rest) =>
    match Command.ofName? name with
    | some c => finish outer c rest
    | none => throw (readHelp rest)
  | (outer, []) =>
    let outer ← outer.resolve
    if outer.settled = [] then throw .nothingGiven else throw .commandMissing

end Assay.CommandLine
