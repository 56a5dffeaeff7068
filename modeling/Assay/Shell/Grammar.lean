import Assay.Shell.Word

/-!
# Reading shell commands

Tokens are read as commands one line at a time, so that the lines before a
fault are carried out all the same. The fuel of a reader bounds how deep
commands stand within each other, and how many follow each other.
-/

set_option autoImplicit false

namespace Assay.Shell

/-- What a token may be besides an operator or a word: whether line ends are passed
over, and whether words may be keywords or stand for other text. -/
structure Expecting where
  newlines : Bool
  keywords : Bool
  aliases : Bool
deriving DecidableEq, Repr

namespace Expecting

def plain : Expecting := ⟨false, false, false⟩

def command : Expecting := ⟨false, true, true⟩

def laterCommand : Expecting := ⟨true, true, true⟩

def argument : Expecting := ⟨false, false, true⟩

end Expecting

/-- Lines of a document up to its mark, given as their characters. A line end behind a
backslash does not end a line unless the mark was quoted. -/
def splitDocument (a : Announced) : Nat → List Char → List Char × List Char
  | 0, cs => ([], cs)
  | n + 1, cs =>
    let cs := if a.dropTabs then cs.dropWhile (· == '\t') else cs
    let (line, behind) := takeLine a.quoted (cs.length + 1) cs
    if line = a.mark then ([], behind.drop 1)
    else
      match behind with
      | [] => (line, [])
      | _ :: rest =>
        let (more, after) := splitDocument a n rest
        (line ++ '\n' :: more, after)
where
  takeLine (quoted : Bool) : Nat → List Char → List Char × List Char
    | 0, cs => ([], cs)
    | _, [] => ([], [])
    | n + 1, '\\' :: c :: cs =>
      if quoted then
        let (line, rest) := takeLine quoted n (c :: cs)
        ('\\' :: line, rest)
      else
        let (line, rest) := takeLine quoted n cs
        ('\\' :: c :: line, rest)
    | _ + 1, '\n' :: cs => ([], '\n' :: cs)
    | n + 1, c :: cs =>
      let (line, rest) := takeLine quoted n cs
      (c :: line, rest)

namespace Reading

/-- Reads the pieces of a document. What is open at its end is noticed behind its mark. -/
def documentWord (commands : Bool → Reading Command) (n : Nat) (body : List Char)
    (first last : Nat) : Reading Word := do
  let s ← get
  match (within body first (pieces commands false n .document .empty)).run s with
  | .ok (word, t) =>
    set t
    return word
  | .error f =>
    if f.text = "Syntax error: " ++ unterminated ∨ f.text = "Syntax error: " ++ unclosedBrace then
      throw ⟨last, "Syntax error: " ++ unclosedBrace⟩
    else throw f

def documents (commands : Bool → Reading Command) (n : Nat) : List Announced → Reading Unit
  | [] => return
  | a :: more => do
    let s ← get
    let (body, rest) := splitDocument a (s.rest.length + 1) s.rest
    let read := s.rest.length - rest.length
    set { s with
      rest := rest
      line := s.line + ((s.rest.take read).filter (· == '\n')).length }
    let word ← if a.quoted then pure [.text true body]
      else documentWord commands n body s.line (s.line + (body.filter (· == '\n')).length + 1)
    modify fun s => { s with documents := (a.number, word) :: s.documents }
    documents commands n more

def takeDocuments (commands : Bool → Reading Command) (n : Nat) : Reading Unit := do
  let announced := (← get).pending
  modify fun s => { s with pending := [] }
  documents commands n announced

/-- The arrow of a redirection, whose first character is given. -/
def arrow (first : Char) : Reading (Nat × Arrow) := do
  if first = '>' then
    if ← accept '>' then return (1, .toWord .append)
    else if ← accept '|' then return (1, .toWord .overwrite)
    else if ← accept '&' then return (1, .toWord .duplicate)
    else return (1, .toWord .write)
  else if ← accept '<' then return (0, .document (← accept '-'))
  else if ← accept '&' then return (0, .toWord .duplicate)
  else if ← accept '>' then return (0, .toWord .readWrite)
  else return (0, .toWord .read)

def wordToken (commands : Bool → Reading Command) (literal : Bool) (n : Nat) : Reading Token := do
  let pieces ← pieces commands literal n .bare .empty
  let plain := plainText? pieces
  let number? := match pieces with
    | [] => some none
    | [.text false [c]] => if c.isDigit then some (some (c.toNat - '0'.toNat)) else none
    | _ => none
  match number?, ← peek? with
  | some number, some c =>
    if c = '<' ∨ c = '>' then
      skip
      let (usual, a) ← arrow c
      return .redirection (number.getD usual) a
    else return .word pieces plain
  | _, _ => return .word pieces plain

def skipBlanks : Nat → Reading Unit
  | 0 => return
  | n + 1 => do
    match ← peek? with
    | some ' ' =>
      skip
      skipBlanks n
    | some '\t' =>
      skip
      skipBlanks n
    | some '#' =>
      modify fun s => { s with rest := s.rest.dropWhile (· != '\n') }
    | _ => return

def rawToken (commands : Bool → Reading Command) (literal : Bool) (n : Nat) : Reading Token := do
  skipBlanks n
  match ← peek? with
  | none => return .finish
  | some '\n' =>
    skip
    return .newline
  | some '&' =>
    skip
    return .operator (if ← accept '&' then .conjunction else .background)
  | some '|' =>
    skip
    return .operator (if ← accept '|' then .disjunction else .pipe)
  | some ';' =>
    skip
    return .operator (if ← accept ';' then .endArm else .semicolon)
  | some '(' =>
    skip
    return .operator .opening
  | some ')' =>
    skip
    return .operator .closing
  | some _ => wordToken commands literal n

/-- Puts the text that a word stands for in its place; fails for a word that stands for
nothing else, or that is part of such a text itself. -/
def replaceWord (name : String) : Reading Bool := do
  let s ← get
  match s.aliases.find? fun a => a.1 == name with
  | some (_, text) =>
    if s.replacing.any fun r => r.name == name then return false
    else
      let blank := text.endsWith " " || text.endsWith "\t"
      set { s with
        rest := text.toList ++ s.rest
        replacing := ⟨name, s.rest.length, blank⟩ :: s.replacing }
      return true
  | none => return false

/-- Leaves the texts that have been read to their ends; whether one of them asks for the
next word to be replaced as well. -/
def leaveReplaced : Reading Bool := do
  let s ← get
  match s.replacing with
  | [] => return false
  | rs =>
    let left := s.rest.length
    set { s with replacing := rs.filter fun r => decide (r.left ≤ left) }
    return rs.any fun r => decide (left < r.left) && r.blank

/-- The next token. A token that was put back comes first. -/
def token (commands : Bool → Reading Command) : Nat → Expecting → Reading Token
  | 0, _ => return .finish
  | n + 1, x => do
    let s ← get
    let (t, chained) ← match s.pushed with
      | some t => do
        set { s with pushed := none }
        pure (t, false)
      | none => do
        skipBlanks n
        let chained ← leaveReplaced
        pure (← rawToken commands false n, chained)
    match t with
    | .newline =>
      if x.newlines then
        takeDocuments commands n
        token commands n x
      else return t
    | .word _ (some text) =>
      if x.keywords && keywords.contains text then return .keyword text
      else if (x.aliases || chained) && (← replaceWord text) then token commands n x
      else return t
    | _ => return t

def putBack (t : Token) : Reading Unit := modify fun s => { s with pushed := some t }

def redirection (commands : Bool → Reading Command) (n : Nat) (descriptor : Nat) :
    Arrow → Reading Redirection
  | .toWord kind => do
    match ← token commands n .plain with
    | .word pieces _ => return .toWord descriptor kind pieces
    | t => unexpected t none
  | .document dropTabs => do
    match ← rawToken commands true n with
    | .word pieces _ =>
      let number := (← get).nextDocument
      let announced : Announced :=
        ⟨number, literalText pieces, isQuotedWord pieces, dropTabs⟩
      modify fun s => { s with
        pending := s.pending ++ [announced]
        nextDocument := number + 1 }
      return .document descriptor number
    | t => unexpected t none

def redirections (commands : Bool → Reading Command) : Nat → Reading (List Redirection)
  | 0 => return []
  | n + 1 => do
    match ← token commands n .command with
    | .redirection d a =>
      let r ← redirection commands n d a
      return r :: (← redirections commands n)
    | t =>
      putBack t
      return []

def words (commands : Bool → Reading Command) : Nat → Reading (List Word × Token)
  | 0 => return ([], .finish)
  | n + 1 => do
    match ← token commands n .plain with
    | .word pieces _ =>
      let (ws, t) ← words commands n
      return (pieces :: ws, t)
    | t => return ([], t)

/-- What has been read of a simple command, last first. -/
structure Simple where
  assignments : List (String × Word)
  words : List Word
  redirections : List Redirection

def assignment? : Word → Option (String × Word)
  | .text false cs :: rest =>
    (splitAssignment? (String.ofList cs)).map fun (name, value) =>
      (name, if value = "" then rest else .text false value.toList :: rest)
  | _ => none

/-- The pieces of an item between arms of a choice; a token that is no word counts as an
empty one. -/
def patternOf : Token → Word
  | .word pieces _ => pieces
  | .keyword text => [.text false text.toList]
  | _ => []

def patterns (commands : Bool → Reading Command) : Nat → Token → Reading (List Word)
  | 0, t => unexpected t none
  | n + 1, first => do
    match ← token commands n .plain with
    | .operator .pipe =>
      let next ← token commands n .plain
      return patternOf first :: (← patterns commands n next)
    | .operator .closing => return [patternOf first]
    | t => unexpected t (some (.operator .closing))

/-- How a list of commands ends: with the line, or with a token that ends lists. -/
inductive Extent where
  | line
  | lines
  | perhapsLines
deriving DecidableEq, Repr

def append (first? : Option Command) (second : Command) : Command :=
  match first? with
  | none => second
  | some first => .sequence first second

def wrap (line : Nat) (c : Command) : List Redirection → Command
  | [] => c
  | rs =>
    match c with
    | .subshell l body _ => .subshell l body rs
    | _ => .redirected line c rs

def demand (commands : Bool → Reading Command) (n : Nat) (text : String) (x : Expecting) :
    Reading Unit := do
  let t ← token commands n x
  if !t.isKeyword text then unexpected t (some (.keyword text))

mutual

/-- Commands within a word, up to a parenthesis or to the end of their text. -/
def nested : Nat → Bool → Reading Command
  | 0, _ => refuse unterminated
  | n + 1, closed => do
    let c ← list n .perhapsLines false none
    if closed then
      let t ← token (nested n) n .plain
      if !t.isOperator .closing then unexpected t (some (.operator .closing))
    takeDocuments (nested n) n
    return c

def list : Nat → Extent → Bool → Option Command → Reading Command
  | 0, _, _, _ => refuse unterminated
  | n + 1, extent, mayEnd, sofar => do
    let t ← token (nested n) n ⟨extent != .line, true, true⟩
    let mayEnd := mayEnd || extent == .perhapsLines
    match t with
    | .newline =>
      takeDocuments (nested n) n
      return sofar.getD .nothing
    | .finish =>
      takeDocuments (nested n) n
      putBack .finish
      return sofar.getD .nothing
    | _ =>
      putBack t
      if extent != .line && mayEnd && t.endsList then return sofar.getD .nothing
      let c ← andOr n
      let t ← token (nested n) n .plain
      match t with
      | .operator .background => list n extent true (some (append sofar (.background c)))
      | .operator .semicolon => list n extent true (some (append sofar c))
      | .newline =>
        putBack .newline
        list n extent true (some (append sofar c))
      | .finish =>
        takeDocuments (nested n) n
        putBack .finish
        return append sofar c
      | t =>
        if extent = .line then unexpected t none
        putBack t
        return append sofar c

def andOr : Nat → Reading Command
  | 0 => refuse unterminated
  | n + 1 => do
    let c ← pipeline n .plain
    andOrFrom n c

def andOrFrom : Nat → Command → Reading Command
  | 0, c => return c
  | n + 1, c => do
    match ← token (nested n) n .plain with
    | .operator .conjunction => andOrFrom n (.conjunction c (← pipeline n .laterCommand))
    | .operator .disjunction => andOrFrom n (.disjunction c (← pipeline n .laterCommand))
    | t =>
      putBack t
      return c

def pipeline : Nat → Expecting → Reading Command
  | 0, _ => refuse unterminated
  | n + 1, x => do
    let t ← token (nested n) n x
    if t.isKeyword "!" then return .negation (← pipes n .command)
    putBack t
    pipes n .plain

def pipes : Nat → Expecting → Reading Command
  | 0, _ => refuse unterminated
  | n + 1, x => do
    let c ← command n x
    match ← token (nested n) n .plain with
    | .operator .pipe => return .pipe c (← pipes n .laterCommand)
    | t =>
      putBack t
      return c

def command : Nat → Expecting → Reading Command
  | 0, _ => refuse unterminated
  | n + 1, x => do
    let before := (← get).line
    let t ← token (nested n) n x
    let c ← match t with
      | .keyword "if" => branch n
      | .keyword "while" => loop n true
      | .keyword "until" => loop n false
      | .keyword "for" => each n before
      | .keyword "case" => choice n before
      | .operator .opening => do
        let c ← list n .lines false none
        let t ← token (nested n) n .plain
        if !t.isOperator .closing then unexpected t (some (.operator .closing))
        pure (.subshell before c [])
      | .keyword "\x7b" => do
        let c ← list n .lines false none
        let t ← token (nested n) n .plain
        if !t.isKeyword "\x7d" then unexpected t (some (.keyword "\x7d"))
        pure c
      | .word _ _ => do
        putBack t
        return ← simple n
      | .redirection _ _ => do
        putBack t
        return ← simple n
      | _ => unexpected t none
    return wrap before c (← redirections (nested n) n)

def branch : Nat → Reading Command
  | 0 => refuse unterminated
  | n + 1 => do
    let condition ← list n .lines false none
    demand (nested n) n "then" .plain
    let success ← list n .lines false none
    let t ← token (nested n) n .plain
    if t.isKeyword "elif" then return .branch condition success (← branch n)
    if t.isKeyword "else" then
      let failure ← list n .lines false none
      demand (nested n) n "fi" .plain
      return .branch condition success failure
    if !t.isKeyword "fi" then unexpected t (some (.keyword "fi"))
    return .branch condition success .nothing

def loop : Nat → Bool → Reading Command
  | 0, _ => refuse unterminated
  | n + 1, whileTrue => do
    let condition ← list n .lines false none
    demand (nested n) n "do" .plain
    let body ← list n .lines false none
    demand (nested n) n "done" .plain
    return .loop whileTrue condition body

def each : Nat → Nat → Reading Command
  | 0, _ => refuse unterminated
  | n + 1, line => do
    match ← token (nested n) n .plain with
    | .word _ (some name) =>
      if !isName name then refuse "Bad for loop variable"
      let t ← token (nested n) n .laterCommand
      let items ← if t.isKeyword "in" then do
          let (ws, t) ← words (nested n) n
          match t with
          | .newline => pure ws
          | .operator .semicolon => pure ws
          | t => unexpected t none
        else do
          if !t.isOperator .semicolon then putBack t
          pure [[.parameter true "@" .plain []]]
      demand (nested n) n "do" .laterCommand
      let body ← list n .lines false none
      demand (nested n) n "done" .plain
      return .each line name items body
    | _ => refuse "Bad for loop variable"

def choice : Nat → Nat → Reading Command
  | 0, _ => refuse unterminated
  | n + 1, line => do
    match ← token (nested n) n .plain with
    | .word subject _ =>
      demand (nested n) n "in" .laterCommand
      return .choice line subject (← arms n)
    | t => unexpected t (some (.word [] none))

def arms : Nat → Reading (List (List Word × Command))
  | 0 => refuse unterminated
  | n + 1 => do
    let t ← token (nested n) n ⟨true, true, false⟩
    if t.isKeyword "esac" then return []
    let first ← if t.isOperator .opening then token (nested n) n .plain else pure t
    let ps ← patterns (nested n) n first
    let body ← list n .perhapsLines false none
    let t ← token (nested n) n ⟨true, true, false⟩
    if t.isKeyword "esac" then return [(ps, body)]
    if t.isOperator .endArm then return (ps, body) :: (← arms n)
    unexpected t (some (.operator .endArm))

def simple : Nat → Reading Command
  | 0 => refuse unterminated
  | n + 1 => do
    let line := (← get).line
    simpleFrom n line ⟨[], [], []⟩

def simpleFrom : Nat → Nat → Simple → Reading Command
  | 0, _, _ => refuse unterminated
  | n + 1, line, s => do
    let t ← token (nested n) n (if s.words.isEmpty then .argument else .plain)
    match t with
    | .word pieces _ =>
      match assignment? pieces, s.words with
      | some a, [] => simpleFrom n line { s with assignments := a :: s.assignments }
      | _, _ => simpleFrom n line { s with words := pieces :: s.words }
    | .redirection d a =>
      let r ← redirection (nested n) n d a
      simpleFrom n line { s with redirections := r :: s.redirections }
    | .operator .opening =>
      match s.words, s.assignments, s.redirections with
      | [w], [], [] =>
        let t ← token (nested n) n .plain
        if !t.isOperator .closing then unexpected t (some (.operator .closing))
        let name := (plainText? w).getD ""
        if !isName name || isSpecialCommand name then refuse "Bad function name"
        let line := (← get).line
        return .define name line (← command n .laterCommand)
      | _, _, _ =>
        putBack t
        return finished line s
    | _ =>
      putBack t
      return finished line s
where
  finished (line : Nat) (s : Simple) : Command :=
    .simple line s.assignments.reverse s.words.reverse s.redirections.reverse

end

end Reading

def Source.fuel (s : Source) : Nat :=
  20 * (s.rest.length + 1) + s.aliases.foldr (fun a n => 20 * a.2.length + n) 0

def Source.nextLine (s : Source) : Except Fault (Option Command × Source) :=
  let start := { s with pushed := none, pending := [] }
  match start.rest with
  | [] => .ok (none, start)
  | _ =>
    match (Reading.list s.fuel .line false none).run start with
    | .ok (c, s) => .ok (some c, s)
    | .error f => .error f

end Assay.Shell
