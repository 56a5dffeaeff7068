import Assay.Shell.Source

/-!
# Reading words

Quotes and dollar signs are resolved while a word is read, so that a word is
already a list of pieces. Where a word holds commands, their reading is left to
a reader that is handed in; it is told whether a parenthesis closes them.
-/

set_option autoImplicit false

namespace Assay.Shell

/-- Where pieces are read, which decides what ends them and what quotes mean. -/
inductive Setting where
  | bare
  | argument
  | quoted
  | quotedArgument
  | innerQuoted
  | document
  | arithmetic (depth : Nat)
deriving DecidableEq, Repr

namespace Setting

def isQuoted : Setting → Bool
  | bare => false
  | argument => false
  | _ => true

def isEscapable (x : Setting) (c : Char) : Bool :=
  c == '\\' || c == '`' || c == '$' || (c == '"' && x != document) ||
    (c == '\x7d' && (x == quotedArgument || x == innerQuoted))

def inBraces (x : Setting) : Use → Setting
  | .cutHead _ => argument
  | .cutTail _ => argument
  | _ => if x.isQuoted then quotedArgument else argument

end Setting

def isMeta (c : Char) : Bool := " \t\n;&|<>()".toList.contains c

def isSpecial (c : Char) : Bool := "@*#?-$!".toList.contains c || c.isDigit

structure Draft where
  done : List Piece
  quoted : Bool
  run : List Char

namespace Draft

def empty : Draft := ⟨[], false, []⟩

def pieces (d : Draft) : List Piece :=
  if d.run.isEmpty then d.done else .text d.quoted d.run.reverse :: d.done

def char (d : Draft) (quoted : Bool) (c : Char) : Draft :=
  if d.run.isEmpty || d.quoted == quoted then ⟨d.done, quoted, c :: d.run⟩
  else ⟨d.pieces, quoted, [c]⟩

def add (d : Draft) (ps : List Piece) : Draft := ⟨ps.reverse ++ d.pieces, false, []⟩

def toWord (d : Draft) : Word := d.pieces.reverse

end Draft

/-- What quotes stand for: a field even without characters in it, unless it is the list
of all arguments. -/
def quotedPieces : Word → Word
  | [.parameter true "@" .plain []] => [.parameter true "@" .plain []]
  | ps => .text true [] :: ps

def unterminated : String := "Unterminated quoted string"

def unclosedBrace : String := "Missing '\x7d'"

/-- What is done with a parameter, as far as the characters behind its name say. -/
def useOf? (orEmpty : Bool) : Char → Option Use
  | '-' => some (.default orEmpty)
  | '=' => some (.assign orEmpty)
  | '+' => some (.replace orEmpty)
  | '?' => some (.require orEmpty)
  | _ => none

namespace Reading

def untilQuote : Nat → Reading (List Char)
  | 0 => refuse unterminated
  | n + 1 => do
    match ← next? with
    | none => refuse unterminated
    | some '\'' => return []
    | some c => return c :: (← untilQuote n)

/-- The text up to a closing backquote, without the backslashes that only protect
characters from it. -/
def untilBackquote (quoted : Bool) : Nat → Reading (List Char)
  | 0 => refuse "EOF in backquote substitution"
  | n + 1 => do
    let _ ← peek?
    match ← next? with
    | none => refuse "EOF in backquote substitution"
    | some '`' => return []
    | some '\\' =>
      match (← get).rest with
      | c :: _ =>
        if c = '\\' ∨ c = '`' ∨ c = '$' ∨ (quoted ∧ c = '"') then
          skip
          return c :: (← untilBackquote quoted n)
        else return '\\' :: (← untilBackquote quoted n)
      | [] => return '\\' :: (← untilBackquote quoted n)
    | some c => return c :: (← untilBackquote quoted n)

/-- Reads with nothing put back and no documents announced, which are kept meanwhile. -/
def apart {α : Type} (body : Reading α) : Reading α := do
  let s ← get
  set { s with pushed := none, pending := [] }
  let a ← body
  modify fun t => { t with pushed := s.pushed, pending := s.pending }
  return a

/-- Reads a text of its own instead of the source, with lines counted from a given one. -/
def within {α : Type} (text : List Char) (line : Nat) (body : Reading α) : Reading α := do
  let s ← get
  set { s with rest := text, line := line, pushed := none, pending := [], replacing := [] }
  let a ← body
  modify fun t => { t with
    rest := s.rest
    line := s.line
    pushed := s.pushed
    pending := s.pending
    replacing := s.replacing }
  return a

/-- The rest of a use behind the name of a parameter: what is done, and whether the brace
has been taken already. -/
def useBehind : Reading (Use × Bool) := do
  match ← peek? with
  | some '\x7d' =>
    skip
    return (.plain, true)
  | some ':' =>
    skip
    match ← peek? with
    | some c =>
      skip
      return ((useOf? true c).getD .bad, false)
    | none => return (.bad, false)
  | some '#' =>
    skip
    return (.cutHead (← accept '#'), false)
  | some '%' =>
    skip
    return (.cutTail (← accept '%'), false)
  | some c =>
    skip
    return ((useOf? false c).getD .bad, false)
  | none => return (.bad, false)

def plainName? (n : Nat) : Reading (Option String) := do
  match ← peek? with
  | some c =>
    if isNameStart c then return some (String.ofList (← takeWhile isNamePart n))
    else if c.isDigit then return some (String.ofList (← takeWhile Char.isDigit n))
    else return none
  | none => return none

def lengthEnd : Reading (Use × Bool) := do
  if (← peek?) = some '\x7d' then
    skip
    return (.length, true)
  else return (.bad, false)

/-- What a number sign after an opening brace starts: the length of a parameter, or a use
of the number of arguments. -/
def behindNumberSign (n : Nat) : Reading (String × Use × Bool) := do
  match ← plainName? n with
  | some name => return (name, ← lengthEnd)
  | none =>
    let s ← get
    match ← peek? with
    | some '\x7d' => return ("#", ← useBehind)
    | some c =>
      skip
      if (← peek?) = some '\x7d' ∧ isSpecial c then
        skip
        return (String.singleton c, .length, true)
      else
        set s
        return ("#", ← useBehind)
    | none => return ("#", ← useBehind)

def braceHead (n : Nat) : Reading (String × Use × Bool) := do
  match ← plainName? n with
  | some name => return (name, ← useBehind)
  | none =>
    match ← peek? with
    | some '\x7d' => return ("", .bad, false)
    | some '#' =>
      skip
      behindNumberSign n
    | some c =>
      skip
      if isSpecial c then return (String.singleton c, ← useBehind)
      else return ("", .bad, false)
    | none => return ("", .bad, false)

mutual

def pieces (commands : Bool → Reading Command) (literal : Bool) :
    Nat → Setting → Draft → Reading Word
  | 0, _, _ => refuse unterminated
  | n + 1, x, d => do
    match ← peek? with
    | none =>
      match x with
      | .bare => return d.toWord
      | .document => return d.toWord
      | .argument => refuse unclosedBrace
      | .arithmetic _ => refuse "Missing '))'"
      | _ => refuse unterminated
    | some c =>
      if x = .bare && isMeta c then return d.toWord
      skip
      if c = '\\' then
        match ← next? with
        | none => pieces commands literal n x (d.char true '\\')
        | some e =>
          if x.isQuoted && !x.isEscapable e then
            pieces commands literal n x ((d.char true '\\').char true e)
          else pieces commands literal n x (d.char true e)
      else if c = '$' && !literal then
        pieces commands literal n x (d.add [← dollar commands n x])
      else if c = '`' && !literal then
        let text ← untilBackquote x.isQuoted n
        let body ← within text 1 (commands false)
        pieces commands literal n x (d.add [.substitution x.isQuoted body])
      else
        match x, c with
        | .bare, '\'' => singleQuoted commands literal n x d
        | .argument, '\'' => singleQuoted commands literal n x d
        | .bare, '"' => doubleQuoted commands literal n x d .quoted
        | .argument, '"' => doubleQuoted commands literal n x d .quoted
        | .quotedArgument, '"' => doubleQuoted commands literal n x d .innerQuoted
        | .quoted, '"' => return d.toWord
        | .innerQuoted, '"' => return d.toWord
        | .argument, '\x7d' => return d.toWord
        | .quotedArgument, '\x7d' => return d.toWord
        | .arithmetic depth, '(' =>
          pieces commands literal n (.arithmetic (depth + 1)) (d.char true c)
        | .arithmetic (depth + 1), ')' =>
          pieces commands literal n (.arithmetic depth) (d.char true c)
        | .arithmetic 0, ')' =>
          if ← accept ')' then return d.toWord
          else pieces commands literal n x (d.char true c)
        | _, _ => pieces commands literal n x (d.char x.isQuoted c)

def singleQuoted (commands : Bool → Reading Command) (literal : Bool) :
    Nat → Setting → Draft → Reading Word
  | 0, _, _ => refuse unterminated
  | n + 1, x, d => do
    let cs ← untilQuote n
    pieces commands literal n x (d.add [.text true cs])

def doubleQuoted (commands : Bool → Reading Command) (literal : Bool) :
    Nat → Setting → Draft → Setting → Reading Word
  | 0, _, _, _ => refuse unterminated
  | n + 1, x, d, inner => do
    let ps ← pieces commands literal n inner .empty
    pieces commands literal n x (d.add (quotedPieces ps))

def dollar (commands : Bool → Reading Command) : Nat → Setting → Reading Piece
  | 0, _ => refuse unterminated
  | n + 1, x => do
    let quoted := x.isQuoted
    match ← peek? with
    | some '(' =>
      skip
      if ← accept '(' then
        return .arithmetic quoted (← pieces commands false n (.arithmetic 0) .empty)
      else return .substitution quoted (← apart (commands true))
    | some '\x7b' =>
      skip
      let (name, use, closed) ← braceHead n
      if closed then return .parameter quoted name use []
      let argument ← pieces commands false n (x.inBraces use) .empty
      return .parameter quoted name use argument
    | some c =>
      if isNameStart c then
        return .parameter quoted (String.ofList (← takeWhile isNamePart n)) .plain []
      else if isSpecial c then
        skip
        return .parameter quoted (String.singleton c) .plain []
      else return .text quoted ['$']
    | none => return .text quoted ['$']

end

end Reading

def plainText? : Word → Option String
  | [.text false cs] => some (String.ofList cs)
  | _ => none

/-- The text of a word with its quotes dropped and nothing expanded. -/
def literalText (w : Word) : List Char :=
  w.flatMap fun
    | .text _ cs => cs
    | _ => []

def isQuotedWord (w : Word) : Bool :=
  w.any fun
    | .text quoted _ => quoted
    | _ => false

end Assay.Shell
